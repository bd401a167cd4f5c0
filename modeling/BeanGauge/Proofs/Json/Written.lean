import BeanGauge.Json.Writer
import BeanGauge.Proofs.Json.Words
import BeanGauge.Proofs.Number.Text
/-!
# Reading what was written

A value without fractions comes back from its text, but for the order of the members of its
objects: a reader puts them in the order of their names. The text is taken apart in the order in
which it is read, first into words and then into values.
-/

namespace BeanGauge.Json

open BeanGauge.Number

mutual

/-- The value as it is read again: each object with its members in the order of their names. -/
def sorted : Json → Json
  | .array items => .array (sortedItems items)
  | .object members => ofMembers (sortedMembers members)
  | j => j

/-- The items of an array as they are read again. -/
def sortedItems : List Json → List Json
  | [] => []
  | j :: js => sorted j :: sortedItems js

/-- The members of an object as they are read again, still in the order of the text. -/
def sortedMembers : List (String × Json) → List (String × Json)
  | [] => []
  | (name, j) :: ms => (name, sorted j) :: sortedMembers ms

end

mutual

def tokens : Json → List Token
  | .null => [.null]
  | .bool b => [.bool b]
  | .int n => [.int n]
  | .float x => [.float x]
  | .string s => [.string s]
  | .array items => .openBracket :: itemTokens items
  | .object members => .openBrace :: memberTokens members

/-- The words of the items of an array, with its closing bracket. -/
def itemTokens : List Json → List Token
  | [] => [.closeBracket]
  | [j] => tokens j ++ [.closeBracket]
  | j :: k :: js => tokens j ++ .comma :: itemTokens (k :: js)

/-- The words of the members of an object, with its closing brace. -/
def memberTokens : List (String × Json) → List Token
  | [] => [.closeBrace]
  | [(name, j)] => .string name :: .colon :: tokens j ++ [.closeBrace]
  | (name, j) :: m :: ms => .string name :: .colon :: tokens j ++ .comma :: memberTokens (m :: ms)

end

/-- A value whose numbers are natural ones of 64 bits, nested at most `depth` deep. -/
inductive Whole : Nat → Json → Prop
  | null {depth : Nat} : Whole depth .null
  | bool {depth : Nat} (b : Bool) : Whole depth (.bool b)
  | nat {depth n : Nat} (h : n ≤ maxSignificand) : Whole depth (.int n)
  | string {depth : Nat} (s : String) : Whole depth (.string s)
  | array {depth : Nat} {items : List Json} (h : ∀ j ∈ items, Whole depth j) :
    Whole (depth + 1) (.array items)
  | object {depth : Nat} {members : List (String × Json)} (h : ∀ m ∈ members, Whole depth m.2) :
    Whole (depth + 1) (.object members)

/-! ## Strings -/

/-- An escaped character is read back as the character. -/
theorem lexString_escapeChar (c : Char) (cs : List Char) :
    lexString (escapeChar c ++ cs) = consRead c (lexString cs) := by
  have hcontrol : ∀ n < 0x20, hexFour '0' '0' (hexDigit (n / 16)) (hexDigit (n % 16)) = some n := by
    decide
  unfold escapeChar
  -- the escapes by a letter, then a control character by its number, which is no surrogate
  iterate 7
    split
    next h => rw [eq_of_beq h]; rfl
  split
  next h =>
    have hread := hcontrol c.toNat h
    have hlow : (0xd800 ≤ c.toNat && c.toNat < 0xdc00) = false := by
      simp only [Bool.and_eq_false_imp, decide_eq_true_eq, decide_eq_false_iff_not]
      omega
    have hhigh : (0xdc00 ≤ c.toNat && c.toNat < 0xe000) = false := by
      simp only [Bool.and_eq_false_imp, decide_eq_true_eq, decide_eq_false_iff_not]
      omega
    simp only [List.cons_append, List.nil_append, lexString, hread, hlow, hhigh, Char.ofNat_toNat,
      Bool.false_eq_true, if_false]
  next hquote hslash _ _ _ _ _ hcode =>
    have hplain : (c.toNat < 0x20 || c == '\\') = false := by
      rw [Bool.or_eq_false_iff]
      exact ⟨decide_eq_false hcode, Bool.eq_false_iff.2 hslash⟩
    rw [beq_iff_eq] at hquote hslash
    rw [List.singleton_append, lexString, hplain, if_neg Bool.false_ne_true]
    · exact hquote
    · intro _ _ _ _ _ he _
      exact hslash he
    · intro _ _ he _
      exact hslash he

theorem lexString_flatMap_escapeChar (s rest : List Char) :
    lexString (s.flatMap escapeChar ++ '"' :: rest) = some (s, rest) := by
  induction s with
  | nil => rfl
  | cons c s ih =>
    rw [List.flatMap_cons, List.append_assoc, lexString_escapeChar, ih]
    rfl

theorem newline_not_mem_escapeChar (c : Char) : '\n' ∉ escapeChar c := by
  have hdigit : ∀ n < 0x20, '\n' ∉ ['\\', 'u', '0', '0', hexDigit (n / 16), hexDigit (n % 16)] := by
    decide
  unfold escapeChar
  iterate 4
    split
    · decide
  split
  next => decide
  next hline =>
    iterate 2
      split
      · decide
    split
    next hcode => exact hdigit c.toNat hcode
    next =>
      rw [List.mem_singleton]
      intro he
      exact hline (beq_iff_eq.2 he.symm)

/-! ## Numbers -/

def EndsNumber (rest : List Char) : Prop :=
  ∀ c ∈ rest.head?, isDigit c = false ∧ c ≠ '.' ∧ c ≠ 'e' ∧ c ≠ 'E'

theorem takeDigits_of_le {significand : Nat} {cs : List Char}
    (h : appendDigits significand cs ≤ maxSignificand) :
    takeDigits significand cs = (appendDigits significand cs, []) := by
  induction cs generalizing significand with
  | nil => rfl
  | cons c cs ih =>
    have hdigit : ofDigits [c] = c.toNat - 48 := by
      show 10 * 0 + (c.toNat - 48) = _
      omega
    rw [appendDigits_cons] at h ⊢
    have hfits := Nat.le_trans (le_appendDigits _ cs) h
    rw [takeDigits, hdigit, if_neg (by omega), ih h]

theorem isNoWhole_toDigits (n : Nat) : isNoWhole (Nat.toDigits 10 n) = false := by
  have hne : (Nat.toDigits 10 n).isEmpty = false := List.isEmpty_eq_false_iff.2 Nat.toDigits_ne_nil
  rw [isNoWhole, hne, Bool.false_or]
  rcases Nat.eq_zero_or_pos n with rfl | hpos
  · rfl
  · rw [beq_false_of_ne (head?_toDigits hpos), Bool.and_false]

/-- The digits of a number that fits are read back as the number. -/
theorem lexMagnitude_toDigits {n : Nat} (h : n ≤ maxSignificand) {rest : List Char}
    (hrest : EndsNumber rest) :
    lexMagnitude false (Nat.toDigits 10 n ++ rest) = some (.int n, rest) := by
  have hall : ∀ c ∈ Nat.toDigits 10 n, isDigit c := fun c => isDigit_of_mem_toDigits
  have hend : rest.takeWhile isDigit = [] ∧ rest.dropWhile isDigit = rest := by
    cases rest with
    | nil => exact ⟨rfl, rfl⟩
    | cons c rest =>
      have hc := (hrest c rfl).1
      exact ⟨by simp [hc], by simp [hc]⟩
  have htake : (Nat.toDigits 10 n ++ rest).takeWhile isDigit = Nat.toDigits 10 n := by
    rw [List.takeWhile_append_of_pos hall, hend.1, List.append_nil]
  have hdrop : (Nat.toDigits 10 n ++ rest).dropWhile isDigit = rest := by
    rw [List.dropWhile_append_of_pos hall, hend.2]
  have hpart : splitExponent rest = some (none, rest) := by
    cases rest with
    | nil => rfl
    | cons c rest =>
      have hc := hrest c rfl
      simp [splitExponent, hc.2.2]
  have hdigits : takeDigits 0 (Nat.toDigits 10 n) = (n, []) := by
    have hle : appendDigits 0 (Nat.toDigits 10 n) ≤ maxSignificand := by
      rw [appendDigits_toDigits]
      exact h
    rw [takeDigits_of_le hle, appendDigits_toDigits]
  have htoken : wholeToken false (Nat.toDigits 10 n) none = some (.int n) := by
    simp [wholeToken, hdigits]
  unfold lexMagnitude
  dsimp only
  rw [htake, hdrop, if_neg (Bool.eq_false_iff.1 (isNoWhole_toDigits n))]
  split
  · exact absurd rfl (hrest '.' rfl).2.1
  · rw [hpart, Option.bind_some, htoken]
    rfl

theorem readsWord_nat {n : Nat} (h : n ≤ maxSignificand) {rest : List Char}
    (hrest : EndsNumber rest) :
    ReadsWord ((toString (n : Int)).toList ++ rest) (.int n) rest := by
  have htext : (toString (n : Int)).toList = Nat.toDigits 10 n := by
    rw [Int.toString_eq_repr, Int.repr_eq_if, if_pos (Int.natCast_nonneg n), Int.toNat_natCast,
      Nat.toList_repr]
  have hall : ∀ c ∈ Nat.toDigits 10 n, isDigit c := fun c => isDigit_of_mem_toDigits
  refine ⟨Nat.toDigits 10 n, by rw [htext], .bare Nat.toDigits_ne_nil ?_, ?_⟩
  · intro c hc
    exact isBare_of_isDigit (hall c hc)
  · intro rest' hfollows
    have hrest' : EndsNumber rest' := by
      rcases hfollows with rfl | hhead
      · intro c hc
        cases hc
      · intro c hc
        exact hrest c (hhead ▸ hc)
    have hread := lexMagnitude_toDigits h hrest'
    obtain ⟨c, cs, hcs⟩ := List.exists_cons_of_ne_nil (Nat.toDigits_ne_nil (n := n) (b := 10))
    rw [hcs] at hread hall ⊢
    have hc : isDigit c := hall c List.mem_cons_self
    rw [List.cons_append] at hread ⊢
    rw [lexOne_of_startsNumber (by rw [startsNumber, hc, Bool.or_true]), lexNumber]
    · exact hread
    · intro _ he
      cases he
      cases hc

/-! ## Words -/

/-- A text that is over, or goes on with a mark between values. -/
def Continues (rest : List Char) : Prop := ∀ c ∈ rest.head?, c = ',' ∨ c = ']' ∨ c = '}'

theorem Continues.endsNumber {rest : List Char} (h : Continues rest) : EndsNumber rest := by
  intro c hc
  rcases h c hc with rfl | rfl | rfl <;> decide

section Spelling

variable {rest : List Char} {t : Token} {ts : List Token}

theorem Spells.cons_word (tail : Spells rest ts) {w : List Char}
    (hread : ReadsWord (w ++ rest) t rest) : Spells (w ++ rest) (t :: ts) := by
  obtain ⟨w', hw, hword, hreads⟩ := hread
  obtain rfl := List.append_cancel_right hw
  exact .word (List.forall_mem_nil _) hword hreads tail

theorem Spells.cons_fixed (tail : Spells rest ts) {w : List Char} (ne : w ≠ [])
    (all : w.all isBare) (hread : ∀ rest, lexOne (w ++ rest) = some (t, rest)) :
    Spells (w ++ rest) (t :: ts) := tail.cons_word (.of_fixed ne all hread rfl)

theorem Spells.cons_mark (tail : Spells rest ts) {c : Char} (hbare : isBare c)
    (hread : ∀ rest, lexOne (c :: rest) = some (t, rest)) : Spells (c :: rest) (t :: ts) :=
  tail.cons_fixed (w := [c]) (List.cons_ne_nil c []) (by simp [hbare]) hread

end Spelling

theorem readsWord_quote (s : String) (rest : List Char) :
    ReadsWord ((quote s).toList ++ rest) (.string s) rest := by
  have hline : '\n' ∉ s.toList.flatMap escapeChar := by
    rw [List.mem_flatMap]
    rintro ⟨c, -, hc⟩
    exact newline_not_mem_escapeChar c hc
  refine ⟨_, ?_, .quoted hline, ?_⟩
  · rw [quote, String.toList_ofList]
  · intro rest' _
    have hread := lexString_flatMap_escapeChar s.toList rest'
    rw [List.cons_append, List.cons_append, List.append_assoc, List.singleton_append]
    show (lexString _).map _ = _
    rw [hread]
    show some (Token.string (String.ofList s.toList), rest') = _
    rw [String.ofList_toList]

def SpellsBefore (j : Json) : Prop :=
  ∀ {rest : List Char} {ts : List Token}, Continues rest → Spells rest ts →
    Spells (j.compress.toList ++ rest) (tokens j ++ ts)

theorem spells_items {items : List Json} (hne : items ≠ []) (h : ∀ j ∈ items, SpellsBefore j)
    {rest : List Char} {ts : List Token} (hrest : Spells rest ts) :
    Spells ((",".intercalate (compressItems items)).toList ++ ']' :: rest)
      (itemTokens items ++ ts) := by
  induction items with
  | nil => exact absurd rfl hne
  | cons j items ih =>
    have hclose : Spells (']' :: rest) (.closeBracket :: ts) :=
      hrest.cons_mark (by decide) fun _ => rfl
    cases items with
    | nil =>
      have hspells := h j List.mem_cons_self (by simp [Continues]) hclose
      rw [compressItems, compressItems, String.intercalate_singleton, itemTokens, List.append_assoc]
      exact hspells
    | cons k items =>
      have hitems := ih (List.cons_ne_nil k items) fun j hj => h j (List.mem_cons_of_mem _ hj)
      have hcomma := hitems.cons_mark (c := ',') (by decide) fun _ => rfl
      have hspells := h j List.mem_cons_self (by simp [Continues]) hcomma
      rw [compressItems] at hspells ⊢
      rw [compressItems, String.intercalate_cons_cons, itemTokens, String.toList_append,
        String.toList_append, List.append_assoc, List.append_assoc, List.append_assoc]
      exact hspells

theorem Spells.cons_name {j : Json} {rest : List Char} {ts : List Token}
    (tail : Spells (j.compress.toList ++ rest) ts) (name : String) :
    Spells ((quote name ++ ":" ++ j.compress).toList ++ rest) (.string name :: .colon :: ts) := by
  have hcolon := tail.cons_mark (c := ':') (by decide) fun _ => rfl
  rw [String.toList_append, String.toList_append, List.append_assoc, List.append_assoc]
  exact hcolon.cons_word (readsWord_quote name _)

theorem spells_members {members : List (String × Json)} (hne : members ≠ [])
    (h : ∀ m ∈ members, SpellsBefore m.2) {rest : List Char} {ts : List Token}
    (hrest : Spells rest ts) :
    Spells ((",".intercalate (compressMembers members)).toList ++ '}' :: rest)
      (memberTokens members ++ ts) := by
  induction members with
  | nil => exact absurd rfl hne
  | cons m members ih =>
    obtain ⟨name, j⟩ := m
    cases members with
    | nil =>
      have hclose := hrest.cons_mark (c := '}') (by decide) fun _ => rfl
      have hspells := (h (name, j) List.mem_cons_self (by simp [Continues]) hclose).cons_name name
      rw [compressMembers, compressMembers, String.intercalate_singleton, memberTokens]
      simp only [List.cons_append, List.append_assoc, List.nil_append]
      exact hspells
    | cons m members =>
      have hmembers := ih (List.cons_ne_nil m members) fun m hm => h m (List.mem_cons_of_mem _ hm)
      have hcomma := hmembers.cons_mark (c := ',') (by decide) fun _ => rfl
      have hspells := (h (name, j) List.mem_cons_self (by simp [Continues]) hcomma).cons_name name
      rw [compressMembers] at hspells ⊢
      rw [compressMembers, String.intercalate_cons_cons, memberTokens, String.toList_append,
        String.toList_append]
      simp only [List.cons_append, List.append_assoc]
      exact hspells

/-- What is written are the words of the value, with no blank between them. -/
theorem Whole.spells {depth : Nat} {j : Json} (h : Whole depth j) : SpellsBefore j := by
  induction h with
  | null =>
    intro rest ts _ hrest
    exact hrest.cons_fixed (w := ['n', 'u', 'l', 'l']) (by simp) (by decide) fun _ => rfl
  | bool b =>
    intro rest ts _ hrest
    cases b with
    | true => exact hrest.cons_fixed (w := ['t', 'r', 'u', 'e']) (by simp) (by decide) fun _ => rfl
    | false =>
      exact hrest.cons_fixed (w := ['f', 'a', 'l', 's', 'e']) (by simp) (by decide) fun _ => rfl
  | nat hn =>
    intro rest ts hends hrest
    exact hrest.cons_word (readsWord_nat hn hends.endsNumber)
  | string s =>
    intro rest ts _ hrest
    exact hrest.cons_word (readsWord_quote s rest)
  | @array depth items _ ih =>
    intro rest ts _ hrest
    have hbody : Spells ((",".intercalate (compressItems items)).toList ++ ']' :: rest)
        (itemTokens items ++ ts) := by
      cases items with
      | nil => exact hrest.cons_mark (by decide) fun _ => rfl
      | cons j items => exact spells_items (List.cons_ne_nil j items) ih hrest
    have hopen := hbody.cons_mark (c := '[') (by decide) fun _ => rfl
    rw [compress, tokens, String.toList_append, String.toList_append, List.append_assoc,
      List.append_assoc]
    exact hopen
  | @object depth members _ ih =>
    intro rest ts _ hrest
    have hbody : Spells ((",".intercalate (compressMembers members)).toList ++ '}' :: rest)
        (memberTokens members ++ ts) := by
      cases members with
      | nil => exact hrest.cons_mark (by decide) fun _ => rfl
      | cons m members => exact spells_members (List.cons_ne_nil m members) ih hrest
    have hopen := hbody.cons_mark (c := '\x7b') (by decide) fun _ => rfl
    rw [compress, tokens, String.toList_append, String.toList_append, List.append_assoc,
      List.append_assoc]
    exact hopen

/-! ## Values -/

/-- The words of a value are read as that value, and what is behind them is left. -/
def ReadsBefore (depth : Nat) (j : Json) : Prop :=
  ∀ (fuel : Nat) (rest : List Token), 2 * (tokens j).length ≤ fuel →
    readValue fuel depth (tokens j ++ rest) = some (j.sorted, rest)

theorem readItems_itemTokens {depth : Nat} {items : List Json} (hne : items ≠ [])
    (h : ∀ j ∈ items, ReadsBefore depth j) (fuel : Nat) (rest : List Token)
    (hfuel : 2 * (itemTokens items).length ≤ fuel) :
    readItems fuel depth (itemTokens items ++ rest) = some (sortedItems items, rest) := by
  induction items generalizing fuel with
  | nil => exact absurd rfl hne
  | cons j items ih =>
    obtain ⟨fuel, rfl⟩ : ∃ n, fuel = n + 1 := by
      refine ⟨fuel - 1, ?_⟩
      cases items <;> simp [itemTokens] at hfuel <;> omega
    cases items with
    | nil =>
      simp only [itemTokens, List.length_append, List.length_singleton] at hfuel
      have hj := h j List.mem_cons_self fuel (.closeBracket :: rest) (by omega)
      rw [itemTokens, List.append_assoc, readItems]
      simp only [List.singleton_append, hj, Option.bind_eq_bind, Option.bind_some]
      rfl
    | cons k items =>
      simp only [itemTokens, List.length_append, List.length_cons] at hfuel
      have hitems := ih (List.cons_ne_nil k items) (fun j hj => h j (List.mem_cons_of_mem _ hj))
        fuel (by omega)
      have hj := h j List.mem_cons_self fuel (.comma :: (itemTokens (k :: items) ++ rest))
        (by omega)
      rw [itemTokens, List.append_assoc, readItems]
      simp only [List.cons_append, hj, Option.bind_eq_bind, Option.bind_some, hitems]
      rfl

theorem readMembers_memberTokens {depth : Nat} {members : List (String × Json)}
    (hne : members ≠ []) (h : ∀ m ∈ members, ReadsBefore depth m.2) (fuel : Nat)
    (rest : List Token) (hfuel : 2 * (memberTokens members).length ≤ fuel) :
    readMembers fuel depth (memberTokens members ++ rest) = some (sortedMembers members, rest) := by
  induction members generalizing fuel with
  | nil => exact absurd rfl hne
  | cons m members ih =>
    obtain ⟨name, j⟩ := m
    obtain ⟨fuel, rfl⟩ : ∃ n, fuel = n + 1 := by
      refine ⟨fuel - 1, ?_⟩
      cases members <;> simp [memberTokens] at hfuel <;> omega
    cases members with
    | nil =>
      simp only [memberTokens, List.length_append, List.length_cons] at hfuel
      have hj : readValue fuel depth (tokens j ++ .closeBrace :: rest) = _ :=
        h (name, j) List.mem_cons_self fuel _ (by show 2 * (tokens j).length ≤ fuel; omega)
      rw [memberTokens]
      simp only [List.cons_append, List.append_assoc, readMembers, List.nil_append, hj,
        Option.bind_eq_bind, Option.bind_some]
      rfl
    | cons m members =>
      simp only [memberTokens, List.length_append, List.length_cons] at hfuel
      have hmembers := ih (List.cons_ne_nil m members)
        (fun m hm => h m (List.mem_cons_of_mem _ hm)) fuel (by omega)
      have hj : readValue fuel depth
          (tokens j ++ .comma :: (memberTokens (m :: members) ++ rest)) = _ :=
        h (name, j) List.mem_cons_self fuel _ (by show 2 * (tokens j).length ≤ fuel; omega)
      rw [memberTokens]
      simp only [List.cons_append, List.append_assoc, readMembers, hj, Option.bind_eq_bind,
        Option.bind_some, hmembers]
      rfl

theorem tokens_ne_closeBracket (j : Json) (ts ts' : List Token) :
    tokens j ++ ts ≠ .closeBracket :: ts' := by
  intro h
  cases j <;> simp [tokens] at h

/-- The tokens of a value are read back as the value, its members in order. -/
theorem Whole.reads {depth : Nat} {j : Json} (h : Whole depth j) : ReadsBefore depth j := by
  induction h with
  | null | bool _ | nat _ | string _ =>
    intro fuel rest hfuel
    obtain ⟨fuel, rfl⟩ : ∃ n, fuel = n + 1 := ⟨fuel - 1, by simp [tokens] at hfuel; omega⟩
    simp [tokens, readValue, sorted]
  | @array depth items _ ih =>
    intro fuel rest hfuel
    simp only [tokens, List.length_cons] at hfuel
    obtain ⟨fuel, rfl⟩ : ∃ n, fuel = n + 1 := ⟨fuel - 1, by omega⟩
    cases items with
    | nil => simp [tokens, itemTokens, readValue, sorted, sortedItems]
    | cons j items =>
      have hitems := readItems_itemTokens (List.cons_ne_nil j items) ih fuel rest (by omega)
      rw [tokens, List.cons_append, readValue, hitems]
      · rfl
      · intro ts he
        cases items with
        | nil =>
          rw [itemTokens, List.append_assoc] at he
          exact tokens_ne_closeBracket _ _ _ he
        | cons k items =>
          rw [itemTokens, List.append_assoc] at he
          exact tokens_ne_closeBracket _ _ _ he
  | @object depth members _ ih =>
    intro fuel rest hfuel
    simp only [tokens, List.length_cons] at hfuel
    obtain ⟨fuel, rfl⟩ : ∃ n, fuel = n + 1 := ⟨fuel - 1, by omega⟩
    cases members with
    | nil =>
      simp [tokens, memberTokens, readValue, sorted, sortedMembers, ofMembers, Entries.ofList]
    | cons m members =>
      have hmembers := readMembers_memberTokens (List.cons_ne_nil m members) ih fuel rest (by omega)
      rw [tokens, List.cons_append, readValue, hmembers]
      · rfl
      · intro ts he
        cases members <;> cases he

/-- A value comes back from its text. -/
theorem parse_compress {j : Json} (h : Whole maxDepth j) : parse j.compress = some j.sorted := by
  have hspells := h.spells (by simp [Continues]) (.blank (List.forall_mem_nil _))
  have hreads := h.reads (2 * (tokens j).length + 1) [] (by omega)
  rw [List.append_nil, List.append_nil] at hspells
  rw [List.append_nil] at hreads
  rw [parse, lex_eq_some_iff.2 hspells, Option.bind_some, ofTokens?, hreads]

end BeanGauge.Json
