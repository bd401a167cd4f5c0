import BeanGauge.Json.Reader
import BeanGauge.Proofs.Text.Blank
import BeanGauge.Proofs.Text.Shielded
import Mathlib.Data.List.TakeWhile
/-!
# The words of a JSON text

A text that is read as words is made of these words with blanks between them, and how a word is
read depends on nothing behind it. Hence blanks around a text make no difference to its value, and
a dollar sign can only stand inside a string, whose opening quote is on the same line.

Nothing is said here about which sequences of words are values.
-/

namespace BeanGauge.Json

open BeanGauge.Number (isDigit splitSign)
open BeanGauge.Text (isBlank Tight DollarsQuoted shielded_of_forall shielded_quoted)

def isBare (c : Char) : Bool := !isBlank c && c != '$'

/-- The characters of one word: a bare one, or a string with its quotes. -/
inductive IsWord : List Char → Prop
  | bare {w : List Char} (ne : w ≠ []) (all : ∀ c ∈ w, isBare c) : IsWord w
  | quoted {u : List Char} (line : '\n' ∉ u) : IsWord ('"' :: u ++ ['"'])

/-- What may stand behind a word in place of `rest`: nothing, or a text that starts alike. -/
def Follows (rest rest' : List Char) : Prop := rest' = [] ∨ rest'.head? = rest.head?

theorem Follows.append {rest rest' : List Char} (h : Follows rest rest') (used : List Char) :
    Follows (used ++ rest) (used ++ rest') := by
  cases used with
  | nil => exact h
  | cons c cs => exact .inr rfl

theorem Follows.takeWhile_dropWhile {p : Char → Bool} {cs d : List Char}
    (h : Follows (cs.dropWhile p) d) :
    (cs.takeWhile p ++ d).takeWhile p = cs.takeWhile p ∧ (cs.takeWhile p ++ d).dropWhile p = d := by
  have hall : ∀ c ∈ cs.takeWhile p, p c := by
    intro c hc
    exact List.mem_takeWhile_imp hc
  have hd : d.takeWhile p = [] ∧ d.dropWhile p = d := by
    cases d with
    | nil => exact ⟨rfl, rfl⟩
    | cons c d =>
      have hc : p c = false := by
        rcases h with h | h
        · cases h
        · have hne := List.head?_dropWhile_not p cs
          rw [← h] at hne
          simpa using hne
      exact ⟨by simp [hc], by simp [hc]⟩
  constructor
  · rw [List.takeWhile_append_of_pos hall, hd.1, List.append_nil]
  · rw [List.dropWhile_append_of_pos hall, hd.2]

theorem isBare_of_isDigit {c : Char} (h : isDigit c) : isBare c := by
  simp only [isDigit, Bool.and_eq_true, decide_eq_true_eq] at h
  have h0 : 48 ≤ c.toNat := h.1
  have h9 : c.toNat ≤ 57 := h.2
  have hne : c ≠ '$' := by
    rintro rfl
    exact absurd h0 (by decide)
  simp only [isBare, isBlank, Bool.and_eq_true, bne_iff_ne, ne_eq, hne, not_false_eq_true, and_true]
  simp
  omega

theorem isBare_of_mem_takeWhile {cs : List Char} :
    ∀ c ∈ cs.takeWhile isDigit, isBare c := by
  intro c hc
  exact isBare_of_isDigit (List.mem_takeWhile_imp hc)

/-- A sign is followed by its digits, whatever stands behind them. -/
theorem splitSign_spec (cs : List Char) :
    ∃ sign, cs = sign ++ (splitSign cs).2 ∧ (∀ c ∈ sign, isBare c) ∧
      ∀ ds, ds.head?.any isDigit → splitSign (sign ++ ds) = ((splitSign cs).1, ds) := by
  unfold splitSign
  split
  · exact ⟨['-'], rfl, List.all_eq_true.1 rfl, fun ds _ => rfl⟩
  · exact ⟨['+'], rfl, List.all_eq_true.1 rfl, fun ds _ => rfl⟩
  · refine ⟨[], rfl, by simp, ?_⟩
    intro ds hds
    cases ds with
    | nil => cases hds
    | cons d ds =>
      have hd : isDigit d := by simpa using hds
      have hm : d ≠ '-' := by rintro rfl; exact absurd hd (by decide)
      have hp : d ≠ '+' := by rintro rfl; exact absurd hd (by decide)
      simp [hm, hp]

theorem head?_takeWhile_append {cs : List Char} (h : (cs.takeWhile isDigit).isEmpty = false)
    (rest : List Char) : (cs.takeWhile isDigit ++ rest).head?.any isDigit := by
  obtain ⟨d, ds, hds⟩ := List.exists_cons_of_ne_nil (List.isEmpty_eq_false_iff.1 h)
  have hd : d ∈ cs.takeWhile isDigit := by
    rw [hds]
    exact List.mem_cons_self
  rw [hds, List.cons_append, List.head?_cons, Option.any_some]
  exact List.mem_takeWhile_imp hd

/-- An exponent is read as far as its characters go, whatever follows them. -/
theorem splitExponent_spec {cs rest : List Char} {part : Option (Bool × List Char)}
    (h : splitExponent cs = some (part, rest)) :
    ∃ used, cs = used ++ rest ∧ (∀ c ∈ used, isBare c) ∧
      ∀ rest', Follows rest rest' → splitExponent (used ++ rest') = some (part, rest') := by
  cases cs with
  | nil =>
    obtain ⟨rfl, rfl⟩ : none = part ∧ [] = rest := by simpa [splitExponent] using h
    refine ⟨[], rfl, by simp, ?_⟩
    rintro rest' (rfl | hf)
    · rfl
    · obtain rfl := List.head?_eq_none_iff.1 hf
      rfl
  | cons c cs =>
    by_cases hc : (c == 'e' || c == 'E') = true
    · simp only [splitExponent, hc, if_true] at h
      split at h
      · cases h
      rename_i hne
      obtain ⟨rfl, rfl⟩ : some ((splitSign cs).1, (splitSign cs).2.takeWhile isDigit) = part ∧
        (splitSign cs).2.dropWhile isDigit = rest := by simpa using h
      obtain ⟨sign, hsign, hbare, hread⟩ := splitSign_spec cs
      refine ⟨c :: sign ++ (splitSign cs).2.takeWhile isDigit, ?_, ?_, ?_⟩
      · rw [List.append_assoc, List.takeWhile_append_dropWhile, List.cons_append, ← hsign]
      · have hmark : isBare c := by
          rcases Bool.or_eq_true_iff.1 hc with hc | hc <;> rw [eq_of_beq hc] <;> decide
        exact List.forall_mem_append.2
          ⟨List.forall_mem_cons.2 ⟨hmark, hbare⟩, isBare_of_mem_takeWhile⟩
      · intro rest' hf
        obtain ⟨ht, hd⟩ := Follows.takeWhile_dropWhile hf
        have hsplit := hread _ (head?_takeWhile_append (Bool.eq_false_iff.2 hne) rest')
        rw [List.append_assoc, List.cons_append]
        simp only [splitExponent, hc, if_true, hsplit, ht, hd, hne]
        simp
    · obtain ⟨rfl, rfl⟩ : none = part ∧ c :: cs = rest := by
        simpa [splitExponent, hc] using h
      refine ⟨[], rfl, by simp, ?_⟩
      rintro rest' (rfl | hf)
      · rfl
      · cases rest' with
        | nil => cases hf
        | cons d rest' =>
          obtain rfl : d = c := by simpa using hf
          simp [splitExponent, hc]

/-- The exponent part at the end of a number, from which `make` gets the token. -/
theorem splitExponent_bind_spec {cs rest : List Char} {t : Token}
    {make : Option (Bool × List Char) → Option Token}
    (h : ((splitExponent cs).bind fun e => (make e.1).map fun t => (t, e.2)) = some (t, rest)) :
    ∃ used, cs = used ++ rest ∧ (∀ c ∈ used, isBare c) ∧
      ∀ rest', Follows rest rest' → ((splitExponent (used ++ rest')).bind fun e =>
        (make e.1).map fun t => (t, e.2)) = some (t, rest') := by
  obtain ⟨⟨part, rest₂⟩, hexp, hmake⟩ := Option.bind_eq_some_iff.1 h
  obtain ⟨t₂, ht, hpair⟩ := Option.map_eq_some_iff.1 hmake
  obtain ⟨rfl, rfl⟩ := Prod.mk.inj hpair
  obtain ⟨used, hused, hbare, hread⟩ := splitExponent_spec hexp
  refine ⟨used, hused, hbare, ?_⟩
  intro rest' hf
  rw [hread rest' hf, Option.bind_some]
  dsimp only at ht ⊢
  rw [ht, Option.map_some]

theorem lexMagnitude_spec {negative : Bool} {cs rest : List Char} {t : Token}
    (h : lexMagnitude negative cs = some (t, rest)) :
    ∃ used, cs = used ++ rest ∧ used.head?.any isDigit ∧ (∀ c ∈ used, isBare c) ∧
      ∀ rest', Follows rest rest' → lexMagnitude negative (used ++ rest') = some (t, rest') := by
  unfold lexMagnitude at h
  simp only [] at h
  split at h
  · cases h
  rename_i hwhole
  have hdigits : (cs.takeWhile isDigit).isEmpty = false := by
    rw [isNoWhole, Bool.or_eq_true, not_or] at hwhole
    exact Bool.eq_false_iff.2 hwhole.1
  split at h
  · rename_i r hr
    split at h
    · cases h
    rename_i hfraction
    obtain ⟨used, hused, hbare, hread⟩ := splitExponent_bind_spec h
    refine ⟨cs.takeWhile isDigit ++ '.' :: (r.takeWhile isDigit ++ used), ?_, ?_, ?_, ?_⟩
    · rw [List.append_assoc, List.cons_append, List.append_assoc, ← hused,
        List.takeWhile_append_dropWhile, ← hr, List.takeWhile_append_dropWhile]
    · exact head?_takeWhile_append hdigits _
    · exact List.forall_mem_append.2 ⟨isBare_of_mem_takeWhile, List.forall_mem_cons.2
        ⟨by decide, List.forall_mem_append.2 ⟨isBare_of_mem_takeWhile, hbare⟩⟩⟩
    · intro rest' hf
      have hf₁ : Follows (cs.dropWhile isDigit) ('.' :: (r.takeWhile isDigit ++ (used ++ rest'))) :=
        .inr (by rw [hr]; rfl)
      have hf₂ : Follows (r.dropWhile isDigit) (used ++ rest') := hused ▸ hf.append used
      obtain ⟨ht₁, hd₁⟩ := hf₁.takeWhile_dropWhile
      obtain ⟨ht₂, hd₂⟩ := hf₂.takeWhile_dropWhile
      rw [List.append_assoc, List.cons_append, List.append_assoc]
      simp only [lexMagnitude, ht₁, hd₁, ht₂, hd₂, hwhole, hfraction, Bool.false_eq_true, if_false]
      exact hread rest' hf
  · rename_i hpoint
    obtain ⟨used, hused, hbare, hread⟩ := splitExponent_bind_spec h
    refine ⟨cs.takeWhile isDigit ++ used, ?_, ?_, ?_, ?_⟩
    · rw [List.append_assoc, ← hused, List.takeWhile_append_dropWhile]
    · exact head?_takeWhile_append hdigits _
    · exact List.forall_mem_append.2 ⟨isBare_of_mem_takeWhile, hbare⟩
    · intro rest' hf
      have hf₁ : Follows (cs.dropWhile isDigit) (used ++ rest') := hused ▸ hf.append used
      obtain ⟨ht₁, hd₁⟩ := hf₁.takeWhile_dropWhile
      have hpoint' : ∀ r, used ++ rest' ≠ '.' :: r := by
        intro r he
        rcases hf₁ with hnil | hhead
        · rw [he] at hnil
          cases hnil
        · rw [he] at hhead
          obtain ⟨r', hr'⟩ := List.head?_eq_some_iff.1 hhead.symm
          exact hpoint r' hr'
      rw [List.append_assoc]
      simp only [lexMagnitude, ht₁, hd₁, hwhole, Bool.false_eq_true, if_false]
      exact hread rest' hf

def startsNumber (c : Char) : Bool := c == '-' || isDigit c

/-- So is a number. -/
theorem lexNumber_spec {cs rest : List Char} {t : Token} (h : lexNumber cs = some (t, rest)) :
    ∃ used, cs = used ++ rest ∧ used.head?.any startsNumber ∧ (∀ c ∈ used, isBare c) ∧
      ∀ rest', Follows rest rest' → lexNumber (used ++ rest') = some (t, rest') := by
  unfold lexNumber at h
  split at h
  · obtain ⟨used, rfl, -, hbare, hread⟩ := lexMagnitude_spec h
    exact ⟨'-' :: used, rfl, rfl, List.forall_mem_cons.2 ⟨by decide, hbare⟩, hread⟩
  · rename_i hminus
    obtain ⟨used, rfl, hhead, hbare, hread⟩ := lexMagnitude_spec h
    cases used with
    | nil => cases hhead
    | cons c used =>
      have hdigit : isDigit c := by simpa using hhead
      refine ⟨c :: used, rfl, by simp [startsNumber, hdigit], hbare, ?_⟩
      intro rest' hf
      have hc : c ≠ '-' := by
        rintro rfl
        exact hminus _ rfl
      rw [← hread rest' hf, List.cons_append, lexNumber]
      rintro _ ⟨⟩
      exact hc rfl

theorem lexOne_of_startsNumber {c : Char} (h : startsNumber c) (cs : List Char) :
    lexOne (c :: cs) = lexNumber (c :: cs) := by
  unfold lexOne
  split
  case h_12 => rfl
  all_goals
    rename_i he
    cases he
  all_goals exact absurd h (by decide)

theorem ne_newline_of_hexFour {a b c d : Char} {n : Nat} (h : hexFour a b c d = some n) :
    '\n' ∉ [a, b, c, d] := by
  have hnone : hexValue '\n' = none := by decide
  simp only [hexFour, Option.bind_eq_bind, Option.bind_eq_some_iff] at h
  obtain ⟨_, ha, _, hb, _, hc, _, hd, -⟩ := h
  intro hm
  simp only [List.mem_cons, List.not_mem_nil, or_false] at hm
  rcases hm with rfl | rfl | rfl | rfl
  all_goals simp_all

/-- A string that is read up to its closing quote, which no line end stands before. -/
def ReadsString (cs s rest : List Char) : Prop :=
  ∃ inside, cs = inside ++ '"' :: rest ∧ '\n' ∉ inside ∧
    ∀ rest', lexString (inside ++ '"' :: rest') = some (s, rest')

theorem ReadsString.cons (start : List Char) {cs s rest : List Char} {c : Char}
    (hline : '\n' ∉ start)
    (hstep : ∀ cs, lexString (start ++ cs) = consRead c (lexString cs))
    (ih : ∀ {s rest : List Char}, lexString cs = some (s, rest) → ReadsString cs s rest)
    (h : consRead c (lexString cs) = some (s, rest)) : ReadsString (start ++ cs) s rest := by
  simp only [consRead, Option.map_eq_some_iff, Prod.mk.injEq] at h
  obtain ⟨⟨s₂, rest₂⟩, hread, rfl, rfl⟩ := h
  obtain ⟨inside, rfl, hinside, hall⟩ := ih hread
  refine ⟨start ++ inside, by rw [List.append_assoc], by simp [hline, hinside], ?_⟩
  intro rest'
  rw [List.append_assoc, hstep, hall, consRead, Option.map_some]

/-- A string is read up to its closing quote, and has no line end. -/
theorem lexString_spec {cs s rest : List Char} (h : lexString cs = some (s, rest)) :
    ReadsString cs s rest := by
  fun_induction lexString cs generalizing s rest with
  | case1 => cases h
  | case2 cs =>
    obtain ⟨rfl, rfl⟩ : [] = s ∧ cs = rest := by simpa using h
    exact ⟨[], rfl, by simp, fun rest' => rfl⟩
  | case3 => cases h
  | case4 => cases h
  | case5 a b c d high hhigh hlead a' b' c' d' cs low hlow htrail ih =>
    have h₁ := ne_newline_of_hexFour hhigh
    have h₂ := ne_newline_of_hexFour hlow
    refine ReadsString.cons ['\\', 'u', a, b, c, d, '\\', 'u', a', b', c', d'] ?_ ?_ ih h
    · simp_all
    · intro cs
      simp only [List.cons_append, List.nil_append, lexString, hhigh, hlead, hlow, htrail, if_true]
  | case6 => cases h
  | case7 => cases h
  | case8 => cases h
  | case9 a b c d cs n hn hlead htrail ih =>
    have h₁ := ne_newline_of_hexFour hn
    refine ReadsString.cons ['\\', 'u', a, b, c, d] ?_ ?_ ih h
    · simp_all
    · intro cs
      simp only [List.cons_append, List.nil_append, lexString, hn, hlead, htrail]
      simp
  | case10 => cases h
  | case11 c cs _ e he ih =>
    refine ReadsString.cons ['\\', c] ?_ ?_ ih h
    · rintro hm
      obtain rfl : '\n' = c := by simpa using hm
      cases he
    · intro cs
      have hu : c ≠ 'u' := by
        rintro rfl
        cases he
      change lexString ('\\' :: c :: cs) = _
      rw [lexString, he]
      intro _ _ _ _ _ hcu
      exact absurd hcu hu
  | case12 => cases h
  | case13 c cs hquote _ _ hplain ih =>
    refine ReadsString.cons [c] ?_ ?_ ih h
    · intro hm
      obtain rfl : '\n' = c := by simpa using hm
      exact hplain (by decide)
    · intro cs
      have hslash : c ≠ '\\' := by
        rintro rfl
        exact hplain (by decide)
      change lexString (c :: cs) = _
      rw [lexString, if_neg hplain]
      · exact hquote
      · intro _ _ _ _ _ hcs
        exact absurd hcs hslash
      · intro _ _ hcs
        exact absurd hcs hslash

/-- A word that is read in full, and in the same way whatever stands behind it. -/
def ReadsWord (cs : List Char) (t : Token) (rest : List Char) : Prop :=
  ∃ w, cs = w ++ rest ∧ IsWord w ∧
    ∀ rest', Follows rest rest' → lexOne (w ++ rest') = some (t, rest')

theorem ReadsWord.of_fixed {w rest : List Char} {t t' : Token} {rest' : List Char} (ne : w ≠ [])
    (all : w.all isBare) (hread : ∀ rest, lexOne (w ++ rest) = some (t, rest))
    (h : some (t, rest) = some (t', rest')) : ReadsWord (w ++ rest) t' rest' := by
  obtain ⟨rfl, rfl⟩ : t = t' ∧ rest = rest' := by simpa using h
  exact ⟨w, rfl, .bare ne (List.all_eq_true.1 all), fun rest' _ => hread rest'⟩

theorem lexOne_spec {cs rest : List Char} {t : Token} (h : lexOne cs = some (t, rest)) :
    ReadsWord cs t rest := by
  unfold lexOne at h
  split at h
  · cases h
  · exact ReadsWord.of_fixed (w := ['{']) (by simp) rfl (fun _ => rfl) h
  · exact ReadsWord.of_fixed (w := ['}']) (by simp) rfl (fun _ => rfl) h
  · exact ReadsWord.of_fixed (w := ['[']) (by simp) rfl (fun _ => rfl) h
  · exact ReadsWord.of_fixed (w := [']']) (by simp) rfl (fun _ => rfl) h
  · exact ReadsWord.of_fixed (w := [':']) (by simp) rfl (fun _ => rfl) h
  · exact ReadsWord.of_fixed (w := [',']) (by simp) rfl (fun _ => rfl) h
  · simp only [Option.map_eq_some_iff, Prod.mk.injEq] at h
    obtain ⟨⟨s, rest₂⟩, hread, rfl, rfl⟩ := h
    obtain ⟨inside, rfl, hline, hall⟩ := lexString_spec hread
    refine ⟨'"' :: inside ++ ['"'], by simp, .quoted hline, ?_⟩
    intro rest' _
    have hcs : '"' :: inside ++ ['"'] ++ rest' = '"' :: (inside ++ '"' :: rest') := by simp
    rw [hcs, lexOne, hall, Option.map_some]
  · exact ReadsWord.of_fixed (w := ['n', 'u', 'l', 'l']) (by simp) rfl (fun _ => rfl) h
  · exact ReadsWord.of_fixed (w := ['t', 'r', 'u', 'e']) (by simp) rfl (fun _ => rfl) h
  · exact ReadsWord.of_fixed (w := ['f', 'a', 'l', 's', 'e']) (by simp) rfl (fun _ => rfl) h
  · obtain ⟨used, rfl, hhead, hbare, hread⟩ := lexNumber_spec h
    cases used with
    | nil => cases hhead
    | cons c used =>
      refine ⟨c :: used, rfl, .bare (by simp) hbare, ?_⟩
      intro rest' hf
      rw [List.cons_append, lexOne_of_startsNumber (by simpa using hhead)]
      exact hread rest' hf

theorem isBlank_of_isSpace {c : Char} (h : isSpace c) : isBlank c := by
  simp only [isSpace, Bool.or_eq_true, beq_iff_eq] at h
  rcases h with ((rfl | rfl) | rfl) | rfl <;> decide

theorem IsWord.dollarsQuoted {w : List Char} (h : IsWord w) : DollarsQuoted w := by
  cases h with
  | bare _ all => exact shielded_of_forall rfl all
  | quoted line =>
    apply shielded_quoted (by decide)
    intro hm
    rcases List.mem_append.1 hm with hm | hm
    · exact line hm
    · cases List.mem_singleton.1 hm

theorem IsWord.ne_nil {w : List Char} (h : IsWord w) : w ≠ [] := by
  cases h with
  | bare ne _ => exact ne
  | quoted _ => simp

theorem isBlank_of_isBare {c : Char} (h : isBare c) : isBlank c = false := by
  simp only [isBare, Bool.and_eq_true, Bool.not_eq_true'] at h
  exact h.1

theorem IsWord.tight {w : List Char} (h : IsWord w) : Tight w := by
  cases h with
  | bare ne all =>
    constructor
    · cases w with
      | nil => exact absurd rfl ne
      | cons c w => exact ⟨c, w, rfl, isBlank_of_isBare (all c (by simp))⟩
    · refine ⟨w.dropLast, w.getLast ne, (List.dropLast_concat_getLast ne).symm, ?_⟩
      exact isBlank_of_isBare (all _ (List.getLast_mem ne))
  | quoted line => exact ⟨⟨_, _, rfl, by decide⟩, ⟨_, _, rfl, by decide⟩⟩

inductive Spells : List Char → List Token → Prop
  | blank {cs : List Char} (all : ∀ c ∈ cs, isSpace c) : Spells cs []
  | word {gap w rest : List Char} {t : Token} {ts : List Token} (blank : ∀ c ∈ gap, isSpace c)
      (isWord : IsWord w)
      (reads : ∀ rest', Follows rest rest' → lexOne (w ++ rest') = some (t, rest'))
      (tail : Spells rest ts) : Spells (gap ++ (w ++ rest)) (t :: ts)

theorem spells_of_lexWith {n : Nat} {cs : List Char} {ts : List Token}
    (h : lexWith n cs = some ts) : Spells cs ts := by
  induction n generalizing cs ts with
  | zero => cases h
  | succ n ih =>
    have hgap : ∀ c ∈ cs.takeWhile isSpace, isSpace c := by
      intro c hc
      exact List.mem_takeWhile_imp hc
    have hcs : cs.takeWhile isSpace ++ cs.dropWhile isSpace = cs := List.takeWhile_append_dropWhile
    simp only [lexWith] at h
    split at h
    · rename_i hd
      cases h
      rw [hd, List.append_nil] at hcs
      exact .blank (hcs ▸ hgap)
    · rename_i c rest hd
      simp only [Option.bind_eq_bind, Option.bind_eq_some_iff, Option.pure_def] at h
      obtain ⟨⟨t, rest₂⟩, hone, ts₂, hts, he⟩ := h
      cases he
      obtain ⟨w, hw, hword, hread⟩ := lexOne_spec hone
      rw [← hcs, hd, hw]
      exact .word hgap hword hread (ih hts)

theorem Spells.lexWith {cs : List Char} {ts : List Token} (h : Spells cs ts) {n : Nat}
    (hn : cs.length < n) : lexWith n cs = some ts := by
  induction h generalizing n with
  | @blank cs all =>
    cases n with
    | zero => cases hn
    | succ n =>
      have hd : cs.dropWhile isSpace = [] := List.dropWhile_eq_nil_iff.2 all
      simp only [Json.lexWith, hd]
  | @word gap w rest t ts hgap hword hread _ ih =>
    cases n with
    | zero => cases hn
    | succ n =>
      have hlen : 0 < w.length := List.length_pos_iff.2 hword.ne_nil
      have hrest : rest.length < n := by
        simp only [List.length_append] at hn
        omega
      have hone := hread rest (.inr rfl)
      have hd := hword.tight.dropWhile (fun _ => isBlank_of_isSpace) hgap rest
      obtain ⟨c, w', rfl, -⟩ := hword.tight.first
      rw [Json.lexWith, hd]
      rw [List.cons_append] at hone ⊢
      simp only [hone, ih hrest, Option.bind_eq_bind, Option.bind_some, Option.pure_def]

/-- The tokens of a text are those of its words, with any blanks between them. -/
theorem lex_eq_some_iff {cs : List Char} {ts : List Token} : lex cs = some ts ↔ Spells cs ts :=
  ⟨spells_of_lexWith, fun h => h.lexWith (Nat.lt_succ_self _)⟩

theorem Spells.dollarsQuoted {cs : List Char} {ts : List Token} (h : Spells cs ts) :
    DollarsQuoted cs := by
  induction h with
  | blank all => exact shielded_of_forall rfl all
  | word hgap hword _ _ ih =>
    exact .append (shielded_of_forall rfl hgap) (.append hword.dollarsQuoted ih)

theorem Spells.prepend {gap cs : List Char} {t : Token} {ts : List Token}
    (hgap : ∀ c ∈ gap, isSpace c) (h : Spells cs (t :: ts)) : Spells (gap ++ cs) (t :: ts) := by
  cases h with
  | word hgap' hword hread tail =>
    rw [← List.append_assoc]
    exact .word (List.forall_mem_append.2 ⟨hgap, hgap'⟩) hword hread tail

/-- A text with words in it is one that starts and ends with words, and blanks around that. -/
theorem Spells.tight {cs : List Char} {ts : List Token} (h : Spells cs ts) (ne : ts ≠ []) :
    ∃ left core right, cs = left ++ (core ++ right) ∧ (∀ c ∈ left, isSpace c) ∧
      (∀ c ∈ right, isSpace c) ∧ Tight core ∧ Spells core ts := by
  induction h with
  | blank => exact absurd rfl ne
  | @word gap w rest t ts hgap hword hread tail ih =>
    cases ts with
    | nil =>
      cases tail with
      | blank all =>
        refine ⟨gap, w, rest, rfl, hgap, all, hword.tight, ?_⟩
        have hone : Spells ([] ++ (w ++ [])) [t] := by
          refine .word (by simp) hword ?_ (.blank (by simp))
          rintro rest' (rfl | hf)
          · exact hread [] (.inl rfl)
          · obtain rfl := List.head?_eq_none_iff.1 hf
            exact hread [] (.inl rfl)
        simpa using hone
    | cons t' ts =>
      obtain ⟨left, core, right, rfl, hleft, hright, htight, hspells⟩ := ih (by simp)
      refine ⟨gap, w ++ (left ++ core), right, by simp only [List.append_assoc], hgap, hright,
        hword.tight.join htight left, ?_⟩
      have hcons : Spells ([] ++ (w ++ (left ++ core))) (t :: t' :: ts) := by
        refine .word (by simp) hword ?_ (hspells.prepend hleft)
        rintro rest' (rfl | hf)
        · exact hread [] (.inl rfl)
        · refine hread rest' (.inr ?_)
          obtain ⟨c, core', rfl, -⟩ := htight.first
          cases left with
          | nil => exact hf
          | cons d left => exact hf
      simpa using hcons

/-- The part of a JSON text from its first word to its last one. -/
structure Core (s : String) (left core right : List Char) : Prop where
  parts : s.toList = left ++ (core ++ right)
  leftBlank : ∀ c ∈ left, isSpace c
  rightBlank : ∀ c ∈ right, isSpace c
  tight : Tight core
  same : parse (String.ofList core) = parse s

/-- A text with a value has a core, and that has the same value. -/
theorem exists_core {s : String} (h : (parse s).isSome) :
    ∃ left core right, Core s left core right := by
  obtain ⟨j, hj⟩ := Option.isSome_iff_exists.1 h
  obtain ⟨ts, hlex, hread⟩ := Option.bind_eq_some_iff.1 hj
  have hne : ts ≠ [] := by
    rintro rfl
    cases hread
  obtain ⟨left, core, right, hparts, hleft, hright, htight, hspells⟩ :=
    (lex_eq_some_iff.1 hlex).tight hne
  refine ⟨left, core, right, hparts, hleft, hright, htight, ?_⟩
  rw [parse, parse, String.toList_ofList, hlex, lex_eq_some_iff.2 hspells]

/-- In a text that can be read, a dollar stands within quotes only. -/
theorem dollarsQuoted_of_parse {s : String} (h : (parse s).isSome) : DollarsQuoted s.toList := by
  obtain ⟨j, hj⟩ := Option.isSome_iff_exists.1 h
  obtain ⟨ts, hlex, -⟩ := Option.bind_eq_some_iff.1 hj
  exact (lex_eq_some_iff.1 hlex).dollarsQuoted

/-- Values start with one of a few characters. -/
theorem parse_eq_none_of_head {c : Char} {cs : List Char} (hspace : isSpace c = false)
    (hone : ∀ cs, lexOne (c :: cs) = none) : parse (String.ofList (c :: cs)) = none := by
  have hlex : lex (c :: cs) = none := by
    simp [lex, lexWith, hspace, hone]
  rw [parse, String.toList_ofList, hlex, Option.bind_none]

end BeanGauge.Json
