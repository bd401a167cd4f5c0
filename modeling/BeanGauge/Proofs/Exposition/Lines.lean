import BeanGauge.Exposition.Format
import BeanGauge.Proofs.Exposition.Names
import BeanGauge.Proofs.Number.Text
import BeanGauge.Proofs.Text.Split
/-!
# The lines of an exposition

A line gives the help or the kind of a name, or one value of it with labels. Escaped as they are,
help texts and label values end no line, and no two lines have the same text.
-/

namespace BeanGauge.Exposition

/-! ## Escaped texts -/

theorem escapeHelpChar_cancel {c c' : Char} {x x' : List Char}
    (h : escapeHelpChar c ++ x = escapeHelpChar c' ++ x') : c = c' ∧ x = x' := by
  unfold escapeHelpChar at h
  split_ifs at h <;> grind

theorem escapeLabelChar_cancel {c c' : Char} {x x' : List Char}
    (h : escapeLabelChar c ++ x = escapeLabelChar c' ++ x') : c = c' ∧ x = x' := by
  unfold escapeLabelChar escapeHelpChar at h
  split_ifs at h <;> grind

theorem escapeLabelChar_ne_quote (c : Char) (x y : List Char) :
    escapeLabelChar c ++ x ≠ '"' :: y := by
  unfold escapeLabelChar escapeHelpChar
  split_ifs <;> simp_all

theorem escapeHelpChar_ne_nil (c : Char) (x : List Char) : escapeHelpChar c ++ x ≠ [] := by
  unfold escapeHelpChar
  split_ifs <;> simp

theorem not_mem_escapeHelpChar (c : Char) : '\n' ∉ escapeHelpChar c := by
  unfold escapeHelpChar
  split_ifs <;> grind

theorem not_mem_escapeLabelChar (c : Char) : '\n' ∉ escapeLabelChar c := by
  unfold escapeLabelChar
  split
  · decide
  · exact not_mem_escapeHelpChar c

/-- Two coded texts that end where no code starts are the same if the codes are. -/
theorem flatMap_cancel {α : Type} {P : α → Prop} {code : α → List Char}
    (hcode : ∀ {a a' x x'}, P a → P a' → code a ++ x = code a' ++ x' → a = a' ∧ x = x')
    {stop stop' : List Char} (hstop : ∀ a x, code a ++ x ≠ stop)
    (hstop' : ∀ a x, code a ++ x ≠ stop') {v v' : List α} (hv : ∀ a ∈ v, P a)
    (hv' : ∀ a ∈ v', P a) (h : v.flatMap code ++ stop = v'.flatMap code ++ stop') :
    v = v' ∧ stop = stop' := by
  induction v generalizing v' with
  | nil =>
    cases v' with
    | nil => exact ⟨rfl, h⟩
    | cons a' v' =>
      rw [List.flatMap_cons, List.append_assoc] at h
      exact absurd h.symm (hstop a' _)
  | cons a v ih =>
    rw [List.flatMap_cons, List.append_assoc] at h
    cases v' with
    | nil => exact absurd h (hstop' a _)
    | cons a' v' =>
      rw [List.flatMap_cons, List.append_assoc] at h
      rw [List.forall_mem_cons] at hv hv'
      obtain ⟨rfl, hrest⟩ := hcode hv.1 hv'.1 h
      obtain ⟨rfl, hstops⟩ := ih hv.2 hv'.2 hrest
      exact ⟨rfl, hstops⟩

/-- Escaping the text of a help line loses nothing. -/
theorem escapedHelp_cancel {v v' : List Char}
    (h : v.flatMap escapeHelpChar = v'.flatMap escapeHelpChar) : v = v' := by
  have hends : v.flatMap escapeHelpChar ++ [] = v'.flatMap escapeHelpChar ++ [] := by
    rw [h]
  exact (flatMap_cancel (P := fun _ => True) (fun _ _ => escapeHelpChar_cancel)
    escapeHelpChar_ne_nil escapeHelpChar_ne_nil (fun _ _ => trivial) (fun _ _ => trivial) hends).1

/-- Nor does escaping a label value, up to the quote that ends it. -/
theorem escapedLabel_cancel {v v' x x' : List Char}
    (h : v.flatMap escapeLabelChar ++ '"' :: x = v'.flatMap escapeLabelChar ++ '"' :: x') :
    v = v' ∧ x = x' := by
  obtain ⟨hv, hrest⟩ := flatMap_cancel (P := fun _ => True) (fun _ _ => escapeLabelChar_cancel)
    (fun c y => escapeLabelChar_ne_quote c y x) (fun c y => escapeLabelChar_ne_quote c y x')
    (fun _ _ => trivial) (fun _ _ => trivial) h
  exact ⟨hv, (List.cons.inj hrest).2⟩

/-! ## Labels -/

def labelChars (label : String × String) : List Char :=
  label.1.toList ++ '=' :: '"' :: (label.2.toList.flatMap escapeLabelChar ++ ['"'])

def labelsChars : List (String × String) → List Char
  | [] => []
  | label :: labels =>
    '\x7b' :: (labelChars label ++ (labels.flatMap fun l => ',' :: labelChars l) ++ ['\x7d'])

theorem toList_labelText (label : String × String) :
    (labelText label).toList = labelChars label := by
  have hquotes : "=\"".toList = ['=', '"'] ∧ "\"".toList = ['"'] := by decide
  simp only [labelText, labelChars, String.toList_append, String.toList_ofList, hquotes,
    List.append_assoc, List.cons_append, List.nil_append]

theorem toList_labelsText (labels : Dict String String) :
    (labelsText labels).toList = labelsChars labels.entries := by
  have hbraces : "\x7b".toList = ['\x7b'] ∧ "\x7d".toList = ['\x7d'] ∧ ",".toList = [','] := by
    decide
  rw [labelsText, Dict.isEmpty]
  cases labels.entries with
  | nil => rfl
  | cons label labels =>
    have hlabels : (label :: labels).map (String.toList ∘ labelText) =
        labelChars label :: labels.map labelChars :=
      List.map_congr_left fun l _ => toList_labelText l
    simp only [List.isEmpty_cons, Bool.false_eq_true, if_false, String.toList_append,
      String.toList_intercalate, hbraces, List.map_map, hlabels, Text.intercalate_cons,
      List.flatMap_map, labelsChars, List.append_assoc, List.cons_append, List.nil_append]

theorem labelChars_cancel {l l' : String × String} (hl : IsName false l.1.toList)
    (hl' : IsName false l'.1.toList) {x x' : List Char}
    (h : labelChars l ++ x = labelChars l' ++ x') : l = l' ∧ x = x' := by
  simp only [labelChars, List.append_assoc, List.cons_append, List.nil_append] at h
  obtain ⟨hkey, -, hvalue⟩ := name_cancel hl.2 hl'.2 (by decide) (by decide) h
  obtain ⟨hvalue, hrest⟩ := escapedLabel_cancel (List.cons.inj hvalue).2
  exact ⟨Prod.ext (String.toList_injective hkey) (String.toList_injective hvalue), hrest⟩

/-- The labels can be read back, and so can what follows the blank behind them. -/
theorem labelsChars_cancel {ls ls' : List (String × String)}
    (hls : ∀ l ∈ ls, IsName false l.1.toList) (hls' : ∀ l ∈ ls', IsName false l.1.toList)
    {x x' : List Char} (h : labelsChars ls ++ ' ' :: x = labelsChars ls' ++ ' ' :: x') :
    ls = ls' ∧ x = x' := by
  cases ls with
  | nil =>
    cases ls' with
    | nil => exact ⟨rfl, (List.cons.inj h).2⟩
    | cons l' ls' => cases h
  | cons l ls =>
    cases ls' with
    | nil => cases h
    | cons l' ls' =>
      rw [List.forall_mem_cons] at hls hls'
      simp only [labelsChars, List.cons_append, List.append_assoc, List.nil_append,
        List.cons.injEq, true_and] at h
      obtain ⟨rfl, hrest⟩ := labelChars_cancel hls.1 hls'.1 h
      obtain ⟨rfl, hx⟩ := flatMap_cancel (P := fun l => IsName false l.1.toList)
        (fun ha ha' heq => labelChars_cancel ha ha' (List.cons.inj heq).2)
        (fun _ _ heq => by cases heq) (fun _ _ heq => by cases heq) hls.2 hls'.2 hrest
      simp only [List.cons.injEq, true_and] at hx
      exact ⟨rfl, hx⟩

theorem labelsChars_lead (ls : List (String × String)) (x : List Char) :
    ∃ d y, keeps true d = false ∧ labelsChars ls ++ ' ' :: x = d :: y := by
  cases ls with
  | nil => exact ⟨' ', x, by decide, rfl⟩
  | cons l ls => exact ⟨'\x7b', _, by decide, rfl⟩

theorem not_mem_labelsChars {ls : List (String × String)} (h : ∀ l ∈ ls, IsName false l.1.toList) :
    '\n' ∉ labelsChars ls := by
  have hlabel : ∀ l ∈ ls, '\n' ∉ labelChars l := by
    intro l hl
    have hkey : '\n' ∉ l.1.toList := (h l hl).not_mem (by decide)
    simp [labelChars, hkey, not_mem_escapeLabelChar]
  cases ls with
  | nil => exact List.not_mem_nil
  | cons l ls =>
    rw [List.forall_mem_cons] at hlabel
    have hlater : '\n' ∉ ls.flatMap fun l => ',' :: labelChars l := by
      simpa using fun key value => hlabel.2 (key, value)
    simp [labelsChars, hlabel.1, hlater]

/-! ## Values -/

theorem isNumeral_valueText (x : Float) : Number.IsNumeral (valueText x).toList := by
  unfold valueText
  split
  · exact Number.sober_plainStyle.nan
  · split
    · exact Number.isNumeral_of_all (by decide) (by decide)
    · exact Number.isNumeral_of_all (by decide) (by decide)
  · split
    · exact Number.isNumeral_intText _
    split
    · exact Number.sober_scientificStyle.write x
    · exact Number.sober_plainStyle.write x

/-! ## Lines -/

/-- A line of an exposition: the help of a name, its kind, or one of its values with labels. -/
inductive Line where
  | help (name text : String)
  | typed (name : String) (kind : MetricKind)
  | sample (name : String) (labels : Dict String String) (value : String)

namespace Line

/-- The line as it stands. -/
def text : Line → String
  | help name text => "# HELP " ++ name ++ " " ++ String.ofList (text.toList.flatMap escapeHelpChar)
  | typed name kind => "# TYPE " ++ name ++ " " ++ kind.text
  | sample name labels value => name ++ labelsText labels ++ " " ++ value

/-- Whether a line has the form of one: names and keys are such, keys rise, and the value is a
number. -/
def Sound : Line → Prop
  | help name _ => IsName true name.toList
  | typed name _ => IsName true name.toList
  | sample name labels value =>
    IsName true name.toList ∧ labels.entries.Pairwise (fun a b => a.1 < b.1) ∧
      (∀ l ∈ labels.entries, IsName false l.1.toList) ∧ Number.IsNumeral value.toList

theorem toList_help (name text : String) : (help name text).text.toList =
    ['#', ' ', 'H', 'E', 'L', 'P', ' '] ++
      (name.toList ++ ' ' :: text.toList.flatMap escapeHelpChar) := by
  have hlead : "# HELP ".toList = ['#', ' ', 'H', 'E', 'L', 'P', ' '] ∧ " ".toList = [' '] := by
    decide
  simp only [Line.text, String.toList_append, String.toList_ofList, hlead, List.append_assoc,
    List.cons_append, List.nil_append]

theorem toList_typed (name : String) (kind : MetricKind) : (typed name kind).text.toList =
    ['#', ' ', 'T', 'Y', 'P', 'E', ' '] ++ (name.toList ++ ' ' :: kind.text.toList) := by
  have hlead : "# TYPE ".toList = ['#', ' ', 'T', 'Y', 'P', 'E', ' '] ∧ " ".toList = [' '] := by
    decide
  simp only [Line.text, String.toList_append, hlead, List.append_assoc, List.cons_append,
    List.nil_append]

theorem toList_sample (name : String) (labels : Dict String String) (value : String) :
    (sample name labels value).text.toList =
      name.toList ++ (labelsChars labels.entries ++ ' ' :: value.toList) := by
  have hblank : " ".toList = [' '] := by decide
  simp only [Line.text, String.toList_append, toList_labelsText, hblank, List.append_assoc,
    List.cons_append, List.nil_append]

/-- No line ends within itself. -/
theorem Sound.not_mem {l : Line} (h : l.Sound) : '\n' ∉ l.text.toList := by
  cases l with
  | help name text =>
    have hname : '\n' ∉ name.toList := IsName.not_mem h (by decide)
    simp [toList_help, hname, not_mem_escapeHelpChar]
  | typed name kind =>
    have hname : '\n' ∉ name.toList := IsName.not_mem h (by decide)
    have hkind : '\n' ∉ kind.text.toList := by cases kind <;> decide
    simp [toList_typed, hname, hkind]
  | sample name labels value =>
    obtain ⟨hname, -, hkeys, hvalue⟩ := h
    have hname : '\n' ∉ name.toList := hname.not_mem (by decide)
    have hvalue : '\n' ∉ value.toList := hvalue.not_mem (by decide)
    simp [toList_sample, hname, hvalue, not_mem_labelsChars hkeys]

theorem sample_ne_comment {name : List Char} (h : IsName true name) (x y : List Char) :
    name ++ x ≠ '#' :: y := by
  obtain ⟨⟨first, rest, rfl, -⟩, hkept⟩ := h
  intro heq
  rw [List.cons_append, List.cons.injEq] at heq
  have hfirst := hkept first List.mem_cons_self
  rw [heq.1] at hfirst
  cases hfirst

theorem text_injective {l l' : Line} (h : l.Sound) (h' : l'.Sound) (htext : l.text = l'.text) :
    l = l' := by
  have hchars : l.text.toList = l'.text.toList := congrArg String.toList htext
  cases l with
  | help name t =>
    rw [toList_help] at hchars
    cases l' with
    | help name' t' =>
      rw [toList_help, List.append_cancel_left_eq] at hchars
      obtain ⟨hname, -, ht⟩ := name_cancel h.2 h'.2 (by decide) (by decide) hchars
      rw [String.toList_injective hname, String.toList_injective (escapedHelp_cancel ht)]
    | typed name' kind' =>
      rw [toList_typed] at hchars
      cases hchars
    | sample name' labels' value' =>
      rw [toList_sample] at hchars
      exact absurd hchars.symm (sample_ne_comment h'.1 _ _)
  | typed name kind =>
    rw [toList_typed] at hchars
    cases l' with
    | help name' t' =>
      rw [toList_help] at hchars
      cases hchars
    | typed name' kind' =>
      rw [toList_typed, List.append_cancel_left_eq] at hchars
      obtain ⟨hname, -, hword⟩ := name_cancel h.2 h'.2 (by decide) (by decide) hchars
      have hkind : kind = kind' := by
        cases kind <;> cases kind' <;> first | rfl | exact absurd hword (by decide)
      rw [String.toList_injective hname, hkind]
    | sample name' labels' value' =>
      rw [toList_sample] at hchars
      exact absurd hchars.symm (sample_ne_comment h'.1 _ _)
  | sample name labels value =>
    rw [toList_sample] at hchars
    cases l' with
    | help name' t' =>
      rw [toList_help] at hchars
      exact absurd hchars (sample_ne_comment h.1 _ _)
    | typed name' kind' =>
      rw [toList_typed] at hchars
      exact absurd hchars (sample_ne_comment h.1 _ _)
    | sample name' labels' value' =>
      rw [toList_sample] at hchars
      obtain ⟨hname, -, hkeys, -⟩ := h
      obtain ⟨hname', -, hkeys', -⟩ := h'
      obtain ⟨d, y, hd, hy⟩ := labelsChars_lead labels.entries value.toList
      obtain ⟨d', y', hd', hy'⟩ := labelsChars_lead labels'.entries value'.toList
      have hlead := hchars
      rw [hy, hy'] at hlead
      obtain ⟨hsame, -, -⟩ := name_cancel hname.2 hname'.2 hd hd' hlead
      rw [hsame, List.append_cancel_left_eq] at hchars
      obtain ⟨hlabels, hvalue⟩ := labelsChars_cancel hkeys hkeys' hchars
      have hdict : labels = labels' := by
        rw [← Dict.ofList_entries labels, hlabels, Dict.ofList_entries]
      rw [String.toList_injective hsame, hdict, String.toList_injective hvalue]

end Line

end BeanGauge.Exposition
