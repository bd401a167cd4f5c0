import BeanGauge.Dict
import BeanGauge.Proofs.Text.Utf8
/-!
# The order of texts

Dictionaries with texts as keys are in the order of their characters. That is the order of their
bytes: the first byte of a character says how many there are, and the longer ones start greater.
-/

namespace BeanGauge.Text

theorem cons_ofNat_lt {m n : Nat} {s t : Bytes} (hm : m < 256) (hn : n < 256) (hle : m ≤ n)
    (hs : m = n → s < t) : UInt8.ofNat m :: s < UInt8.ofNat n :: t := by
  rw [List.cons_lt_cons_iff, UInt8.lt_iff_toNat_lt, toNat_ofNat_byte hm, toNat_ofNat_byte hn]
  rcases Nat.lt_or_eq_of_le hle with hlt | rfl
  · exact .inl hlt
  · exact .inr ⟨rfl, hs rfl⟩

/-- A greater character has greater bytes, whatever follows. -/
theorem utf8EncodeChar_lt {c d : Char} (h : c < d) (s t : Bytes) :
    String.utf8EncodeChar c ++ s < String.utf8EncodeChar d ++ t := by
  have hn : c.toNat < d.toNat := UInt32.lt_iff_toNat_lt.1 h
  have hd : d.toNat < 0xd800 ∨ (0xdfff < d.toNat ∧ d.toNat < 0x110000) := d.valid
  simp only [String.utf8EncodeChar, show c.val.toNat = c.toNat from rfl,
    show d.val.toNat = d.toNat from rfl]
  -- a character of more bytes has a greater first one; else the first that differs decides
  by_cases hc1 : c.toNat ≤ 0x7f
  · rw [if_pos hc1]
    split
    · exact cons_ofNat_lt (by omega) (by omega) (by omega) (by omega)
    split
    · exact cons_ofNat_lt (by omega) (by omega) (by omega) (by omega)
    split
    · exact cons_ofNat_lt (by omega) (by omega) (by omega) (by omega)
    · exact cons_ofNat_lt (by omega) (by omega) (by omega) (by omega)
  rw [if_neg hc1, if_neg (show ¬ d.toNat ≤ 0x7f by omega)]
  by_cases hc2 : c.toNat ≤ 0x7ff
  · rw [if_pos hc2]
    split
    · refine cons_ofNat_lt (by omega) (by omega) (by omega) fun _ => ?_
      exact cons_ofNat_lt (by omega) (by omega) (by omega) (by omega)
    split
    · exact cons_ofNat_lt (by omega) (by omega) (by omega) (by omega)
    · exact cons_ofNat_lt (by omega) (by omega) (by omega) (by omega)
  rw [if_neg hc2, if_neg (show ¬ d.toNat ≤ 0x7ff by omega)]
  by_cases hc3 : c.toNat ≤ 0xffff
  · rw [if_pos hc3]
    split
    · refine cons_ofNat_lt (by omega) (by omega) (by omega) fun _ => ?_
      refine cons_ofNat_lt (by omega) (by omega) (by omega) fun _ => ?_
      exact cons_ofNat_lt (by omega) (by omega) (by omega) (by omega)
    · exact cons_ofNat_lt (by omega) (by omega) (by omega) (by omega)
  · rw [if_neg hc3, if_neg (show ¬ d.toNat ≤ 0xffff by omega)]
    refine cons_ofNat_lt (by omega) (by omega) (by omega) fun _ => ?_
    refine cons_ofNat_lt (by omega) (by omega) (by omega) fun _ => ?_
    refine cons_ofNat_lt (by omega) (by omega) (by omega) fun _ => ?_
    exact cons_ofNat_lt (by omega) (by omega) (by omega) (by omega)

/-- Strings are ordered as their bytes are. -/
theorem encode_lt_encode {a b : String} (h : a < b) : encode a < encode b := by
  have hlex : List.Lex (· < ·) a.toList b.toList := h
  rw [encode, encode]
  generalize a.toList = cs at hlex
  generalize b.toList = ds at hlex
  induction hlex with
  | nil =>
    rename_i d ds
    cases hd : String.utf8EncodeChar d with
    | nil =>
      have hpos := List.length_pos_iff.1 (String.length_utf8EncodeChar d ▸ d.utf8Size_pos)
      exact absurd hd hpos
    | cons first rest =>
      rw [List.flatMap_cons, hd]
      exact List.nil_lt_cons _ _
  | rel hcd => exact utf8EncodeChar_lt hcd _ _
  | cons _ ih => exact List.append_left_lt ih

/-- Texts are in the order of their bytes. -/
theorem encode_lt_iff {a b : String} : encode a < encode b ↔ a < b := by
  refine ⟨fun h => ?_, encode_lt_encode⟩
  by_cases hab : a < b
  · exact hab
  by_cases hba : b < a
  · exact absurd (List.lt_trans h (encode_lt_encode hba)) (List.lt_irrefl _)
  · have heq : a = b := KeyOrder.connected hab hba
    rw [heq] at h
    exact absurd h (List.lt_irrefl _)

end BeanGauge.Text
