import BeanGauge.Text.Utf8
/-!
# Reading encoded text back

The bytes of a text are read as the text itself, and bytes below `0x80` stand for themselves. What
is read of bytes that are no text is not described here.
-/

namespace BeanGauge.Text

theorem decodeFrom_skip (k : Nat) (bytes : Bytes) :
    decodeFrom k bytes = decodeFrom 0 (bytes.drop k) := by
  induction bytes generalizing k with
  | nil => cases k <;> rfl
  | cons b bytes ih =>
    cases k with
    | zero => rfl
    | succ k => rw [decodeFrom, ih, List.drop_succ_cons]

theorem toNat_ofNat_byte {n : Nat} (h : n < 256) : (UInt8.ofNat n).toNat = n :=
  Nat.mod_eq_of_lt h

theorem continuation?_ofNat (low high : UInt8) {n : Nat} (hn : n < 64)
    (hl : low.toNat ≤ n + 0x80) (hh : n + 0x80 ≤ high.toNat) :
    continuation? low high (UInt8.ofNat (n + 0x80)) = some n := by
  have hb := toNat_ofNat_byte (show n + 0x80 < 256 by omega)
  have h : low ≤ UInt8.ofNat (n + 0x80) ∧ UInt8.ofNat (n + 0x80) ≤ high := by
    rw [UInt8.le_iff_toNat_le, UInt8.le_iff_toNat_le, hb]
    exact ⟨hl, hh⟩
  rw [continuation?, if_pos h, hb]
  congr 1
  omega

/-- A byte that belongs to no other character but its own. -/
theorem decodeFirst_one {n : Nat} (h : n < 0x80) (rest : Bytes) :
    decodeFirst (UInt8.ofNat n) rest = (Char.ofNat n, 0) := by
  have hn : (UInt8.ofNat n).toNat = n := toNat_ofNat_byte (by omega)
  have hb : UInt8.ofNat n < 0x80 := by
    rw [UInt8.lt_iff_toNat_lt, hn]
    exact h
  rw [decodeFirst, if_pos hb, hn]

theorem decodeFirst_two {n x : Nat} (hn : 2 ≤ n) (hn' : n < 0x20) (hx : x < 64) (rest : Bytes) :
    decodeFirst (UInt8.ofNat (n + 0xc0)) (UInt8.ofNat (x + 0x80) :: rest)
      = (Char.ofNat (n * 64 + x), 1) := by
  have hb : (UInt8.ofNat (n + 0xc0)).toNat = n + 0xc0 := toNat_ofNat_byte (by omega)
  have hx' := continuation?_ofNat 0x80 0xbf hx (by simp) (by simp; omega)
  simp only [decodeFirst, UInt8.lt_iff_toNat_lt, UInt8.le_iff_toNat_le, hb, UInt8.reduceToNat]
  rw [if_neg (by omega), if_pos (by omega)]
  simp only [List.getElem?_cons_zero, Option.bind_some, hx', Nat.add_sub_cancel]

theorem decodeFirst_three {n x y : Nat} (hn : n < 0x10) (hx : x < 64) (hy : y < 64)
    (hlow : n = 0 → 0x20 ≤ x) (hgap : n = 0xd → x < 0x20) (rest : Bytes) :
    decodeFirst (UInt8.ofNat (n + 0xe0))
        (UInt8.ofNat (x + 0x80) :: UInt8.ofNat (y + 0x80) :: rest)
      = (Char.ofNat ((n * 64 + x) * 64 + y), 2) := by
  have hb : (UInt8.ofNat (n + 0xe0)).toNat = n + 0xe0 := toNat_ofNat_byte (by omega)
  have hy' := continuation?_ofNat 0x80 0xbf hy (by simp) (by simp; omega)
  have hx' : continuation? (secondOfThree (UInt8.ofNat (n + 0xe0))).1
      (secondOfThree (UInt8.ofNat (n + 0xe0))).2 (UInt8.ofNat (x + 0x80)) = some x := by
    simp only [secondOfThree, ← UInt8.toNat_inj, hb, UInt8.reduceToNat]
    split
    · exact continuation?_ofNat _ _ hx (by simp; omega) (by simp; omega)
    · split
      · exact continuation?_ofNat _ _ hx (by simp) (by simp; omega)
      · exact continuation?_ofNat _ _ hx (by simp) (by simp; omega)
  simp only [decodeFirst, UInt8.lt_iff_toNat_lt, UInt8.le_iff_toNat_le, hb, UInt8.reduceToNat]
  rw [if_neg (by omega), if_neg (by omega), if_pos (by omega)]
  simp only [List.getElem?_cons_zero, List.getElem?_cons_succ, Option.bind_some, hx', hy',
    Nat.add_sub_cancel]

theorem decodeFirst_four {n x y z : Nat} (hn : n < 5) (hx : x < 64) (hy : y < 64) (hz : z < 64)
    (hlow : n = 0 → 0x10 ≤ x) (hhigh : n = 4 → x < 0x10) (rest : Bytes) :
    decodeFirst (UInt8.ofNat (n + 0xf0))
        (UInt8.ofNat (x + 0x80) :: UInt8.ofNat (y + 0x80) :: UInt8.ofNat (z + 0x80) :: rest)
      = (Char.ofNat (((n * 64 + x) * 64 + y) * 64 + z), 3) := by
  have hb : (UInt8.ofNat (n + 0xf0)).toNat = n + 0xf0 := toNat_ofNat_byte (by omega)
  have hy' := continuation?_ofNat 0x80 0xbf hy (by simp) (by simp; omega)
  have hz' := continuation?_ofNat 0x80 0xbf hz (by simp) (by simp; omega)
  have hx' : continuation? (secondOfFour (UInt8.ofNat (n + 0xf0))).1
      (secondOfFour (UInt8.ofNat (n + 0xf0))).2 (UInt8.ofNat (x + 0x80)) = some x := by
    simp only [secondOfFour, ← UInt8.toNat_inj, hb, UInt8.reduceToNat]
    split
    · exact continuation?_ofNat _ _ hx (by simp; omega) (by simp; omega)
    · split
      · exact continuation?_ofNat _ _ hx (by simp) (by simp; omega)
      · exact continuation?_ofNat _ _ hx (by simp) (by simp; omega)
  simp only [decodeFirst, UInt8.lt_iff_toNat_lt, UInt8.le_iff_toNat_le, hb, UInt8.reduceToNat]
  rw [if_neg (by omega), if_neg (by omega), if_neg (by omega), if_pos (by omega)]
  simp only [List.getElem?_cons_zero, List.getElem?_cons_succ, Option.bind_some, hx', hy', hz',
    Nat.add_sub_cancel]

/-- The character at the front of an encoded text is read back, and as many bytes as belong to it
are counted. -/
theorem decodeFirst_utf8EncodeChar (c : Char) (rest : Bytes) :
    ∃ b bs, String.utf8EncodeChar c = b :: bs ∧ decodeFirst b (bs ++ rest) = (c, bs.length) := by
  have hc : Char.ofNat c.toNat = c := Char.ofNat_toNat c
  have hv : c.toNat < 0xd800 ∨ (0xdfff < c.toNat ∧ c.toNat < 0x110000) := c.valid
  simp only [String.utf8EncodeChar, show c.val.toNat = c.toNat from rfl]
  by_cases h1 : c.toNat ≤ 0x7f
  · rw [if_pos h1]
    exact ⟨_, _, rfl, by rw [decodeFirst_one (by omega), hc]; rfl⟩
  by_cases h2 : c.toNat ≤ 0x7ff
  · rw [if_neg h1, if_pos h2]
    refine ⟨_, _, rfl, ?_⟩
    rw [List.cons_append, decodeFirst_two (by omega) (by omega) (by omega)]
    rw [show c.toNat / 64 % 0x20 * 64 + c.toNat % 0x40 = c.toNat by omega, hc]
    rfl
  by_cases h3 : c.toNat ≤ 0xffff
  · rw [if_neg h1, if_neg h2, if_pos h3]
    refine ⟨_, _, rfl, ?_⟩
    rw [List.cons_append, List.cons_append,
      decodeFirst_three (by omega) (by omega) (by omega) (by omega) (by omega)]
    rw [show (c.toNat / 4096 % 0x10 * 64 + c.toNat / 64 % 0x40) * 64 + c.toNat % 0x40 = c.toNat
      by omega, hc]
    rfl
  · rw [if_neg h1, if_neg h2, if_neg h3]
    refine ⟨_, _, rfl, ?_⟩
    rw [List.cons_append, List.cons_append, List.cons_append,
      decodeFirst_four (by omega) (by omega) (by omega) (by omega) (by omega) (by omega)]
    rw [show ((c.toNat / 262144 % 0x08 * 64 + c.toNat / 4096 % 0x40) * 64
      + c.toNat / 64 % 0x40) * 64 + c.toNat % 0x40 = c.toNat by omega, hc]
    rfl

theorem decodeFrom_flatMap_utf8EncodeChar (cs : List Char) (rest : Bytes) :
    decodeFrom 0 (cs.flatMap String.utf8EncodeChar ++ rest) = cs ++ decodeFrom 0 rest := by
  induction cs with
  | nil => rfl
  | cons c cs ih =>
    obtain ⟨b, bs, hb, hd⟩ :=
      decodeFirst_utf8EncodeChar c (cs.flatMap String.utf8EncodeChar ++ rest)
    rw [List.flatMap_cons, hb, List.append_assoc, List.cons_append, decodeFrom, hd,
      decodeFrom_skip, List.drop_left, ih, List.cons_append]

theorem decodeFrom_encode (s : String) (rest : Bytes) :
    decodeFrom 0 (encode s ++ rest) = s.toList ++ decodeFrom 0 rest :=
  decodeFrom_flatMap_utf8EncodeChar s.toList rest

def asciiChar (b : UInt8) : Char := Char.ofNat b.toNat

theorem decodeFrom_ascii {bytes : Bytes} (h : ∀ b ∈ bytes, b < 0x80) (rest : Bytes) :
    decodeFrom 0 (bytes ++ rest) = bytes.map asciiChar ++ decodeFrom 0 rest := by
  induction bytes with
  | nil => rfl
  | cons b bytes ih =>
    have hb : b < 0x80 := h b (by simp)
    have hfirst : decodeFirst b (bytes ++ rest) = (asciiChar b, 0) := by
      rw [decodeFirst, if_pos hb]
      rfl
    rw [List.cons_append, decodeFrom, hfirst, ih, List.map_cons, List.cons_append]
    intro b' hb'
    exact h b' (List.mem_cons_of_mem _ hb')

theorem not_lt_of_ofNat {n : Nat} (hlow : 0x80 ≤ n) (hhigh : n < 256) :
    ¬ UInt8.ofNat n < 0x80 := by
  rw [UInt8.lt_iff_toNat_lt, toNat_ofNat_byte hhigh]
  exact Nat.not_lt.2 hlow

/-- A byte below `0x80` is all there is of its character. -/
theorem utf8EncodeChar_of_mem {c : Char} {b : UInt8} (hmem : b ∈ String.utf8EncodeChar c)
    (hb : b < 0x80) : String.utf8EncodeChar c = [b] ∧ c.toNat = b.toNat := by
  simp only [String.utf8EncodeChar, show c.val.toNat = c.toNat from rfl] at hmem ⊢
  by_cases h1 : c.toNat ≤ 0x7f
  · rw [if_pos h1] at hmem ⊢
    obtain rfl := List.mem_singleton.1 hmem
    exact ⟨rfl, (toNat_ofNat_byte (by omega)).symm⟩
  rw [if_neg h1] at hmem
  split at hmem
  · simp only [List.mem_cons, List.not_mem_nil, or_false] at hmem
    rcases hmem with rfl | rfl
    all_goals exact absurd hb (not_lt_of_ofNat (by omega) (by omega))
  split at hmem
  · simp only [List.mem_cons, List.not_mem_nil, or_false] at hmem
    rcases hmem with rfl | rfl | rfl
    all_goals exact absurd hb (not_lt_of_ofNat (by omega) (by omega))
  · simp only [List.mem_cons, List.not_mem_nil, or_false] at hmem
    rcases hmem with rfl | rfl | rfl | rfl
    all_goals exact absurd hb (not_lt_of_ofNat (by omega) (by omega))

/-- A byte below `0x80` cuts an encoded text between two characters. -/
theorem cut_flatMap_utf8EncodeChar {cs : List Char} {before after : Bytes} {b : UInt8}
    (h : cs.flatMap String.utf8EncodeChar = before ++ b :: after) (hb : b < 0x80) :
    ∃ start c rest, cs = start ++ c :: rest ∧ before = start.flatMap String.utf8EncodeChar ∧
      c.toNat = b.toNat := by
  induction cs generalizing before with
  | nil => simp at h
  | cons c cs ih =>
    rw [List.flatMap_cons] at h
    rcases List.append_eq_append_iff.1 h with ⟨mid, rfl, hmid⟩ | ⟨mid, hc, hmid⟩
    · obtain ⟨start, d, rest, rfl, rfl, hd⟩ := ih hmid
      exact ⟨c :: start, d, rest, rfl, rfl, hd⟩
    cases mid with
    | nil =>
      rw [List.append_nil] at hc
      have hnext : cs.flatMap String.utf8EncodeChar = [] ++ b :: after := hmid.symm
      obtain ⟨start, d, rest, rfl, hnil, hd⟩ := ih hnext
      have hstart : start = [] := by
        cases start with
        | nil => rfl
        | cons e start =>
          have hlen := congrArg List.length hnil
          have hpos := String.length_utf8EncodeChar e
          have hsize := e.utf8Size_pos
          simp only [List.length_nil, List.flatMap_cons, List.length_append] at hlen
          omega
      exact ⟨[c], d, rest, by rw [hstart]; rfl, by simp [hc], hd⟩
    | cons b' mid =>
      obtain ⟨rfl, -⟩ := List.cons.inj hmid
      obtain ⟨hone, hnat⟩ := utf8EncodeChar_of_mem (c := c) (by rw [hc]; simp) hb
      rw [hone] at hc
      cases before with
      | nil => exact ⟨[], c, cs, rfl, rfl, hnat⟩
      | cons _ _ => simp at hc

end BeanGauge.Text
