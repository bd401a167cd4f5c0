import Mathlib.Data.Prod.Lex
import Mathlib.Data.Int.Order.Basic
/-!
# The order of doubles

Every double that is a number has a place: first its class, from minus infinity over the negative
numbers, zero and the positive numbers to infinity, then its exponent, then its digits. Comparing
two numbers compares their places, so numbers are totally preordered, with infinity above all; and
nothing compares with what is not a number.
-/

namespace BeanGauge.Number

open Float.Model

/-- Where a number stands among the numbers; the two zeros stand together. -/
def place : UnpackedFloat → Int ×ₗ Int ×ₗ Int
  | .infinity .negative => toLex (-2, toLex (0, 0))
  | .finite .negative mant exp _ => toLex (-1, toLex (-exp, -mant))
  | .zero _ | .notANumber => toLex (0, toLex (0, 0))
  | .finite .positive mant exp _ => toLex (1, toLex (exp, mant))
  | .infinity .positive => toLex (2, toLex (0, 0))

def rank (x : Float) : Int ×ₗ Int ×ₗ Int := place x.toModel.unpack

/-- The double above all numbers. -/
def infinity : Float := Float.ofBits 0x7ff0000000000000

/-! ### Comparing places -/

theorem compare_toLex {α β : Type} [Ord α] [Ord β] (a c : α) (b d : β) :
    compare (toLex (a, b)) (toLex (c, d)) = (compare a c).then (compare b d) := rfl

theorem compare_neg (a b : Int) : compare (-a) (-b) = (compare a b).swap := by
  rw [Int.compare_swap, Int.compare_eq_ite_lt, Int.compare_eq_ite_lt]
  simp only [Int.neg_lt_neg_iff]

theorem compare_natCast (m n : Nat) : compare (m : Int) n = compare m n := by
  rw [Int.compare_eq_ite_lt, Nat.compare_eq_ite_lt]
  simp only [Int.ofNat_lt]

/-- Among positive numbers exponents are compared before digits. -/
theorem compare_positive (e e' : Int) (m m' : Nat) :
    compare (toLex ((1 : Int), toLex (e, (m : Int)))) (toLex (1, toLex (e', (m' : Int)))) =
      (compare e e').then (compare m m') := by
  rw [compare_toLex, compare_toLex, compare_natCast]
  rfl

/-- Below zero both are turned round. -/
theorem compare_negative (e e' : Int) (m m' : Nat) :
    compare (toLex ((-1 : Int), toLex (-e, -(m : Int)))) (toLex (-1, toLex (-e', -(m' : Int)))) =
      ((compare e e').then (compare m m')).swap := by
  rw [compare_toLex, compare_toLex, compare_neg e e', compare_neg m m', compare_natCast,
    Ordering.swap_then]
  rfl

/-- Numbers compare as their places do. -/
theorem compare_eq {x y : UnpackedFloat} (hx : x.isNaN = false) (hy : y.isNaN = false) :
    x.compare y = some (compare (place x) (place y)) := by
  rcases x with s | _ | s | ⟨s, m, e, hm⟩ <;> rcases y with s' | _ | s' | ⟨s', m', e', hm'⟩
  all_goals first
    | contradiction
    | cases s <;> cases s' <;> first
      | rfl
      | exact congrArg some (compare_positive e e' m m').symm
      | exact congrArg some (compare_negative e e' m m').symm

theorem compare_nan_left {x : UnpackedFloat} (hx : x.isNaN = true) (y : UnpackedFloat) :
    x.compare y = none := by
  cases x with
  | notANumber => rfl
  | infinity | zero | finite => contradiction

theorem compare_nan_right (x : UnpackedFloat) {y : UnpackedFloat} (hy : y.isNaN = true) :
    x.compare y = none := by
  cases y with
  | notANumber => cases x <;> rfl
  | infinity | zero | finite => contradiction

/-! ### The order -/

/-- Doubles compare by rank, unless one of them is no number. -/
theorem compare_unpack (x y : Float) :
    x.toModel.unpack.compare y.toModel.unpack =
      if x.isNaN = false ∧ y.isNaN = false then some (compare (rank x) (rank y)) else none := by
  split
  next h => exact compare_eq h.1 h.2
  next h =>
    cases hx : x.isNaN with
    | true => exact compare_nan_left hx _
    | false =>
      have hy : y.isNaN = true := Bool.of_not_eq_false fun hy => h ⟨hx, hy⟩
      exact compare_nan_right _ hy

theorem le_iff {x y : Float} :
    x ≤ y ↔ x.isNaN = false ∧ y.isNaN = false ∧ rank x ≤ rank y := by
  have h : x ≤ y ↔ (x.toModel.unpack.compare y.toModel.unpack).any Ordering.isLE = true :=
    decide_eq_true_iff
  have hr : (compare (rank x) (rank y)).isLE = true ↔ rank x ≤ rank y :=
    Ordering.ne_gt_iff_isLE.symm.trans compare_le_iff_le
  rw [h, compare_unpack, ← hr, ← and_assoc]
  split
  next hnum => exact (and_iff_right hnum).symm
  next hnum => exact iff_of_false Bool.false_ne_true fun hle => hnum hle.1

theorem lt_iff {x y : Float} :
    x < y ↔ x.isNaN = false ∧ y.isNaN = false ∧ rank x < rank y := by
  have h : x < y ↔ x.toModel.unpack.compare y.toModel.unpack = some .lt :=
    decide_eq_true_iff.trans beq_iff_eq
  rw [h, compare_unpack, ← compare_lt_iff_lt, ← and_assoc]
  split
  next hnum => exact Option.some_inj.trans (and_iff_right hnum).symm
  next hnum => exact iff_of_false nofun fun hlt => hnum hlt.1

theorem le_trans {x y z : Float} (hxy : x ≤ y) (hyz : y ≤ z) : x ≤ z := by
  rw [le_iff] at hxy hyz ⊢
  exact ⟨hxy.1, hyz.2.1, hxy.2.2.trans hyz.2.2⟩

theorem le_of_lt {x y : Float} (h : x < y) : x ≤ y :=
  le_iff.2 ⟨(lt_iff.1 h).1, (lt_iff.1 h).2.1, (lt_iff.1 h).2.2.le⟩

theorem le_of_not_lt {x y : Float} (hx : x.isNaN = false) (hy : y.isNaN = false) (h : ¬x < y) :
    y ≤ x := by
  rw [lt_iff] at h
  exact le_iff.2 ⟨hy, hx, not_lt.1 fun hlt => h ⟨hx, hy, hlt⟩⟩

/-- Nothing is above infinity. -/
theorem place_le_infinity (x : UnpackedFloat) : place x ≤ place (.infinity .positive) := by
  have hclass {n : Int} (hn : n < 2) (p : Int ×ₗ Int) :
      toLex (n, p) ≤ toLex ((2 : Int), toLex ((0 : Int), (0 : Int))) :=
    Prod.Lex.toLex_le_toLex.2 (.inl hn)
  cases x with
  | infinity s =>
    cases s with
    | positive => exact le_refl _
    | negative => exact hclass (by decide) _
  | notANumber => exact hclass (by decide) _
  | zero s => exact hclass (by decide) _
  | finite s m e hm =>
    cases s with
    | positive => exact hclass (by decide) _
    | negative => exact hclass (by decide) _

/-- Infinity is above every number. -/
theorem le_infinity {x : Float} (hx : x.isNaN = false) : x ≤ infinity :=
  le_iff.2 ⟨hx, by decide, place_le_infinity _⟩

/-- A finite double is a number, and not infinite. -/
theorem isNaN_isInf_of_isFinite {x : Float} (hx : x.isFinite = true) :
    x.isNaN = false ∧ x.isInf = false := by
  have h (u : UnpackedFloat) (hu : u.isFinite = true) : u.isNaN = false ∧ u.isInf = false := by
    cases u with
    | notANumber | infinity => contradiction
    | zero | finite => exact ⟨rfl, rfl⟩
  exact h x.toModel.unpack hx

end BeanGauge.Number
