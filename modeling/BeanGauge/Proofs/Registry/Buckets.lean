import BeanGauge.Registry.Histogram
import BeanGauge.Proofs.Number.Order
import Mathlib.Data.List.Perm.Basic
/-!
# Cumulative buckets

A histogram keeps three things apart: a count for each bound, a sum and a count of everything.
One observation raises exactly the buckets whose bound it does not exceed, so after any number of
them a bucket counts the observations up to its bound. The bounds rise up to infinity, which no
number exceeds: the counts rise with them, and the last one is the count of everything.
-/

namespace BeanGauge.Histogram

/-- Takes some observations into account, one after the other. -/
def observeAll (h : Histogram) (observations : List Float) : Histogram :=
  observations.foldl observe h

/-! ### The bounds rise -/

def Falling (xs : List Float) : Prop := xs.Pairwise fun x y => y ≤ x

theorem insertFalling_perm (x : Float) (xs : List Float) : (insertFalling x xs).Perm (x :: xs) := by
  induction xs with
  | nil => rfl
  | cons y ys ih =>
    rw [insertFalling]
    split
    · exact (ih.cons y).trans (List.Perm.swap x y ys)
    · rfl

theorem insertFalling_falling {x : Float} {xs : List Float} (hx : x.isNaN = false)
    (hnum : ∀ y ∈ xs, y.isNaN = false) (hxs : Falling xs) : Falling (insertFalling x xs) := by
  induction xs with
  | nil => exact List.pairwise_singleton _ _
  | cons y ys ih =>
    obtain ⟨hy, hys⟩ := List.pairwise_cons.1 hxs
    rw [insertFalling]
    split
    next hlt =>
      refine List.pairwise_cons.2 ⟨fun z hz => ?_, ih (fun z hz => hnum z (.tail _ hz)) hys⟩
      rcases List.mem_cons.1 ((insertFalling_perm x ys).mem_iff.1 hz) with rfl | hz
      · exact Number.le_of_lt hlt
      · exact hy z hz
    next hlt =>
      have hyx : y ≤ x := Number.le_of_not_lt hx (hnum y (.head _)) hlt
      refine List.pairwise_cons.2 ⟨fun z hz => ?_, hxs⟩
      rcases List.mem_cons.1 hz with rfl | hz
      · exact hyx
      · exact Number.le_trans (hy z hz) hyx

theorem foldl_insertFalling {bounds : List Float} (hnum : ∀ b ∈ bounds, b.isNaN = false) :
    ∀ falling : List Float, (∀ y ∈ falling, y.isNaN = false) → Falling falling →
      (bounds.foldl (fun falling x => insertFalling x falling) falling).Perm (bounds ++ falling) ∧
        Falling (bounds.foldl (fun falling x => insertFalling x falling) falling) := by
  induction bounds with
  | nil => exact fun _ _ h => ⟨.refl _, h⟩
  | cons b bs ih =>
    intro falling hfalling h
    have hb : b.isNaN = false := hnum b (.head _)
    have hnum' : ∀ y ∈ insertFalling b falling, y.isNaN = false := fun y hy => by
      rcases List.mem_cons.1 ((insertFalling_perm b falling).mem_iff.1 hy) with rfl | hy
      · exact hb
      · exact hfalling y hy
    obtain ⟨hperm, hsorted⟩ := ih (fun y hy => hnum y (.tail _ hy)) _ hnum'
      (insertFalling_falling hb hfalling h)
    refine ⟨hperm.trans ?_, hsorted⟩
    exact ((insertFalling_perm b falling).append_left bs).trans List.perm_middle

/-- Numbers are put in rising order, all of them and nothing else. -/
theorem sortBounds_spec {bounds : List Float} (hnum : ∀ b ∈ bounds, b.isNaN = false) :
    (sortBounds bounds).Perm bounds ∧ (sortBounds bounds).Pairwise (· ≤ ·) := by
  obtain ⟨hperm, hfalling⟩ := foldl_insertFalling hnum [] (by simp) .nil
  rw [List.append_nil] at hperm
  exact ⟨(List.reverse_perm _).trans hperm, List.pairwise_reverse.2 hfalling⟩

/-- Behind finite bounds stands infinity. -/
theorem completeBounds_of_finite {bounds : List Float} (hfin : ∀ b ∈ bounds, b.isFinite = true) :
    completeBounds bounds = sortBounds bounds ++ [Number.infinity] := by
  have hperm := (sortBounds_spec fun b hb => (Number.isNaN_isInf_of_isFinite (hfin b hb)).1).1
  have hlast : (sortBounds bounds).getLast?.map Float.isInf ≠ some true := fun h => by
    obtain ⟨b, hb, hinf⟩ := Option.map_eq_some_iff.1 h
    have hmem : b ∈ bounds := hperm.mem_iff.1 (List.mem_of_getLast? hb)
    rw [(Number.isNaN_isInf_of_isFinite (hfin b hmem)).2] at hinf
    exact Bool.false_ne_true hinf
  rw [completeBounds, if_neg]
  · rfl
  · intro h
    cases hinf : (sortBounds bounds).getLast?.map Float.isInf with
    | none => rw [hinf] at h; exact Bool.false_ne_true h
    | some inf => rw [hinf] at h hlast; exact hlast (congrArg some h)

/-! ### What observations leave behind -/

/-- A bucket grows by the observations up to its bound. -/
theorem observeAll_buckets (h : Histogram) (observations : List Float) :
    (h.observeAll observations).buckets =
      h.buckets.map fun b => (b.1, b.2 + observations.countP (· ≤ b.1)) := by
  induction observations generalizing h with
  | nil => simp [observeAll]
  | cons x xs ih =>
    show ((h.observe x).observeAll xs).buckets = _
    rw [ih, observe, List.map_map]
    refine List.map_congr_left fun b _ => ?_
    rw [Function.comp_apply, List.countP_cons]
    by_cases hx : x ≤ b.1 <;> simp [hx, Nat.add_assoc, Nat.add_comm]

/-- The sum is taken in the order of the observations. -/
theorem observeAll_sum (h : Histogram) (observations : List Float) :
    (h.observeAll observations).sum = observations.foldl (· + ·) h.sum := by
  induction observations generalizing h with
  | nil => rfl
  | cons x xs ih => exact ih (h.observe x)

theorem observeAll_count (h : Histogram) (observations : List Float) :
    (h.observeAll observations).count = h.count + observations.length := by
  induction observations generalizing h with
  | nil => rfl
  | cons x xs ih =>
    show ((h.observe x).observeAll xs).count = _
    rw [ih, observe, List.length_cons, Nat.add_assoc, Nat.add_comm 1]

/-- The buckets of finite bounds after some observations. -/
theorem ofBounds_observeAll_buckets {bounds : List Float}
    (hfin : ∀ b ∈ bounds, b.isFinite = true) (observations : List Float) :
    ((ofBounds bounds).observeAll observations).buckets =
      (sortBounds bounds ++ [Number.infinity]).map fun b =>
        (b, observations.countP (· ≤ b)) := by
  rw [observeAll_buckets, ofBounds, completeBounds_of_finite hfin, List.map_map]
  simp only [Function.comp_def, Nat.zero_add]

/-- A greater bound has at least as many observations up to it. -/
theorem countP_le_mono {b c : Float} (hbc : b ≤ c) (observations : List Float) :
    observations.countP (· ≤ b) ≤ observations.countP (· ≤ c) :=
  List.countP_mono_left fun _ _ hx =>
    decide_eq_true (Number.le_trans (of_decide_eq_true hx) hbc)

theorem countP_le_infinity {observations : List Float}
    (hnum : ∀ x ∈ observations, x.isNaN = false) :
    observations.countP (· ≤ Number.infinity) = observations.length :=
  List.countP_eq_length.2 fun x hx => decide_eq_true (Number.le_infinity (hnum x hx))

/-- The buckets of a histogram are cumulative and complete. -/
theorem observeAll_cumulative {bounds observations : List Float}
    (hbounds : ∀ b ∈ bounds, b.isFinite = true)
    (hobservations : ∀ x ∈ observations, x.isNaN = false) :
    (sortBounds bounds).Perm bounds ∧ (sortBounds bounds).Pairwise (· ≤ ·) ∧
      ((ofBounds bounds).observeAll observations).buckets =
        (sortBounds bounds ++ [Number.infinity]).map
          (fun b => (b, observations.countP (· ≤ b))) ∧
      (((ofBounds bounds).observeAll observations).buckets.map Prod.snd).Pairwise (· ≤ ·) ∧
      ((ofBounds bounds).observeAll observations).buckets.getLast? =
        some (Number.infinity, ((ofBounds bounds).observeAll observations).count) ∧
      ((ofBounds bounds).observeAll observations).count = observations.length ∧
      ((ofBounds bounds).observeAll observations).sum = observations.foldl (· + ·) 0 := by
  have hnum : ∀ b ∈ bounds, b.isNaN = false := fun b hb =>
    (Number.isNaN_isInf_of_isFinite (hbounds b hb)).1
  obtain ⟨hperm, hrising⟩ := sortBounds_spec hnum
  have hbuckets := ofBounds_observeAll_buckets hbounds observations
  have hcount : ((ofBounds bounds).observeAll observations).count = observations.length := by
    rw [observeAll_count, ofBounds, Nat.zero_add]
  refine ⟨hperm, hrising, hbuckets, ?_, ?_, hcount, observeAll_sum _ _⟩
  · have hall : (sortBounds bounds ++ [Number.infinity]).Pairwise (· ≤ ·) := by
      refine List.pairwise_append.2 ⟨hrising, List.pairwise_singleton _ _, fun b hb c hc => ?_⟩
      rw [List.mem_singleton.1 hc]
      exact Number.le_infinity (hnum b (hperm.mem_iff.1 hb))
    rw [hbuckets, List.map_map]
    exact List.pairwise_map.2 (hall.imp fun hbc => countP_le_mono hbc observations)
  · rw [hbuckets, hcount, List.map_append, List.map_singleton, List.getLast?_concat,
      countP_le_infinity hobservations]

/-- Unsorted bounds with a repetition and a negative zero, and an infinite observation. -/
theorem observeAll_unsorted :
    (∀ b ∈ [5.0, 1.0, -0.0, 1.0], Float.isFinite b = true) ∧
      (∀ x ∈ [0.5, 3.0, Number.infinity, -2.0], Float.isNaN x = false) ∧
      (sortBounds [5.0, 1.0, -0.0, 1.0]).Perm [5.0, 1.0, -0.0, 1.0] ∧
      ((ofBounds [5.0, 1.0, -0.0, 1.0]).observeAll [0.5, 3.0, Number.infinity, -2.0]).buckets.map
        Prod.snd = [1, 2, 2, 3, 4] := by
  have hbounds : ∀ b ∈ [5.0, 1.0, -0.0, 1.0], Float.isFinite b = true := by decide
  have hobservations : ∀ x ∈ [0.5, 3.0, Number.infinity, -2.0], Float.isNaN x = false := by
    decide
  obtain ⟨hperm, -, hbuckets, -⟩ := observeAll_cumulative hbounds hobservations
  refine ⟨hbounds, hobservations, hperm, ?_⟩
  rw [hbuckets]
  decide

end BeanGauge.Histogram
