import BeanGauge.Catalog
import BeanGauge.Proofs.Except
/-!
# A catalog attribute by attribute

A factory that refuses a leaf only for the identifier of its bean takes each bean in full or not at
all. The metrics of its catalogs are then those of each attribute on its own, in order.
-/

namespace BeanGauge

variable {f : MetricFactory}

/-- Whether a factory makes a metric of every leaf of a bean whose identifier is well formed. -/
def MetricFactory.Uniform (f : MetricFactory) : Prop :=
  ∀ bean, (∃ e, ∀ leaf value, f.wrap bean leaf value = .error e) ∨
    ∀ leaf value, ∃ m, f.wrap bean leaf value = .ok m

namespace Catalog

/-- The metrics that are made of the value of one attribute. -/
def ofAttribute (f : MetricFactory) (bean : String) (a : String × Attribute) : List Metric :=
  (a.2.leaves f.coerce a.1).filterMap fun l => (f.wrap bean l.1 l.2).toOption

/-- A bean of which no leaf is refused is taken in full. -/
theorem ofLeaves_of_ok {bean : String} (hok : ∀ leaf value, ∃ m, f.wrap bean leaf value = .ok m)
    (leaves : List (String × Float)) :
    ofLeaves f bean leaves = ⟨leaves.filterMap fun l => (f.wrap bean l.1 l.2).toOption, []⟩ := by
  induction leaves with
  | nil => rfl
  | cons l leaves ih =>
    obtain ⟨m, hm⟩ := hok l.1 l.2
    have hsome : (f.wrap bean l.1 l.2).toOption = some m := toOption_eq_some_iff.2 hm
    rw [ofLeaves, hm, ih, List.filterMap_cons, hsome]
    rfl

/-- A bean of which every leaf is refused is given up at the first. -/
theorem ofLeaves_of_error {bean : String} {e : BeanName.Malformed}
    (he : ∀ leaf value, f.wrap bean leaf value = .error e) (leaves : List (String × Float)) :
    ofLeaves f bean leaves = ⟨[], if leaves.isEmpty then [] else [e]⟩ := by
  cases leaves with
  | nil => rfl
  | cons l leaves =>
    rw [ofLeaves, he]
    rfl

/-- A bean contributes the metrics of its attributes, one after the other. -/
theorem ofBean_metrics (hf : f.Uniform) (bean : String) (attributes : Attributes) :
    (ofBean f (bean, attributes)).metrics = attributes.entries.flatMap (ofAttribute f bean) := by
  rcases hf bean with ⟨e, he⟩ | hok
  · have hnone : ∀ a ∈ attributes.entries, ofAttribute f bean a = [] := by
      intro a _
      simp [ofAttribute, he, Except.toOption]
    rw [List.flatMap_eq_nil_iff.2 hnone, ofBean, ofLeaves_of_error he]
  · rw [ofBean, ofLeaves_of_ok hok, beanLeaves, List.filterMap_flatMap]
    rfl

/-- The metrics of a catalog are those of every attribute of every bean. -/
theorem build_metrics (hf : f.Uniform) (d : Dump) :
    (build f d).metrics =
      d.beans.entries.flatMap fun bean => bean.2.entries.flatMap (ofAttribute f bean.1) := by
  unfold build
  induction d.beans.entries with
  | nil => rfl
  | cons bean beans ih =>
    rw [List.foldr_cons, List.flatMap_cons, ← ih, ← ofBean_metrics hf]
    rfl

end Catalog

end BeanGauge
