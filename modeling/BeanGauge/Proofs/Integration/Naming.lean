import BeanGauge.Proofs.Exposition.Labels
import BeanGauge.Proofs.Integration.Exclusion
import BeanGauge.Proofs.Metric.Normal
/-!
# What integrations call their metrics

The program keeps a start of names for its own values. The names that integrations give start with
other letters, so only a configured alias can lead there.
-/

namespace BeanGauge

namespace Exposition

/-- What the names of the program's own values start with. -/
def reserve : String := "rjmx_bridge_"

/-- Whether a name is one that the program keeps for itself. -/
def Reserved (name : String) : Prop := reserve.toList <+: name.toList

/-- Whether a name starts with a letter, and with another one than reserved names. -/
def Apart (name : String) : Prop :=
  (name.toList.head?.any fun c => Metric.isLetter c && c != 'r') = true

instance (name : String) : Decidable (Apart name) := inferInstanceAs (Decidable (_ = true))

theorem apart_of_cons {name : String} {c : Char} {cs : List Char} (h : name.toList = c :: cs)
    (hletter : Metric.isLetter c) (hc : c ≠ 'r') : Apart name := by
  rw [Apart, h, List.head?_cons, Option.any_some, hletter, Bool.true_and, bne_iff_ne]
  exact hc

theorem Apart.append {name : String} (h : Apart name) (rest : String) : Apart (name ++ rest) := by
  rw [Apart] at h
  cases hname : name.toList with
  | nil =>
    rw [hname] at h
    cases h
  | cons c cs =>
    rw [hname] at h
    rw [Apart, String.toList_append, hname]
    exact h

theorem Apart.not_reserved {name : String} (h : Apart name) : ¬Reserved (sanitizeName name) := by
  rw [Reserved, sanitizeName, String.toList_ofList]
  rw [Apart] at h
  cases hname : name.toList with
  | nil =>
    rw [hname] at h
    cases h
  | cons c cs =>
    rw [hname, List.head?_cons, Option.any_some, Bool.and_eq_true, bne_iff_ne] at h
    obtain ⟨hletter, hc⟩ := h
    have hkeeps : keeps true c = true := by rw [keeps, hletter]; rfl
    have hdigit : Metric.isDigit c = false := isDigit_of_isLetter hletter
    have hreserve : reserve.toList = 'r' :: reserve.toList.tail := by decide
    rw [sanitizeChars, hdigit, if_neg Bool.false_ne_true, List.map_cons, hkeeps, if_pos rfl,
      hreserve, List.cons_prefix_cons]
    rintro ⟨rfl, -⟩
    exact hc rfl

end Exposition

open Exposition (Apart Reserved)

namespace Integration

/-- Whether a name is one that a filter of the generic integration gives. -/
def Renames (i : Integration) (name : String) : Prop :=
  ∃ filters f leaf a, i = .jmx filters ∧ f ∈ filters ∧ f.aliases.get? leaf = some a ∧
    a.newName = some name

theorem leads_name (i : Integration) :
    ∃ c cs, i.name.toList = c :: cs ∧ Metric.Leads c ∧ c ≠ 'r' := by
  cases i with
  | activemq =>
    have hname : "activemq".toList = 'a' :: "ctivemq".toList := by decide
    exact ⟨'a', _, hname, ⟨by decide, fun _ => rfl⟩, by decide⟩
  | cassandra =>
    have hname : "cassandra".toList = 'c' :: "assandra".toList := by decide
    exact ⟨'c', _, hname, ⟨by decide, fun _ => rfl⟩, by decide⟩
  | jmx filters =>
    have hname : "jmx".toList = 'j' :: "mx".toList := by decide
    exact ⟨'j', _, hname, ⟨by decide, fun _ => rfl⟩, by decide⟩
  | solr =>
    have hname : "solr".toList = 's' :: "olr".toList := by decide
    exact ⟨'s', _, hname, ⟨by decide, fun _ => rfl⟩, by decide⟩
  | tomcat =>
    have hname : "tomcat".toList = 't' :: "omcat".toList := by decide
    exact ⟨'t', _, hname, ⟨by decide, fun _ => rfl⟩, by decide⟩

/-- A normalised name that starts with the name of an integration. -/
theorem apart_normalize (i : Integration) {name : String}
    (h : i.name.toList <+: name.toList) : Apart (Metric.normalize name) := by
  obtain ⟨c, cs, hname, hleads, hc⟩ := i.leads_name
  obtain ⟨rest, hrest⟩ := h
  rw [hname, List.cons_append] at hrest
  obtain ⟨normal, hnormal⟩ := hleads.normalize_cons hrest.symm
  exact Exposition.apart_of_cons hnormal hleads.letter hc

/-- A default name starts as its integration does, so it is none of the bridge's own. -/
theorem apart_defaultName {i : Integration} {m : Metric} (h : m.namePrefix = i.name) :
    Apart m.defaultName := by
  apply apart_normalize i
  simp only [h, String.toList_append, List.append_assoc]
  exact List.prefix_append _ _

theorem apart_lookup {rules : List AllowRule} (h : ∀ r ∈ rules, Apart r.name) {m : Metric}
    {named : String × MetricKind}
    (hnamed : ((AllowRule.lookup? rules m).map fun r => (r.name, r.kind)) = some named) :
    Apart named.1 := by
  obtain ⟨r, hr, rfl⟩ := Option.map_eq_some_iff.1 hnamed
  exact h r (List.mem_of_find?_eq_some hr)

/-- Only a filter gives a name that starts like a reserved one. -/
theorem apart_naming {i : Integration} {m : Metric} {named : String × MetricKind}
    (hstart : m.namePrefix = i.name) (h : i.naming m = some named) :
    Apart named.1 ∨ i.Renames named.1 := by
  cases i with
  | activemq =>
    have hrules : ∀ r ∈ AllowRule.activemq, Apart r.name := List.all_eq_true.1 (by decide +kernel)
    exact .inl (apart_lookup hrules h)
  | cassandra =>
    have hdotted : "cassandra.".toList = Integration.cassandra.name.toList ++ ['.'] := by decide
    rw [naming] at h
    rw [← Option.some.inj h]
    refine .inl (apart_normalize .cassandra ?_)
    simp only [String.toList_append, hdotted, List.append_assoc]
    exact List.prefix_append _ _
  | jmx filters =>
    rw [naming] at h
    obtain ⟨a, ha, rfl⟩ := Option.map_eq_some_iff.1 h
    obtain ⟨f, hf, hget⟩ := List.exists_of_findSome?_eq_some ha
    cases hnew : a.newName with
    | none => exact .inl (apart_defaultName hstart)
    | some name => exact .inr ⟨filters, f, m.leaf, a, rfl, (List.mem_filter.1 hf).1, hget, hnew⟩
  | solr =>
    have hrules : ∀ r ∈ AllowRule.solr, Apart r.name := List.all_eq_true.1 (by decide +kernel)
    exact .inl (apart_lookup hrules h)
  | tomcat =>
    have hrules : ∀ r ∈ AllowRule.tomcat, Apart r.name := List.all_eq_true.1 (by decide)
    exact .inl (apart_lookup hrules h)

theorem namePrefix_prepared (i : Integration) (bean : String) (parsed : BeanName) (leaf : String)
    (value : Float) : (i.prepared bean parsed leaf value).namePrefix = i.name := by
  cases i <;> rfl

theorem apart_describe (i : Integration) (bean : String) (parsed : BeanName) (leaf : String)
    (value : Float) :
    Apart (i.describe bean parsed leaf value).name ∨
      i.Renames (i.describe bean parsed leaf value).name := by
  have hstart := i.namePrefix_prepared bean parsed leaf value
  rw [describe_eq]
  cases hnaming : i.naming (i.prepared bean parsed leaf value) with
  | none => exact .inl (apart_defaultName hstart)
  | some named => exact apart_naming hstart hnaming

end Integration

end BeanGauge
