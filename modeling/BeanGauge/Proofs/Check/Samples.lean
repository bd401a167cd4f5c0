import BeanGauge.Proofs.Check.Cycle
import BeanGauge.Proofs.Exposition.Labels
/-!
# The instance of a sample

Every sample of a cycle has the tag of its instance, then the configured tags, then those of its
bean. Its line has one label for the instance, which shows the last of these tags with that key.
-/

namespace BeanGauge

theorem Jvm.sampleFrom_spec {l : Jvm.Lookup} {c : Catalog} {tags : List String} {s : Sample}
    (h : l.sampleFrom c tags = .ok s) : ∃ m ∈ c.metrics, s.tags = tags ++ m.tagList := by
  unfold Jvm.Lookup.sampleFrom at h
  split at h
  · rename_i m hfound
    cases h
    have hm : m ∈ c.find { leaf := some l.leaf, tags := l.tags } := by simp [hfound]
    exact ⟨m, (List.mem_filter.1 hm).1, rfl⟩
  · cases h
  · cases h

theorem Jvm.extract_tags {d : Dump} {tags : List String} {collectors : List Jvm.Collector}
    {samples : List Sample} {rejected : List BeanName.Malformed}
    (h : Jvm.extract d tags collectors = .ok (samples, rejected)) :
    ∀ s ∈ samples, ∃ m ∈ (Jvm.catalog d).metrics, s.tags = tags ++ m.tagList := by
  obtain ⟨made, hmade, h⟩ := bind_eq_ok_iff.1 h
  cases h
  intro s hs
  obtain ⟨l, -, hl⟩ := exists_of_mem_mapM hmade s hs
  exact Jvm.sampleFrom_spec hl

namespace CheckInstance

/-- The beans whose metrics an instance makes samples of: the standard ones, and its own. -/
def Reports (i : CheckInstance) (d : Dump) (m : Metric) : Prop :=
  m ∈ (Jvm.catalog d).metrics ∨ m ∈ (i.catalog d).metrics

/-- A sample has the tags of its instance before those of its bean. -/
theorem samples_tags {i : CheckInstance} {d : Dump} {emitted : List Sample}
    (h : i.samples d = .ok emitted) :
    ∀ s ∈ emitted, ∃ m, i.Reports d m ∧ s.tags = i.tags ++ m.tagList := by
  obtain ⟨standard, hstandard, h⟩ := bind_eq_ok_iff.1 h
  cases h
  intro s hs
  rcases List.mem_append.1 hs with hs | hs
  · obtain ⟨m, hm, htags⟩ := Jvm.extract_tags hstandard s hs
    exact ⟨m, .inl hm, htags⟩
  · obtain ⟨m, hm, rfl⟩ := List.mem_map.1 hs
    exact ⟨m, .inr ((List.mem_filter.1 hm).1), rfl⟩

theorem splitTag_instance (name : String) :
    Exposition.splitTag ("instance:" ++ name) = ("instance", name) := by
  have hcut : "instance:" = "instance" ++ ":" := by decide
  rw [hcut]
  exact Exposition.splitTag_colon (by decide) name

/-- What the label of the instance shows: the last configured or bean tag with its key, else the
name. -/
def shownName (i : CheckInstance) (beanTags : List String) : String :=
  (Exposition.lastValue? "instance" (i.config.tags ++ beanTags)).getD i.name

/-- The last `instance` tag of a sample is the one that is shown. -/
theorem lastValue?_tags (i : CheckInstance) (beanTags : List String) :
    Exposition.lastValue? "instance" (i.tags ++ beanTags) = some (i.shownName beanTags) := by
  rw [tags, List.cons_append, Exposition.lastValue?_cons, splitTag_instance, if_pos rfl, shownName]
  cases Exposition.lastValue? "instance" (i.config.tags ++ beanTags) <;> rfl

/-- The label `instance` has the value that is shown. -/
theorem get?_ofSample (i : CheckInstance) {s : Sample} {beanTags : List String}
    (h : s.tags = i.tags ++ beanTags) :
    (Exposition.ofSample s).labels.get? "instance" = some (i.shownName beanTags) := by
  have hletters : ∀ c ∈ "instance".toList, Metric.isLetter c :=
    List.all_eq_true.1 (by decide)
  have hne : "instance".toList ≠ [] := by decide
  have htags : ∀ e : Exposition, (e.withTags s.tags).labels.get? "instance" =
      some (i.shownName beanTags) := by
    intro e
    rw [Exposition.get?_withTags hne hletters, h, lastValue?_tags, Option.some_or]
  have hdevice : "instance" ≠ Exposition.sanitizeLabel "device" := by decide
  unfold Exposition.ofSample
  dsimp only
  split
  · rw [Exposition.withLabel, Dict.get?_insert_ne _ _ hdevice, htags]
  · exact htags _

theorem readSamples_ok {π : Type} {b : Behaviour π} {l : LauncherConfig} {i : CheckInstance}
    {w w' : Bridge π} {emitted : List Sample} (h : w.readSamples b l i = (.ok emitted, w')) :
    ∃ d, (w.readDump b l i.config).1 = .ok d ∧ i.samples d = .ok emitted := by
  unfold Bridge.readSamples at h
  split at h
  · cases h
  · rename_i d w₂ hdump
    rw [Prod.mk.injEq] at h
    exact ⟨d, by rw [hdump], mapError_eq_ok_iff.1 h.1⟩

/-- How a sample stands in a text: on a line of its own, which has exactly one label `instance`. -/
def PrintsInstance (i : CheckInstance) (d : Dump) (text : String) (s : Sample) : Prop :=
  ∃ m, i.Reports d m ∧ s.tags = i.tags ++ m.tagList ∧
    (Exposition.ofSample s).Shows "instance" (i.shownName m.tagList) ∧
    ∃ before after, text = before ++ (Exposition.lineText (Exposition.ofSample s) ++ "\n") ++ after

/-- Every sample of a successful cycle is printed on a line with exactly one label `instance`. It
shows the name of the instance, unless a configured tag or one of the bean has that key: then the
last of these. -/
theorem rendered_instance {π : Type} {b : Behaviour π} {l : LauncherConfig} {i : CheckInstance}
    {sink : Sink} {w : Bridge π} (h : (w.check b l i sink).1 = .ok ()) :
    ∃ d emitted, (w.readDump b l i.config).1 = .ok d ∧ i.samples d = .ok emitted ∧
      (w.check b l i sink).2.1.samples = sink.samples ++ emitted ∧
      ∀ s ∈ emitted, i.PrintsInstance d (Exposition.render (w.check b l i sink).2.1) s := by
  cases hread : w.readSamples b l i with
  | mk result w' =>
    cases result with
    | error e =>
      rw [Bridge.check_of_error hread] at h
      cases h
    | ok emitted =>
      obtain ⟨d, hdump, hsamples⟩ := readSamples_ok hread
      rw [Bridge.check_of_ok hread]
      refine ⟨d, emitted, hdump, hsamples, rfl, ?_⟩
      intro s hs
      obtain ⟨m, hm, htags⟩ := samples_tags hsamples s hs
      refine ⟨m, hm, htags, Exposition.shows_of_get? (get?_ofSample i htags), ?_⟩
      refine Exposition.line_in_format (List.mem_append_left _ (List.mem_map_of_mem ?_))
      exact List.mem_append_right _ hs

/-- The labels of the tagged samples: the tag of the bean hides the name of the instance. -/
theorem taggedSamples_labels :
    taggedSamples.map (fun s => (Exposition.ofSample s).labels.get? "instance") =
      [some "7", some "tomcat-db-7199", some "tomcat-db-7199"] := by
  decide

/-- The lines of that bridge. -/
theorem tagged_prints_instance :
    ∃ d emitted, (taggedBridge.readDump Connector.Tape.console .default plain.config).1 = .ok d ∧
      plain.samples d = .ok emitted ∧
      (taggedBridge.check Connector.Tape.console .default plain ∅).2.1.samples = [] ++ emitted ∧
      ∀ s ∈ emitted, plain.PrintsInstance d (Exposition.render
        (taggedBridge.check Connector.Tape.console .default plain ∅).2.1) s :=
  rendered_instance (check_tagged replying_taggedBridge).1

/-- The tag of the bean hides the name of the instance. -/
theorem tagged_hides_instance :
    (taggedBridge.check Connector.Tape.console .default plain ∅).1 = .ok () ∧
      ∃ s ∈ (taggedBridge.check Connector.Tape.console .default plain ∅).2.1.samples,
        (Exposition.ofSample s).labels.get? "instance" ≠ some plain.name := by
  obtain ⟨hsucceeds, hemitted⟩ := check_tagged replying_taggedBridge
  refine ⟨hsucceeds, ?_⟩
  have hshown : some "7" ∈ taggedSamples.map fun s =>
      (Exposition.ofSample s).labels.get? "instance" := by
    rw [taggedSamples_labels]
    exact List.mem_cons_self
  obtain ⟨s, hs, hlabel⟩ := List.mem_map.1 hshown
  rw [hemitted]
  refine ⟨s, hs, ?_⟩
  rw [hlabel]
  decide

end CheckInstance

end BeanGauge
