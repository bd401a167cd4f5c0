import BeanGauge.Proofs.Check.Naming
import BeanGauge.Proofs.Exposition.Families
import BeanGauge.Web
/-!
# The answer to a scrape

The body is what all checks emitted, the counts of the bridge and a trailer, each made on its own.
Their names differ, so in the whole body each name has one block.
-/

namespace BeanGauge

open Exposition (Built Block Line Reserved Reads Grouped)

namespace Exposition

theorem built_ofSample (s : Sample) : Built (ofSample s) := by
  have htags : Built ({ ofValue s.name s.value with kind := s.kind }.withTags s.tags) :=
    .withTags (.withKind (.ofValue s.name s.value) s.kind) s.tags
  unfold ofSample
  dsimp only
  cases s.device with
  | none => exact htags
  | some device => exact htags.withLabel "device" device

theorem built_ofServiceCheck (c : ServiceCheck) : Built (ofServiceCheck c) :=
  .withLabel (.withTags (.withHelp (.ofValue c.name _) _) c.tags) "status" c.status.text

theorem name_withTags (tags : List String) (e : Exposition) : (e.withTags tags).name = e.name := by
  induction tags generalizing e with
  | nil => rfl
  | cons tag tags ih => exact ih _

theorem name_ofSample (s : Sample) : (ofSample s).name = sanitizeName s.name := by
  unfold ofSample
  dsimp only
  cases s.device with
  | none => exact name_withTags s.tags _
  | some device => exact name_withTags s.tags _

theorem name_ofServiceCheck (c : ServiceCheck) :
    (ofServiceCheck c).name = sanitizeName c.name := name_withTags c.tags _

end Exposition

namespace Registry

/-- The names of the counts of the bridge. -/
def names : List String :=
  ["rjmx_bridge_check_success_total", "rjmx_bridge_check_failure_total",
    "rjmx_bridge_reconnect_total", "rjmx_bridge_dump_duration_seconds_bucket",
    "rjmx_bridge_dump_duration_seconds_sum", "rjmx_bridge_dump_duration_seconds_count",
    "rjmx_bridge_samples", "rjmx_bridge_connectors", "rjmx_bridge_start_timestamp"]

theorem sanitizeName_of_mem_names : ∀ name ∈ names, Exposition.sanitizeName name = name := by
  decide

/-- A line under one of these names keeps it. -/
theorem line_spec {name : String} (h : name ∈ names) (endpoint : String) (kind : MetricKind)
    (help : String) (value : Float) :
    Built (line endpoint kind name help value) ∧
      (line endpoint kind name help value).name ∈ names := by
  constructor
  · exact .withLabel (.withHelp (.withKind (.ofValue name value) kind) help) "endpoint" endpoint
  · show Exposition.sanitizeName name ∈ names
    rw [sanitizeName_of_mem_names name h]
    exact h

theorem endpointLines_spec (entry : String × EndpointStats) :
    ∀ e ∈ endpointLines entry, Built e ∧ e.name ∈ names := by
  intro e he
  simp only [endpointLines, List.mem_append, List.mem_cons, List.not_mem_nil, or_false] at he
  rcases he with ((rfl | rfl | rfl) | he) | (rfl | rfl | rfl)
  · exact line_spec (by decide) _ _ _ _
  · exact line_spec (by decide) _ _ _ _
  · exact line_spec (by decide) _ _ _ _
  · obtain ⟨bucket, -, rfl⟩ := List.mem_map.1 he
    have hname : "rjmx_bridge_dump_duration_seconds_bucket" ∈ names := by decide
    obtain ⟨hbuilt, hmem⟩ := line_spec hname entry.1 .gauge "Histogram of dump durations"
      (Number.nearest bucket.2 1)
    exact ⟨hbuilt.withLabel "le" (boundText bucket.1), hmem⟩
  · exact line_spec (by decide) _ _ _ _
  · exact line_spec (by decide) _ _ _ _
  · exact line_spec (by decide) _ _ _ _

theorem lines_spec (r : Registry) : ∀ e ∈ r.lines, Built e ∧ e.name ∈ names := by
  intro e he
  simp only [lines, List.mem_append, List.mem_cons, List.not_mem_nil, or_false] at he
  rcases he with he | rfl | rfl
  · obtain ⟨entry, -, he⟩ := List.mem_flatMap.1 he
    exact endpointLines_spec entry e he
  · refine ⟨.withHelp (.ofValue _ _) _, ?_⟩
    show Exposition.sanitizeName "rjmx_bridge_connectors" ∈ names
    decide
  · refine ⟨.withHelp (.ofValue _ _) _, ?_⟩
    show Exposition.sanitizeName "rjmx_bridge_start_timestamp" ∈ names
    decide

end Registry

namespace Web

def trailerBlocks (seconds : Float) (failed : Nat) : List Block :=
  [{ name := "rjmx_bridge_info", help := some "rJMX-Bridge information", kind := .gauge
     samples := [(Dict.ofList [("version", version)], "1")] },
    { name := "rjmx_bridge_scrape_duration_seconds", help := some "Time spent running all checks"
      kind := .gauge, samples := [(∅, Number.plainStyle.write seconds)] },
    { name := "rjmx_bridge_scrape_failures"
      help := some "Number of instances that failed this scrape"
      kind := .gauge, samples := [(∅, toString failed)] }]

/-- The text of a gauge without labels. -/
theorem textOf_gauge {name help lead : String} (value : String)
    (h : (Line.help name help).text ++ "\n" ++ (Line.typed name .gauge).text ++ "\n" ++ name ++
      " " = lead) :
    Exposition.textOf (Block.lines ⟨name, some help, .gauge, [(∅, value)]⟩) =
      lead ++ value ++ "\n" := by
  have hlabels : Exposition.labelsText ∅ = "" := rfl
  rw [← h]
  simp only [Block.lines, Option.map_some, Option.toList_some, List.singleton_append,
    List.map_cons, List.map_nil, Exposition.textOf_cons, Exposition.textOf_nil, Line.text, hlabels,
    String.append_assoc, String.append_empty]

theorem trailer_eq (seconds : Float) (failed : Nat) :
    trailer seconds failed =
      Exposition.textOf ((trailerBlocks seconds failed).flatMap Block.lines) := by
  have hinfo : Exposition.textOf (Block.lines ⟨"rjmx_bridge_info",
      some "rJMX-Bridge information", .gauge, [(Dict.ofList [("version", version)], "1")]⟩) =
      "# HELP rjmx_bridge_info rJMX-Bridge information\n# TYPE rjmx_bridge_info gauge\n" ++
        "rjmx_bridge_info\x7bversion=\"" ++ version ++ "\"\x7d 1\n" := by
    decide
  have hduration : Exposition.textOf (Block.lines ⟨"rjmx_bridge_scrape_duration_seconds",
      some "Time spent running all checks", .gauge,
      [(∅, Number.plainStyle.write seconds)]⟩) =
      ("# HELP rjmx_bridge_scrape_duration_seconds Time spent running all checks\n" ++
        "# TYPE rjmx_bridge_scrape_duration_seconds gauge\n" ++
        "rjmx_bridge_scrape_duration_seconds ") ++ Number.plainStyle.write seconds ++ "\n" :=
    textOf_gauge _ (by decide)
  have hfailures : Exposition.textOf (Block.lines ⟨"rjmx_bridge_scrape_failures",
      some "Number of instances that failed this scrape", .gauge, [(∅, toString failed)]⟩) =
      ("# HELP rjmx_bridge_scrape_failures Number of instances that failed this scrape\n" ++
        "# TYPE rjmx_bridge_scrape_failures gauge\n" ++
        "rjmx_bridge_scrape_failures ") ++ toString failed ++ "\n" :=
    textOf_gauge _ (by decide)
  rw [trailerBlocks, List.flatMap_cons, List.flatMap_cons, List.flatMap_cons, List.flatMap_nil,
    List.append_nil, Exposition.textOf_append, Exposition.textOf_append, hinfo, hduration,
    hfailures]
  unfold trailer
  simp only [String.append_assoc]

def trailerNames : List String :=
  ["rjmx_bridge_info", "rjmx_bridge_scrape_duration_seconds", "rjmx_bridge_scrape_failures"]

theorem names_trailerBlocks (seconds : Float) (failed : Nat) :
    (trailerBlocks seconds failed).map (·.name) = trailerNames := rfl

theorem sound_trailerBlocks (seconds : Float) (failed : Nat) :
    ∀ x ∈ trailerBlocks seconds failed, ∀ l ∈ x.lines, l.Sound := by
  intro x hx
  have hname : Exposition.IsName true x.name.toList := by
    have hsame : ∀ n ∈ trailerNames, Exposition.sanitizeName n = n := by decide
    rw [← hsame x.name (List.mem_map_of_mem hx)]
    exact Exposition.isName_sanitizeName x.name
  refine Block.sound hname ?_
  intro s hs
  refine ⟨hname, s.1.sorted, ?_⟩
  have hnone : ∀ l ∈ (∅ : Dict String String).entries, Exposition.IsName false l.1.toList :=
    List.forall_mem_nil _
  simp only [trailerBlocks, List.mem_cons, List.not_mem_nil, or_false] at hx
  rcases hx with rfl | rfl | rfl
  · obtain rfl := List.mem_singleton.1 hs
    have hkey : Exposition.IsName false (Exposition.sanitizeLabel "version").toList :=
      Exposition.isName_sanitizeLabel "version"
    have hsame : Exposition.sanitizeLabel "version" = "version" := by decide
    rw [hsame] at hkey
    exact ⟨List.forall_mem_singleton.2 hkey, Number.isNumeral_of_all (by decide) (by decide)⟩
  · obtain rfl := List.mem_singleton.1 hs
    exact ⟨hnone, Number.sober_plainStyle.write seconds⟩
  · obtain rfl := List.mem_singleton.1 hs
    exact ⟨hnone, Number.isNumeral_natText failed⟩

/-! ## The body -/

variable {π : Type} {b : Behaviour π} {c : Config} {r : Runner} {w : Bridge π}

def bodyBlocks (b : Behaviour π) (r : Runner) (w : Bridge π) : List Block :=
  let run := r.runAll b ∅ w
  Exposition.blocks (run.2.1.samples.map Exposition.ofSample ++
      run.2.1.serviceChecks.map Exposition.ofServiceCheck) ++
    (Exposition.blocks run.2.2.registry.lines ++
      trailerBlocks (Number.nearest (run.2.2.host.clock - w.host.clock) 1000) run.1.failed)

theorem body_eq (b : Behaviour π) (c : Config) (r : Runner) (w : Bridge π) :
    (answer b c r w .metrics).1.body =
      Exposition.textOf ((bodyBlocks b r w).flatMap Block.lines) := by
  have hbody : (answer b c r w .metrics).1.body =
      Exposition.render (r.runAll b ∅ w).2.1 ++ (r.runAll b ∅ w).2.2.registry.format ++
        trailer (Number.nearest ((r.runAll b ∅ w).2.2.host.clock - w.host.clock) 1000)
          (r.runAll b ∅ w).1.failed := rfl
  rw [hbody, Exposition.render, Registry.format, Exposition.format_eq, Exposition.format_eq,
    trailer_eq, bodyBlocks, List.flatMap_append, List.flatMap_append, Exposition.textOf_append,
    Exposition.textOf_append, String.append_assoc]

theorem sound_bodyBlocks (b : Behaviour π) (r : Runner) (w : Bridge π) :
    ∀ l ∈ (bodyBlocks b r w).flatMap Block.lines, l.Sound := by
  intro l hl
  obtain ⟨x, hx, hl⟩ := List.mem_flatMap.1 hl
  rcases List.mem_append.1 hx with hx | hx
  · refine Exposition.sound_blocks ?_ x hx l hl
    intro e he
    rcases List.mem_append.1 he with he | he
    · obtain ⟨s, -, rfl⟩ := List.mem_map.1 he
      exact (Exposition.built_ofSample s).named
    · obtain ⟨s, -, rfl⟩ := List.mem_map.1 he
      exact (Exposition.built_ofServiceCheck s).named
  rcases List.mem_append.1 hx with hx | hx
  · exact Exposition.sound_blocks (fun e he => (Registry.lines_spec _ e he).1.named) x hx l hl
  · exact sound_trailerBlocks _ _ x hx l hl

/-- Whether no alias of a configuration leads to a reserved name. -/
def KeepsReserve (c : Config) : Prop :=
  ∀ name, c.Aliases name → ¬Reserved (Exposition.sanitizeName name)

theorem not_reserved_of_emitted [Regex.Builder] (hr : Runner.ofConfig c = .ok r)
    (hc : KeepsReserve c) {name : String} (hname : name ∈ Exposition.namesOf
      ((r.runAll b ∅ w).2.1.samples.map Exposition.ofSample ++
        (r.runAll b ∅ w).2.1.serviceChecks.map Exposition.ofServiceCheck)) : ¬Reserved name := by
  obtain ⟨hsamples, hchecks⟩ := Runner.runAll_apart b r w
  obtain ⟨e, he, rfl⟩ := Exposition.mem_namesOf_iff.1 hname
  rcases List.mem_append.1 he with he | he
  · obtain ⟨s, hs, rfl⟩ := List.mem_map.1 he
    rw [Exposition.name_ofSample]
    rcases hsamples s hs with hapart | ⟨i, hi, hrenames⟩
    · exact hapart.not_reserved
    · exact hc s.name (Runner.aliases_of_renames hr hi hrenames)
  · obtain ⟨s, hs, rfl⟩ := List.mem_map.1 he
    rw [Exposition.name_ofServiceCheck]
    exact (hchecks s hs).not_reserved

theorem nodup_names_bodyBlocks [Regex.Builder] (hr : Runner.ofConfig c = .ok r)
    (hc : KeepsReserve c) (b : Behaviour π) (w : Bridge π) :
    ((bodyBlocks b r w).map (·.name)).Nodup := by
  have hown : ∀ name ∈ Exposition.namesOf (r.runAll b ∅ w).2.2.registry.lines,
      name ∈ Registry.names := by
    intro name hname
    obtain ⟨e, he, rfl⟩ := Exposition.mem_namesOf_iff.1 hname
    exact (Registry.lines_spec _ e he).2
  have hreserved : ∀ name ∈ Registry.names ++ trailerNames, Reserved name := by
    have hall : ∀ name ∈ Registry.names ++ trailerNames,
        Exposition.reserve.toList.isPrefixOf name.toList = true := by
      decide
    intro name hname
    exact List.isPrefixOf_iff_prefix.1 (hall name hname)
  have hapart : ∀ name ∈ Registry.names, ∀ name' ∈ trailerNames, name ≠ name' := by
    decide
  rw [bodyBlocks, List.map_append, List.map_append, Exposition.names_blocks,
    Exposition.names_blocks, names_trailerBlocks, List.nodup_append, List.nodup_append]
  refine ⟨Exposition.nodup_namesOf _, ⟨Exposition.nodup_namesOf _, by decide, ?_⟩, ?_⟩
  · intro name hname name' hname'
    exact hapart name (hown name hname) name' hname'
  · rintro name hname name' hname' rfl
    have hmem : name ∈ Registry.names ++ trailerNames := by
      rcases List.mem_append.1 hname' with h | h
      · exact List.mem_append_left _ (hown name h)
      · exact List.mem_append_right _ h
    exact not_reserved_of_emitted hr hc hname (hreserved name hmem)

/-- The body reads as lines in one way only, and these are grouped. -/
theorem body_grouped [Regex.Builder] (hr : Runner.ofConfig c = .ok r) (hc : KeepsReserve c)
    (b : Behaviour π) (w : Bridge π) :
    ∃ ls, Reads (answer b c r w .metrics).1.body ls ∧
      (∀ ls', Reads (answer b c r w .metrics).1.body ls' → ls' = ls) ∧ Grouped ls := by
  have hreads := Exposition.reads_textOf (sound_bodyBlocks b r w)
  rw [← body_eq b c r w] at hreads
  refine ⟨_, hreads, fun ls' hls' => hls'.unique hreads, ?_⟩
  exact Exposition.grouped_of_nodup (nodup_names_bodyBlocks hr hc b w)

/-- A filter that renames a leaf. -/
def countFilter : FilterSpec :=
  let names : Dict String (Option Alias) := Dict.ofList [("Count", some ⟨some "app.count", none⟩)]
  ⟨Dict.ofList [("attribute", .aliased names)], ∅⟩

/-- An instance that uses it. -/
def countConfig : InstanceConfig :=
  { host := "db", port := 7199, collectors := some [], filters := [countFilter] }

/-- A configuration with an instance that nothing answers and that one. -/
def renamed : Config :=
  { Config.default with
    checks := [⟨"tomcat", [{ host := "away", port := 1 }]⟩, ⟨"jmx", [countConfig]⟩] }

theorem keepsReserve_renamed : KeepsReserve renamed := by
  rintro name ⟨check, hcheck, i, hi, spec, hspec, leaf, a, hget, hnew⟩
  have haliases : (Filter.aliasesOf countFilter).entries =
      [("Count", ⟨some "app.count", none⟩)] := by
    decide
  have hspecs : ∀ check ∈ renamed.checks, ∀ i ∈ check.instances, ∀ spec ∈ i.filters,
      spec = countFilter := by
    decide
  rw [hspecs check hcheck i hi spec hspec, Dict.get?_eq_some_iff, haliases,
    List.mem_singleton] at hget
  cases hget
  cases hnew
  exact (show Exposition.Apart "app.count" by decide).not_reserved

/-- The first instance of that configuration. -/
def away : CheckInstance := ⟨{ host := "away", port := 1 }, .tomcat⟩

/-- The second instance. -/
def count : CheckInstance :=
  letI := Regex.weighing
  ⟨countConfig, .jmx (Filter.compile countFilter).toOption.toList⟩

def renamedRunner : Runner := ⟨.default, [⟨"tomcat", [away]⟩, ⟨"jmx", [count]⟩]⟩

def countPayload : String :=
  "\x7b\"java.lang:type=Threading\":\x7b\"ThreadCount\":1\x7d," ++
    "\"java.lang:type=Memory\":\x7b\"HeapMemoryUsage.used\":1,\"NonHeapMemoryUsage.used\":1\x7d," ++
    "\"app:type=Queue\":\x7b\"Count\":5\x7d\x7d"

def countSamples : List Sample :=
  [⟨"jvm.thread_count", 1.0, ["instance:jmx-db-7199", "type:Threading"], none, .gauge⟩,
    ⟨"jvm.heap_memory", 1.0, ["instance:jmx-db-7199", "type:Memory"], none, .gauge⟩,
    ⟨"jvm.non_heap_memory", 1.0, ["instance:jmx-db-7199", "type:Memory"], none, .gauge⟩,
    ⟨"app.count", 5.0, ["instance:jmx-db-7199", "type:Queue"], none, .gauge⟩]

theorem samples_countPayload :
    ((Dump.parse Connector.Tape.console.noJson countPayload).toOption.bind fun d =>
      (count.samples d).toOption) = some countSamples := by
  have htext : countPayload.toList = _ :=
    Text.toList_append_congr (Text.toList_append_congr String.toList_ofList String.toList_ofList)
      String.toList_ofList
  rw [Dump.parse_of_toList htext]
  decide +kernel

theorem isSome_countPayload : (Json.parse countPayload).isSome := by
  obtain ⟨d, hd, -⟩ := Option.bind_eq_some_iff.1 samples_countPayload
  exact Dump.isSome_json_of_parse (toOption_eq_some_iff.1 hd)

def countBridge : Bridge Connector.Tape :=
  .replying countConfig.endpoint (Bridge.replyOf countPayload isSome_countPayload)

def awayCheck : ServiceCheck :=
  away.serviceCheck (some "Timed out after 20000ms waiting for away:1 to become ready")

theorem segment_count {w : Bridge Connector.Tape} (hw : w.Replying count.config.endpoint
    (Bridge.replyOf countPayload isSome_countPayload)) :
    w.segment Connector.Tape.console .default count =
      ⟨.ok (), ⟨countSamples, [count.serviceCheck none]⟩⟩ := by
  obtain ⟨d, hd, hsamples⟩ := Option.bind_eq_some_iff.1 samples_countPayload
  have hread := Bridge.readDump_of_replying hw (toOption_eq_some_iff.1 hd)
  exact Bridge.segment_of_dump hread (toOption_eq_some_iff.1 hsamples)

theorem segments_renamed :
    Runner.segments Connector.Tape.console renamedRunner.launcher renamedRunner.instances
        countBridge =
      [countBridge.segment Connector.Tape.console .default away,
        ⟨.ok (), ⟨countSamples, [count.serviceCheck none]⟩⟩] := by
  have hbridge : countBridge.Replying count.config.endpoint
      (Bridge.replyOf countPayload isSome_countPayload) := Bridge.replying_replies _ _
  have hseparate : countBridge.Separate := Bridge.separate_replying _ _
  obtain ⟨pauses, hsegments⟩ := Runner.segments_pair (b := Connector.Tape.console)
    (l := renamedRunner.launcher) (i := away) (j := count) hseparate (by decide)
  have hinstances : renamedRunner.instances = [away, count] := rfl
  have hcount : (countBridge.rest Connector.Tape.console pauses).segment Connector.Tape.console
      renamedRunner.launcher count = _ := segment_count (hbridge.rest pauses)
  rw [hinstances, hsegments, hcount]
  rfl

/-- A run emits the samples of the second instance, and counts one failure. -/
theorem runAll_renamed {summary : RunSummary} {sink : Sink} {w : Bridge Connector.Tape}
    (h : renamedRunner.runAll Connector.Tape.console ∅ countBridge = (summary, sink, w)) :
    sink = ⟨countSamples, [awayCheck, count.serviceCheck none]⟩ ∧ summary.failed = 1 := by
  have hadds := Runner.runAll_adds Connector.Tape.console renamedRunner ∅ countBridge
  have haway : (countBridge.segment Connector.Tape.console .default away).emitted =
      ⟨[], [awayCheck]⟩ := by
    decide
  have hfails : (countBridge.segment Connector.Tape.console .default away).succeeds = false := by
    decide
  rw [h, segments_renamed] at hadds
  generalize countBridge.segment Connector.Tape.console .default away = x at *
  have hsamples := hadds.samples
  have hchecks := hadds.serviceChecks
  have hfailed := hadds.failed
  rw [List.flatMap_cons, haway] at hsamples hchecks
  rw [List.countP_cons_of_pos (by rw [hfails]; rfl)] at hfailed
  obtain ⟨samples, checks⟩ := sink
  exact ⟨congrArg₂ Sink.mk hsamples hchecks, hfailed⟩

def shownLines : List String :=
  ["# TYPE app_count gauge", "app_count\x7binstance=\"jmx-db-7199\",type=\"Queue\"\x7d 5",
    "# TYPE rjmx_bridge_scrape_failures gauge", "rjmx_bridge_scrape_failures 1"]

theorem shown_renamed : ∀ text ∈ shownLines,
    ∃ l ∈ (bodyBlocks Connector.Tape.console renamedRunner countBridge).flatMap Block.lines,
      l.text = text := by
  have hemitted : ∀ text ∈ shownLines.take 2,
      ∃ l ∈ (Exposition.blocks (countSamples.map Exposition.ofSample ++
        [awayCheck, count.serviceCheck none].map Exposition.ofServiceCheck)).flatMap Block.lines,
        l.text = text := by
    decide +kernel
  have htrailer : ∀ seconds, ∀ text ∈ shownLines.drop 2,
      ∃ l ∈ (trailerBlocks seconds 1).flatMap Block.lines, l.text = text := by
    intro seconds text htext
    have hlines : (trailerBlocks seconds 1).flatMap Block.lines =
        ((trailerBlocks seconds 1).take 2).flatMap Block.lines ++
          [.help "rjmx_bridge_scrape_failures" "Number of instances that failed this scrape",
            .typed "rjmx_bridge_scrape_failures" .gauge,
            .sample "rjmx_bridge_scrape_failures" ∅ "1"] := rfl
    rw [hlines]
    obtain ⟨l, hl, heq⟩ : ∃ l ∈ [Line.typed "rjmx_bridge_scrape_failures" .gauge,
        .sample "rjmx_bridge_scrape_failures" ∅ "1"], l.text = text := by
      revert text
      decide
    exact ⟨l, List.mem_append_right _ (List.mem_cons_of_mem _ hl), heq⟩
  obtain ⟨⟨summary, sink, w⟩, hrun⟩ :
      ∃ run, renamedRunner.runAll Connector.Tape.console ∅ countBridge = run := ⟨_, rfl⟩
  obtain ⟨rfl, hfailed⟩ := runAll_renamed hrun
  intro text htext
  rw [← List.take_append_drop 2 shownLines] at htext
  unfold bodyBlocks
  rw [hrun]
  dsimp only
  rw [hfailed, List.flatMap_append, List.flatMap_append]
  rcases List.mem_append.1 htext with htext | htext
  · obtain ⟨l, hl, heq⟩ := hemitted text htext
    exact ⟨l, List.mem_append_left _ hl, heq⟩
  · obtain ⟨l, hl, heq⟩ := htrailer _ text htext
    exact ⟨l, List.mem_append_right _ (List.mem_append_right _ hl), heq⟩

/-- What that configuration answers: the lines of the renamed leaf, and the number of instances that
failed. -/
theorem renamed_body_grouped :
    letI := Regex.weighing
    Runner.ofConfig renamed = .ok renamedRunner ∧
    let answered := (answer Connector.Tape.console renamed renamedRunner countBridge .metrics).1
    ∃ ls, Reads answered.body ls ∧ (∀ ls', Reads answered.body ls' → ls' = ls) ∧ Grouped ls ∧
      ∀ text ∈ shownLines, ∃ l ∈ ls, l.text = text := by
  let _ := Regex.weighing
  have hr : Runner.ofConfig renamed = .ok renamedRunner := by decide
  obtain ⟨ls, hreads, hunique, hgrouped⟩ :=
    body_grouped hr keepsReserve_renamed Connector.Tape.console countBridge
  have hls : (bodyBlocks Connector.Tape.console renamedRunner countBridge).flatMap Block.lines =
      ls := by
    apply hunique
    rw [body_eq]
    exact Exposition.reads_textOf (sound_bodyBlocks _ _ _)
  refine ⟨hr, ls, hreads, hunique, hgrouped, ?_⟩
  rw [← hls]
  exact shown_renamed

end Web

end BeanGauge
