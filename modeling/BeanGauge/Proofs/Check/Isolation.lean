import BeanGauge.Proofs.Check.Locality
import BeanGauge.Proofs.Check.Processes
import BeanGauge.Proofs.Check.Samples
import Mathlib.Data.List.Nodup
/-!
# Runs of all checks

A run of all checks visits the instances in order and lets each of them add a segment of its own:
what came of its cycle, its service check, and all of its samples or none. Where the instances have
endpoints of their own, each cycle finds its slot as it was before the run, with a process that was
left to itself since, and adds the segment that the instance adds when it is checked alone.
-/

namespace BeanGauge

variable {π : Type} {b : Behaviour π} {l : LauncherConfig} {w w' : Bridge π}

/-- What one instance adds to a run: what came of its cycle, and what that emitted. -/
structure Segment where
  result : Except CheckError Unit
  emitted : Sink

/-- The error of a cycle that failed. -/
def Segment.failure? (x : Segment) : Option String :=
  match x.result with
  | .ok _ => none
  | .error e => some e.message

/-- Whether a cycle came to an end without an error. -/
def Segment.succeeds (x : Segment) : Bool := x.failure?.isNone

/-- How a segment must look: a service check with the error, if any, and no sample beside one. -/
structure Segment.Of (i : CheckInstance) (x : Segment) : Prop where
  report : x.emitted.serviceChecks = [i.serviceCheck x.failure?]
  silent : x.succeeds = false → x.emitted.samples = []

/-- The segment of an instance that is checked on a bridge. -/
def Bridge.segment (b : Behaviour π) (l : LauncherConfig) (i : CheckInstance) (w : Bridge π) :
    Segment := ⟨(w.check b l i ∅).1, (w.check b l i ∅).2.1⟩

namespace Bridge

/-- A cycle adds its segment to whatever was emitted before. -/
theorem check_eq_segment (i : CheckInstance) (sink : Sink) (w : Bridge π) :
    w.check b l i sink =
      ((w.segment b l i).result, sink ++ (w.segment b l i).emitted, (w.check b l i ∅).2.2) := by
  rw [segment]
  cases hread : w.readSamples b l i with
  | mk result w' =>
    cases result with
    | error e =>
      have hreport : sink.report (i.serviceCheck (some e.message)) =
          sink ++ (∅ : Sink).report (i.serviceCheck (some e.message)) := by
        show Sink.mk _ _ = Sink.mk (sink.samples ++ []) _
        rw [List.append_nil]
        rfl
      rw [check_of_error hread, check_of_error hread, hreport]
    | ok samples =>
      rw [check_of_ok hread, check_of_ok hread]
      rfl

/-- Every segment looks as it must. -/
theorem segment_of (i : CheckInstance) (w : Bridge π) : Segment.Of i (w.segment b l i) := by
  rw [segment]
  cases hread : w.readSamples b l i with
  | mk result w' =>
    cases result with
    | error e =>
      rw [check_of_error hread]
      exact ⟨rfl, fun _ => rfl⟩
    | ok samples =>
      rw [check_of_ok hread]
      exact ⟨rfl, Bool.noConfusion⟩

/-- The samples of a segment are those of a dump. -/
theorem segment_samples {i : CheckInstance} {s : Sample}
    (hs : s ∈ (w.segment b l i).emitted.samples) :
    ∃ d emitted, i.samples d = .ok emitted ∧ s ∈ emitted := by
  rw [segment] at hs
  cases hread : w.readSamples b l i with
  | mk result w' =>
    cases result with
    | error e =>
      rw [check_of_error hread] at hs
      cases hs
    | ok samples =>
      rw [check_of_ok hread] at hs
      obtain ⟨d, -, hsamples⟩ := CheckInstance.readSamples_ok hread
      exact ⟨d, samples, hsamples, hs⟩

/-- A segment depends on what its cycle finds. -/
theorem segment_congr {i : CheckInstance}
    (hfound : w.found i.config.endpoint = w'.found i.config.endpoint) :
    w.segment b l i = w'.segment b l i := by
  have hreads := readSamples_congr (b := b) (l := l) hfound
  rw [segment, segment]
  cases hread : w.readSamples b l i with
  | mk result w₁ =>
    cases hread' : w'.readSamples b l i with
    | mk result' w₁' =>
      rw [hread, hread'] at hreads
      obtain rfl : result = result' := hreads
      cases result with
      | error e => rw [check_of_error hread, check_of_error hread']
      | ok samples => rw [check_of_ok hread, check_of_ok hread']

/-- The segment of a cycle that has a dump and all samples of it. -/
theorem segment_of_dump {i : CheckInstance} {d : Dump} {samples : List Sample}
    (hdump : (w.readDump b l i.config).1 = .ok d) (hsamples : i.samples d = .ok samples) :
    w.segment b l i = ⟨.ok (), ⟨samples, [i.serviceCheck none]⟩⟩ := by
  have hread := readSamples_of_dump hdump
  rw [hsamples] at hread
  rw [segment, check_of_ok hread]
  rfl

theorem separate_replying (e : Endpoint) (reply : Bytes) : (replying e reply).Separate := by
  have hsession : ∀ e' x, (replying e reply).pool.session? e' = some x → e' = e ∧ x = ⟨0, e⟩ := by
    intro e' x hx
    by_cases he : e' = e
    · subst he
      rw [Pool.session?, (replying_replies e' reply).slot] at hx
      cases hx
      exact ⟨rfl, rfl⟩
    · have hnone : (replying e reply).pool.get? e' = none :=
        Pool.get?_set_ne he { Connector.Tape.connector with session := some ⟨0, e⟩ }
      rw [Pool.session?, hnone] at hx
      cases hx
  constructor
  · intro e' x hx
    obtain ⟨-, rfl⟩ := hsession e' x hx
    exact Nat.zero_lt_one
  · intro e' e'' x x' hx hx' _
    rw [(hsession e' x hx).1, (hsession e'' x' hx').1]

/-- A console on a tape waits for its reader. -/
theorem Replying.rest {e : Endpoint} {reply : Bytes} {w : Bridge Connector.Tape}
    (hw : w.Replying e reply) (pauses : List Nat) :
    (w.rest Connector.Tape.console pauses).Replying e reply := by
  have hwaits : ∀ s, Connector.Tape.console.rest s pauses = s := by
    intro s
    induction pauses with
    | nil => rfl
    | cons millis pauses ih => exact ih
  refine ⟨hw.slot, ?_⟩
  show (w.host.rest Connector.Tape.console pauses).find? 0 = _
  rw [Host.find?_rest, hw.process, Option.map_some, hwaits]

end Bridge

theorem CheckInstance.segment_tagged {w : Bridge Connector.Tape} (hw : w.Replying
    plain.config.endpoint (Bridge.replyOf taggedPayload isSome_taggedPayload)) :
    w.segment Connector.Tape.console .default plain =
      ⟨.ok (), ⟨taggedSamples, [plain.serviceCheck none]⟩⟩ := by
  obtain ⟨d, hd, hsamples⟩ := Option.bind_eq_some_iff.1 samples_taggedPayload
  have hread := Bridge.readDump_of_replying hw (toOption_eq_some_iff.1 hd)
  exact Bridge.segment_of_dump hread (toOption_eq_some_iff.1 hsamples)

namespace Runner

/-- What the cycles of some instances leave of a bridge. -/
def left (b : Behaviour π) (l : LauncherConfig) (is : List CheckInstance) (w : Bridge π) :
    Bridge π := is.foldl (fun w i => (w.check b l i ∅).2.2) w

/-- The segments of some instances, each on the bridge that those before it leave, whatever came of
them. -/
def segments (b : Behaviour π) (l : LauncherConfig) : List CheckInstance → Bridge π → List Segment
  | [], _ => []
  | i :: is, w => w.segment b l i :: segments b l is (w.check b l i ∅).2.2

theorem getElem?_segments (is : List CheckInstance) (k : Nat) (w : Bridge π) :
    (segments b l is w)[k]? = is[k]?.map fun i => (left b l (is.take k) w).segment b l i := by
  induction is generalizing k w with
  | nil => rfl
  | cons i is ih =>
    cases k with
    | zero => rfl
    | succ k => exact ih k _

theorem segments_of (is : List CheckInstance) (w : Bridge π) :
    List.Forall₂ Segment.Of is (segments b l is w) := by
  induction is generalizing w with
  | nil => exact .nil
  | cons i is ih => exact .cons (w.segment_of i) (ih _)

/-- What a run adds to a summary and to a sink, segment by segment. -/
structure Adds (xs : List Segment) (first last : RunSummary × Sink) : Prop where
  serviceChecks : last.2.serviceChecks =
    first.2.serviceChecks ++ xs.flatMap (·.emitted.serviceChecks)
  samples : last.2.samples = first.2.samples ++ xs.flatMap (·.emitted.samples)
  succeeded : last.1.succeeded = first.1.succeeded + xs.countP (·.succeeds)
  failed : last.1.failed = first.1.failed + xs.countP (!·.succeeds)

theorem Adds.nil (first : RunSummary × Sink) : Adds [] first first where
  serviceChecks := (List.append_nil _).symm
  samples := (List.append_nil _).symm
  succeeded := rfl
  failed := rfl

theorem count_eq (summary : RunSummary) (x : Segment) :
    summary.count x.result = ⟨summary.succeeded + if x.succeeds then 1 else 0,
      summary.failed + if (!x.succeeds) then 1 else 0⟩ := by
  cases hresult : x.result with
  | ok u =>
    have hx : x.succeeds = true := by rw [Segment.succeeds, Segment.failure?, hresult]; rfl
    rw [hx]
    rfl
  | error e =>
    have hx : x.succeeds = false := by rw [Segment.succeeds, Segment.failure?, hresult]; rfl
    rw [hx]
    rfl

theorem Adds.cons {x : Segment} {xs : List Segment} {summary : RunSummary} {sink : Sink}
    {last : RunSummary × Sink} (h : Adds xs (summary.count x.result, sink ++ x.emitted) last) :
    Adds (x :: xs) (summary, sink) last := by
  have hchecks : (sink ++ x.emitted).serviceChecks =
      sink.serviceChecks ++ x.emitted.serviceChecks := rfl
  have hsamples : (sink ++ x.emitted).samples = sink.samples ++ x.emitted.samples := rfl
  constructor
  · rw [h.serviceChecks, hchecks, List.flatMap_cons, List.append_assoc]
  · rw [h.samples, hsamples, List.flatMap_cons, List.append_assoc]
  · rw [h.succeeded, count_eq, List.countP_cons]
    dsimp only
    omega
  · rw [h.failed, count_eq, List.countP_cons]
    dsimp only
    omega

theorem runInstances_adds (is : List CheckInstance) (summary : RunSummary) (sink : Sink)
    (w : Bridge π) :
    let run := runInstances b l is (summary, sink, w)
    Adds (segments b l is w) (summary, sink) (run.1, run.2.1) := by
  induction is generalizing summary sink w with
  | nil => exact .nil _
  | cons i is ih =>
    rw [runInstances, Bridge.check_eq_segment, segments]
    exact (ih _ _ _).cons

/-- A run of all checks adds the segments of its instances, in order. -/
theorem runAll_adds (b : Behaviour π) (r : Runner) (sink : Sink) (w : Bridge π) :
    Adds (segments b r.launcher r.instances w) (⟨0, 0⟩, sink)
      ((r.runAll b sink w).1, (r.runAll b sink w).2.1) := runInstances_adds _ _ _ _

/-- The cycles of other endpoints leave a slot as it is and its process to itself. -/
theorem rests_left (hw : w.Separate) {e : Endpoint} {is : List CheckInstance}
    (he : ∀ i ∈ is, e ≠ i.config.endpoint) :
    (left b l is w).pool.get? e = w.pool.get? e ∧
      w.host.Rests b (w.Holds e) (left b l is w).host := by
  induction is generalizing w with
  | nil => exact ⟨rfl, .refl b _ w.host⟩
  | cons i is ih =>
    have hi := he i List.mem_cons_self
    have hslot := Bridge.get?_check_ne b l i ∅ w hi
    have hheld : (w.check b l i ∅).2.2.Holds e = w.Holds e := by
      unfold Bridge.Holds Pool.session?
      rw [hslot]
    obtain ⟨hsame, hrests⟩ :=
      ih (hw.check b l i ∅) fun j hj => he j (List.mem_cons_of_mem i hj)
    rw [hheld] at hrests
    exact ⟨hsame.trans hslot, (Bridge.rests_check_ne hw hi ∅).trans hrests⟩

/-- The cycles of other endpoints let a cycle find its slot as it was, with its process left to
itself. -/
theorem found_left (hw : w.Separate) {e : Endpoint} {is : List CheckInstance}
    (he : ∀ i ∈ is, e ≠ i.config.endpoint) :
    ∃ pauses, (left b l is w).found e = (w.rest b pauses).found e := by
  obtain ⟨hslot, hrests⟩ := rests_left hw he
  exact Bridge.found_of_rests hslot hrests

theorem segments_pair (hw : w.Separate) {i j : CheckInstance}
    (hne : j.config.endpoint ≠ i.config.endpoint) : ∃ pauses, segments b l [i, j] w =
      [w.segment b l i, (w.rest b pauses).segment b l j] := by
  have hothers : ∀ i' ∈ [i], j.config.endpoint ≠ i'.config.endpoint :=
    List.forall_mem_singleton.2 hne
  obtain ⟨pauses, hfound⟩ := found_left (b := b) (l := l) hw hothers
  refine ⟨pauses, ?_⟩
  rw [← Bridge.segment_congr hfound]
  rfl

/-- A runner with a single instance. -/
def only (r : Runner) (i : CheckInstance) : Runner := ⟨r.launcher, [⟨i.integration.name, [i]⟩]⟩

/-- No process is held twice after any history. -/
theorem separate_after {r : Runner} (events : List (Event r π)) (start : Float) (sink : Sink) :
    (after events (sink, .idle start)).2.Separate := by
  have hs := holds_after events (s := (sink, Bridge.idle start)) .empty
  constructor
  · intro e x hx
    obtain ⟨hlt, -⟩ := List.getElem?_eq_some_iff.1 (hs.owned e x hx)
    rw [hs.counted, Host.length_ended] at hlt
    exact hlt
  · intro e e' x x' hx hx' hpid
    have howner := hs.owned e x hx
    rw [hpid, hs.owned e' x' hx'] at howner
    exact (Option.some.inj howner).symm

/-- What a run of all checks makes of its instances: the segments of all of them, one for each and
in order. -/
structure Visits (is : List CheckInstance) (xs : List Segment) (summary : RunSummary)
    (sink sink' : Sink) : Prop where
  each : List.Forall₂ Segment.Of is xs
  serviceChecks : sink'.serviceChecks =
    sink.serviceChecks ++ List.zipWith (fun i x => i.serviceCheck x.failure?) is xs
  samples : sink'.samples =
    sink.samples ++ (xs.filter (·.succeeds)).flatMap (·.emitted.samples)
  all : summary.succeeded + summary.failed = is.length
  failed : summary.failed =
    (List.zipWith (fun i x => i.serviceCheck x.failure?) is xs).countP (·.status ≠ .ok)

theorem reports_of_each {is : List CheckInstance} {xs : List Segment}
    (h : List.Forall₂ Segment.Of is xs) : xs.flatMap (·.emitted.serviceChecks) =
      List.zipWith (fun i x => i.serviceCheck x.failure?) is xs := by
  induction h with
  | nil => rfl
  | cons hx _ ih =>
    rw [List.flatMap_cons, hx.report, ih, List.zipWith_cons_cons, List.singleton_append]

theorem samples_of_each {is : List CheckInstance} {xs : List Segment}
    (h : List.Forall₂ Segment.Of is xs) : xs.flatMap (·.emitted.samples) =
      (xs.filter (·.succeeds)).flatMap (·.emitted.samples) := by
  induction h with
  | nil => rfl
  | cons hx _ ih =>
    rename_i x _ _ _
    rw [List.flatMap_cons, ih]
    cases hsucceeds : x.succeeds with
    | true => rw [List.filter_cons_of_pos hsucceeds, List.flatMap_cons]
    | false =>
      rw [List.filter_cons_of_neg (by simp [hsucceeds]), hx.silent hsucceeds, List.nil_append]

theorem failed_of_each {is : List CheckInstance} {xs : List Segment}
    (h : List.Forall₂ Segment.Of is xs) : xs.countP (!·.succeeds) =
      (List.zipWith (fun i x => i.serviceCheck x.failure?) is xs).countP (·.status ≠ .ok) := by
  induction h with
  | nil => rfl
  | cons hx _ ih =>
    rename_i x _ _ _
    rw [List.countP_cons, ih, List.zipWith_cons_cons, List.countP_cons]
    congr 1
    cases hfailure : x.failure? with
    | none => simp [Segment.succeeds, CheckInstance.serviceCheck, hfailure]
    | some text => simp [Segment.succeeds, CheckInstance.serviceCheck, hfailure]

/-- A run of all checks visits every instance once and in order. -/
theorem runAll_visits (b : Behaviour π) (r : Runner) (sink : Sink) (w : Bridge π) :
    Visits r.instances (segments b r.launcher r.instances w) (r.runAll b sink w).1 sink
      (r.runAll b sink w).2.1 := by
  have heach := segments_of (b := b) (l := r.launcher) r.instances w
  have hadds := runAll_adds b r sink w
  constructor
  · exact heach
  · rw [hadds.serviceChecks, reports_of_each heach]
  · rw [hadds.samples, samples_of_each heach]
  · have hsplit := List.length_eq_countP_add_countP (fun x : Segment => x.succeeds)
      (l := segments b r.launcher r.instances w)
    simp only [Bool.not_eq_true, Bool.decide_eq_false] at hsplit
    rw [hadds.succeeded, hadds.failed, heach.length_eq, hsplit, Nat.zero_add, Nat.zero_add]
  · rw [hadds.failed, failed_of_each heach]
    exact Nat.zero_add _

theorem ne_of_mem_take {is : List CheckInstance} (h : (is.map (·.config.endpoint)).Nodup)
    {k : Nat} {i j : CheckInstance} (hi : is[k]? = some i) (hj : j ∈ is.take k) :
    i.config.endpoint ≠ j.config.endpoint := by
  obtain ⟨n, hn⟩ := List.mem_iff_getElem?.1 hj
  have hnk : n < k := by
    have hlt := (List.getElem?_eq_some_iff.1 hn).1
    rw [List.length_take] at hlt
    omega
  rw [List.getElem?_take_of_lt hnk] at hn
  have hk : k < (is.map (·.config.endpoint)).length := by
    rw [List.length_map]
    exact (List.getElem?_eq_some_iff.1 hi).1
  have hne := List.nodup_iff_getElem?_ne_getElem?.1 h n k hnk hk
  rw [List.getElem?_map, List.getElem?_map, hn, hi] at hne
  intro he
  exact hne (congrArg some he.symm)

/-- A run of a single instance adds the segment of that instance. -/
theorem runAll_only (b : Behaviour π) (r : Runner) (i : CheckInstance) (w : Bridge π) :
    ((r.only i).runAll b ∅ w).1 = (⟨0, 0⟩ : RunSummary).count (w.segment b r.launcher i).result ∧
      ((r.only i).runAll b ∅ w).2.1 = (w.segment b r.launcher i).emitted := ⟨rfl, rfl⟩

/-- A run of all checks visits each instance once, in order, whatever came of those before. If the
instances have endpoints of their own, each finds its slot as it was before the run, with a process
that was left to itself meanwhile, and adds what it adds alone where it finds the same. After any
history no process is held twice, as that asks. -/
theorem runAll_isolates (b : Behaviour π) (r : Runner) (sink : Sink) (w : Bridge π) :
    let xs := segments b r.launcher r.instances w
    Visits r.instances xs (r.runAll b sink w).1 sink (r.runAll b sink w).2.1 ∧
    (∀ k, xs[k]? = r.instances[k]?.map
      fun i => (left b r.launcher (r.instances.take k) w).segment b r.launcher i) ∧
    (w.Separate → (r.instances.map (·.config.endpoint)).Nodup →
      ∀ (k : Nat) (i : CheckInstance), r.instances[k]? = some i →
      let found := (left b r.launcher (r.instances.take k) w).found i.config.endpoint
      (∃ pauses, found = (w.rest b pauses).found i.config.endpoint) ∧
      ∀ w' : Bridge π, w'.found i.config.endpoint = found →
        ∃ x : Segment, xs[k]? = some x ∧ (w'.check b r.launcher i ∅).1 = x.result ∧
          ((r.only i).runAll b ∅ w').1 = (⟨0, 0⟩ : RunSummary).count x.result ∧
          ((r.only i).runAll b ∅ w').2.1 = x.emitted) ∧
    ∀ (r' : Runner) (start : Float) (events : List (Event r' π)),
      (after events (sink, .idle start)).2.Separate := by
  intro xs
  have hlater : ∀ (r' : Runner) (start : Float) (events : List (Event r' π)),
      (after events (sink, .idle start)).2.Separate :=
    fun r' start events => separate_after events start sink
  refine ⟨runAll_visits b r sink w, fun k => getElem?_segments _ k w, ?_, hlater⟩
  intro hw hnodup k i hi found
  have hbefore : ∀ j ∈ r.instances.take k, i.config.endpoint ≠ j.config.endpoint :=
    fun j hj => ne_of_mem_take hnodup hi hj
  refine ⟨found_left hw hbefore, ?_⟩
  intro w' hfound
  obtain ⟨hsummary, hemitted⟩ := runAll_only b r i w'
  refine ⟨w'.segment b r.launcher i, ?_, rfl, hsummary, hemitted⟩
  rw [getElem?_segments, hi, Option.map_some, Bridge.segment_congr hfound.symm]

def deaf : CheckInstance := { CheckInstance.plain with config := { host := "away", port := 1 } }

def halfDeaf : Runner := ⟨.default, [⟨"tomcat", [deaf]⟩, ⟨"tomcat", [CheckInstance.plain]⟩]⟩

/-- The first fails and emits nothing, and the second adds the three standard samples, as it does
alone, also with other counts. -/
theorem halfDeaf_isolates :
    let w := CheckInstance.taggedBridge
    let xs := segments Connector.Tape.console .default halfDeaf.instances w
    xs.map (fun x => (x.failure?, x.emitted.samples)) =
      [(some "Timed out after 20000ms waiting for away:1 to become ready", []),
        (none, CheckInstance.taggedSamples)] ∧
    ∃ pauses, (left Connector.Tape.console .default [deaf] w).found ⟨"db", 7199⟩ =
      (w.rest Connector.Tape.console pauses).found ⟨"db", 7199⟩ ∧
    let w' := { w.rest Connector.Tape.console pauses with registry := .ofStart 1.0 }
    ∃ x : Segment, xs[1]? = some x ∧
      (w'.check Connector.Tape.console .default CheckInstance.plain ∅).1 = x.result ∧
      ((halfDeaf.only CheckInstance.plain).runAll Connector.Tape.console ∅ w').1 =
        (⟨0, 0⟩ : RunSummary).count x.result ∧
      ((halfDeaf.only CheckInstance.plain).runAll Connector.Tape.console ∅ w').2.1 = x.emitted := by
  intro w xs
  have hw : w.Separate := Bridge.separate_replying _ _
  obtain ⟨⟨pauses, hfound⟩, halone⟩ :=
    (runAll_isolates Connector.Tape.console halfDeaf ∅ w).2.2.1 hw (by decide) 1
      CheckInstance.plain rfl
  refine ⟨?_, pauses, hfound, halone _ hfound.symm⟩
  obtain ⟨pauses', hxs⟩ := segments_pair (b := Connector.Tape.console) (l := .default) (i := deaf)
    (j := CheckInstance.plain) hw (by decide)
  have hxs : xs = _ := hxs
  have hplain := CheckInstance.segment_tagged (CheckInstance.replying_taggedBridge.rest pauses')
  rw [hxs, hplain]
  refine congrArg₂ (fun first second => [first, second]) ?_ rfl
  decide

end Runner

end BeanGauge
