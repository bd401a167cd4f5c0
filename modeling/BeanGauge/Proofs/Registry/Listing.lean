import BeanGauge.Proofs.Exposition.Arrangement
import BeanGauge.Proofs.Text.Order
import BeanGauge.Proofs.Web
/-!
# The endpoints in the text of a registry

Of each count that is kept for endpoints, the text has the lines of all endpoints, one endpoint
after the other in the order of their bytes. No other line is about an endpoint.
-/

namespace BeanGauge

open Exposition (Line Reads row blocks Block groupOf)

/-- The endpoint a line is about. -/
def Exposition.Line.endpoint? : Line → Option String
  | sample _ labels _ => labels.get? "endpoint"
  | _ => none

namespace Registry

/-- The names of what is counted for each endpoint. -/
def endpointNames : List String :=
  ["rjmx_bridge_check_success_total", "rjmx_bridge_check_failure_total",
    "rjmx_bridge_reconnect_total", "rjmx_bridge_dump_duration_seconds_bucket",
    "rjmx_bridge_dump_duration_seconds_sum", "rjmx_bridge_dump_duration_seconds_count",
    "rjmx_bridge_samples"]

/-- How many lines an endpoint has under a name: one for each bucket, or a single one. -/
def linesPer (name : String) : Nat :=
  if name = "rjmx_bridge_dump_duration_seconds_bucket" then Histogram.dumpBounds.length + 1 else 1

/-- Whether lines are about some endpoints: these rise, and under each name they have their lines
one after the other. -/
structure Lists (ls : List Line) (listed : List String) : Prop where
  rising : listed.Pairwise fun a b => Text.encode a < Text.encode b
  lines : ∀ name ∈ endpointNames, (ls.filter (Line.samples name)).map Line.endpoint? =
    listed.flatMap fun endpoint => List.replicate (linesPer name) (some endpoint)
  others : ∀ l ∈ ls, l.endpoint?.isSome → ∃ name ∈ endpointNames, l.samples name

def keyOf (e : Exposition) : String × Option String := (e.name, e.labels.get? "endpoint")

theorem keyOf_line {name : String} (h : name ∈ names) (endpoint : String) (kind : MetricKind)
    (help : String) (value : Float) :
    keyOf (line endpoint kind name help value) = (name, some endpoint) := by
  have hkey : Exposition.sanitizeLabel "endpoint" = "endpoint" := by decide
  have hlabels : (line endpoint kind name help value).labels =
      Dict.insert ∅ (Exposition.sanitizeLabel "endpoint") endpoint := rfl
  have hname : (line endpoint kind name help value).name = name := sanitizeName_of_mem_names name h
  rw [keyOf, hname, hlabels, hkey, Dict.get?_insert_self]

theorem keyOf_withLabel_le (e : Exposition) (bound : String) :
    keyOf (e.withLabel "le" bound) = keyOf e := by
  have hkey : Exposition.sanitizeLabel "le" = "le" := by decide
  rw [keyOf, Exposition.withLabel, hkey, Dict.get?_insert_ne _ _ (by decide)]
  rfl

/-- What the lines of an endpoint are called and are about, in their order. -/
theorem map_keyOf_endpointLines {entry : String × EndpointStats}
    (hwidth : entry.2.dumps.buckets.length = Histogram.dumpBounds.length + 1) :
    (endpointLines entry).map keyOf =
      endpointNames.flatMap fun name => List.replicate (linesPer name) (name, some entry.1) := by
  obtain ⟨endpoint, s⟩ := entry
  have hbucket (b : Float × Nat) :
      keyOf ((line endpoint .gauge "rjmx_bridge_dump_duration_seconds_bucket"
        "Histogram of dump durations" (Number.nearest b.2 1)).withLabel "le" (boundText b.1)) =
      ("rjmx_bridge_dump_duration_seconds_bucket", some endpoint) :=
    (keyOf_withLabel_le _ _).trans (keyOf_line (by decide) ..)
  simp only [endpointLines, List.map_append, List.map_cons, List.map_nil, List.map_map,
    Function.comp_def, hbucket, List.map_const', hwidth]
  rw [keyOf_line (by decide), keyOf_line (by decide), keyOf_line (by decide),
    keyOf_line (by decide), keyOf_line (by decide), keyOf_line (by decide)]
  rfl

/-- Of copies that stand under different names, those under one name are all of its own. -/
theorem filter_copies {α : Type} {names : List String} (hnames : names.Nodup)
    (copies : String → Nat) (a : α) {name : String} (h : name ∈ names) :
    (names.flatMap fun n => List.replicate (copies n) (n, a)).filter (·.1 == name) =
      List.replicate (copies name) (name, a) := by
  induction names with
  | nil => cases h
  | cons n names ih =>
    obtain ⟨hn, hnames⟩ := List.nodup_cons.1 hnames
    rw [List.flatMap_cons, List.filter_append, List.filter_replicate]
    by_cases heq : n = name
    · subst heq
      have hrest : (names.flatMap fun m => List.replicate (copies m) (m, a)).filter (·.1 == n) =
          [] := by
        refine List.filter_eq_nil_iff.2 fun c hc hname => hn ?_
        obtain ⟨m, hm, hc⟩ := List.mem_flatMap.1 hc
        rw [(List.mem_replicate.1 hc).2] at hname
        rwa [← eq_of_beq hname]
      rw [hrest, List.append_nil, if_pos (beq_self_eq_true _)]
    · rw [if_neg (by simpa using heq), List.nil_append]
      exact ih hnames ((List.mem_cons.1 h).resolve_left (Ne.symm heq))

/-- Under a name of a count, an endpoint has its lines and they are about it. -/
theorem keyOf_groupOf_endpointLines {entry : String × EndpointStats}
    (hwidth : entry.2.dumps.buckets.length = Histogram.dumpBounds.length + 1) {name : String}
    (h : name ∈ endpointNames) :
    (groupOf (endpointLines entry) name).map keyOf =
      List.replicate (linesPer name) (name, some entry.1) := by
  have hfilter : (groupOf (endpointLines entry) name).map keyOf =
      ((endpointLines entry).map keyOf).filter (·.1 == name) := by
    rw [List.filter_map]
    rfl
  rw [hfilter, map_keyOf_endpointLines hwidth, filter_copies (by decide) _ _ h]

/-- The rows of a family come endpoint by endpoint, in the order of the endpoints. -/
theorem keyOf_groupOf_lines {r : Registry} (hwidth : ∀ entry ∈ r.endpoints.entries,
      entry.2.dumps.buckets.length = Histogram.dumpBounds.length + 1) {name : String}
    (h : name ∈ endpointNames) :
    (groupOf r.lines name).map keyOf =
      r.endpoints.keys.flatMap fun e => List.replicate (linesPer name) (name, some e) := by
  have hown : ∀ name ∈ endpointNames, (Exposition.sanitizeName "rjmx_bridge_connectors" == name) =
      false ∧ (Exposition.sanitizeName "rjmx_bridge_start_timestamp" == name) = false := by
    decide
  have hgroup : groupOf r.lines name =
      r.endpoints.entries.flatMap fun entry => groupOf (endpointLines entry) name := by
    rw [lines, groupOf, List.filter_append, List.filter_flatMap, List.filter_cons_of_neg,
      List.filter_cons_of_neg, List.filter_nil, List.append_nil]
    · rfl
    · exact Bool.eq_false_iff.1 (hown name h).2
    · exact Bool.eq_false_iff.1 (hown name h).1
  rw [hgroup, List.map_flatMap, Dict.keys, List.flatMap_map]
  refine congrArg List.flatten (List.map_congr_left fun entry hentry => ?_)
  exact keyOf_groupOf_endpointLines (hwidth entry hentry) h

/-- What is about an endpoint is one of the counts. -/
theorem name_mem_of_endpoint {r : Registry} (hwidth : ∀ entry ∈ r.endpoints.entries,
      entry.2.dumps.buckets.length = Histogram.dumpBounds.length + 1) {e : Exposition}
    (he : e ∈ r.lines) (hsome : (e.labels.get? "endpoint").isSome) : e.name ∈ endpointNames := by
  rw [lines] at he
  rcases List.mem_append.1 he with he | he
  · obtain ⟨entry, hentry, he⟩ := List.mem_flatMap.1 he
    have hkey : keyOf e ∈ (endpointLines entry).map keyOf := List.mem_map_of_mem he
    rw [map_keyOf_endpointLines (hwidth entry hentry)] at hkey
    obtain ⟨name, hname, hkey⟩ := List.mem_flatMap.1 hkey
    have heq : e.name = name := congrArg Prod.fst (List.mem_replicate.1 hkey).2
    rwa [heq]
  · simp only [List.mem_cons, List.not_mem_nil, or_false] at he
    rcases he with rfl | rfl
    · cases hsome
    · cases hsome

/-- The lines of a registry are about its endpoints. -/
theorem lists_lines {r : Registry} (hwidth : ∀ entry ∈ r.endpoints.entries,
      entry.2.dumps.buckets.length = Histogram.dumpBounds.length + 1) :
    Lists ((blocks r.lines).flatMap Block.lines) r.endpoints.keys where
  rising := List.pairwise_map.2 (r.endpoints.sorted.imp Text.encode_lt_iff.2)
  lines := by
    intro name hname
    have habout : (groupOf r.lines name).map (fun e => (keyOf e).2) =
        ((groupOf r.lines name).map keyOf).map Prod.snd := by
      rw [List.map_map]
      rfl
    rw [Exposition.samples_of_name, List.map_map]
    refine habout.trans ?_
    rw [keyOf_groupOf_lines hwidth hname, List.map_flatMap]
    simp only [List.map_replicate]
  others := by
    intro l hl hsome
    cases l with
    | help _ _ => cases hsome
    | typed _ _ => cases hsome
    | sample name labels value =>
      have hmem : Line.sample name labels value ∈
          ((blocks r.lines).flatMap Block.lines).filter (·.isSample) :=
        List.mem_filter.2 ⟨hl, rfl⟩
      obtain ⟨e, he, hrow⟩ := List.mem_map.1 ((Exposition.samples_perm _).mem_iff.1 hmem)
      cases hrow
      exact ⟨e.name, name_mem_of_endpoint hwidth he hsome, beq_self_eq_true _⟩

/-- The text of a registry reads in one way only, as lines about its endpoints. -/
theorem format_lists {r : Registry} (hwidth : ∀ entry ∈ r.endpoints.entries,
      entry.2.dumps.buckets.length = Histogram.dumpBounds.length + 1) :
    ∃ ls, Reads r.format ls ∧ (∀ ls', Reads r.format ls' → ls' = ls) ∧
      Lists ls r.endpoints.keys := by
  have hsound : ∀ l ∈ (blocks r.lines).flatMap Block.lines, l.Sound := by
    intro l hl
    obtain ⟨x, hx, hl⟩ := List.mem_flatMap.1 hl
    exact Exposition.sound_blocks (fun e he => (lines_spec r e he).1.named) x hx l hl
  have hreads := Exposition.reads_textOf hsound
  rw [← Exposition.format_eq, ← format] at hreads
  exact ⟨_, hreads, fun ls' hls' => hls'.unique hreads, lists_lines hwidth⟩

end Registry

end BeanGauge
