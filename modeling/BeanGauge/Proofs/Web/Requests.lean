import BeanGauge.Proofs.Check.History
import BeanGauge.Proofs.Check.Isolation
import BeanGauge.Proofs.Config.Acceptance
import BeanGauge.Web
/-!
# Sequences of requests

Of all requests only those that get the metrics do anything: each of them runs all checks once, and
says how many instances failed. Every other request has one answer, whatever was asked for before.
The path of the metrics may not fit any other one, so it must be accepted, and free of marks.
-/

namespace BeanGauge

/-- How many configured instances have an endpoint. -/
def Config.instancesAt (c : Config) (e : Endpoint) : Nat :=
  (c.checks.flatMap (·.instances)).countP (·.endpoint = e)

/-- How many checks of an endpoint were counted. -/
def Bridge.finished {π : Type} (w : Bridge π) (e : Endpoint) : Nat :=
  (w.registry.endpoint e.text).success + (w.registry.endpoint e.text).failure

namespace Runner

variable {π : Type} {c : Config} {r : Runner}

theorem checked_pmap (b : Behaviour π) (is : List CheckInstance) (his : ∀ i ∈ is, i ∈ r.instances) :
    checked (is.pmap (Event.check (r := r) b) his) = is.map (·.config.endpoint) := by
  induction is with
  | nil => rfl
  | cons i is ih =>
    rw [List.pmap_cons, checked_cons, ih, List.map_cons]
    rfl

theorem checked_sweep (b : Behaviour π) :
    checked (r.sweep b) = r.instances.map (·.config.endpoint) := by
  have hfinish : checked [(Event.finish : Event r π)] = [] := rfl
  rw [sweep, checked, List.filterMap_append, ← checked, ← checked, checked_pmap, hfinish,
    List.append_nil]

theorem BuiltFrom.instancesAt [Regex.Builder] (h : BuiltFrom c r) (e : Endpoint) :
    c.instancesAt e = (r.instances.map (·.config.endpoint)).count e := by
  have hendpoints : r.instances.map (·.config.endpoint) =
      (c.checks.flatMap (·.instances)).map (·.endpoint) := by
    rw [h.configs, List.map_map]
    rfl
  rw [hendpoints, List.count, List.countP_map]
  apply List.countP_congr
  intro i _
  simp

/-- A run counts each endpoint once for each of its instances. -/
theorem finished_runAll [Regex.Builder] (h : BuiltFrom c r) (b : Behaviour π) (sink : Sink)
    (w : Bridge π) (e : Endpoint) :
    (r.runAll b sink w).2.2.finished e = w.finished e + c.instancesAt e := by
  have hrun : (r.runAll b sink w).2 = after (r.sweep b) (sink, w) := runAll_eq_after b (sink, w)
  have hcount := finished_after (r.sweep b) (sink, w) e
  rw [checked_sweep, ← h.instancesAt, ← hrun] at hcount
  exact hcount

end Runner

namespace Web

variable {π : Type} {b : Behaviour π} {c : Config} {r : Runner} {w : Bridge π}

/-! ## Paths -/

/-- Without marks a pattern fits itself only. -/
theorem fits_iff {pattern path : List Char} (hcolon : ':' ∉ pattern) (hstar : '*' ∉ pattern) :
    fits pattern path ↔ pattern = path := by
  fun_induction fits pattern path with
  | case1 => simp at hstar
  | case2 => simp at hcolon
  | case3 p pattern x rest hnostar hnocolon ih =>
    rw [List.mem_cons, not_or] at hcolon hstar
    rw [Bool.and_eq_true, beq_iff_eq, ih hcolon.2 hstar.2, List.cons_eq_cons]
  | case4 => simp
  | case5 pattern path _ _ hcons hnil =>
    refine iff_of_false Bool.false_ne_true ?_
    rintro rfl
    cases pattern with
    | nil => exact hnil rfl rfl
    | cons p pattern => exact hcons p pattern p pattern rfl rfl

/-- A configuration whose metrics are found under their path and nothing else is. -/
structure OwnPath (c : Config) : Prop where
  metrics : ∀ path, route? c.server.path path = some .metrics ↔ path = c.server.path
  reserved : c.server.path ∉ Config.reservedPaths

theorem ownPath_of_acceptable [Regex.Builder] (hc : c.Acceptable)
    (hcolon : ':' ∉ c.server.path.toList) (hstar : '*' ∉ c.server.path.toList) : OwnPath c := by
  have hreserved : c.server.path ∉ Config.reservedPaths := by
    simp [Config.reservedPaths, hc.free]
  refine ⟨?_, hreserved⟩
  intro path
  have hfits : fits c.server.path.toList path.toList ↔ path = c.server.path := by
    rw [fits_iff hcolon hstar, String.toList_inj]
    exact eq_comm
  constructor
  · intro h
    unfold route? at h
    split at h
    · cases h
    split at h
    · cases h
    split at h
    · cases h
    split at h
    next hfit => exact hfits.1 hfit
    next => cases h
  · rintro rfl
    rw [route?, if_neg hc.free.1, if_neg hc.free.2.1, if_neg hc.free.2.2, if_pos (hfits.2 rfl)]

/-! ## One request -/

/-- A request that gets the metrics. -/
def IsScrape (c : Config) (q : Request) : Prop :=
  (q.method = "GET" ∨ q.method = "HEAD") ∧ pathOf q.target = c.server.path

instance (c : Config) : DecidablePred (IsScrape c) := fun q =>
  inferInstanceAs (Decidable ((q.method = "GET" ∨ q.method = "HEAD") ∧
    pathOf q.target = c.server.path))

/-- The lines behind all others, up to how long the scrape took. -/
def trailerStart (seconds : Float) : String :=
  "# HELP rjmx_bridge_info rJMX-Bridge information\n# TYPE rjmx_bridge_info gauge\n" ++
  "rjmx_bridge_info\x7bversion=\"" ++ version ++ "\"\x7d 1\n" ++
  "# HELP rjmx_bridge_scrape_duration_seconds Time spent running all checks\n" ++
  "# TYPE rjmx_bridge_scrape_duration_seconds gauge\n" ++
  "rjmx_bridge_scrape_duration_seconds " ++ Number.plainStyle.write seconds

/-- The last lines of the answer to a scrape. -/
def failureLines (failed : Nat) : String :=
  "# HELP rjmx_bridge_scrape_failures Number of instances that failed this scrape\n" ++
  "# TYPE rjmx_bridge_scrape_failures gauge\n" ++
  "rjmx_bridge_scrape_failures " ++ toString failed ++ "\n"

theorem route?_isSome_of_reserved {metricsPath path : String} (h : path ∈ Config.reservedPaths) :
    (route? metricsPath path).isSome := by
  simp only [Config.reservedPaths, List.mem_cons, List.not_mem_nil, or_false] at h
  rcases h with rfl | rfl | rfl <;> rfl

/-- Every other request has an answer of its own, and leaves everything as it is. -/
theorem respond_of_not_scrape (hc : OwnPath c) (r : Runner) {q : Request} (hq : ¬IsScrape c q) :
    ∃ a, (q.method = "GET" → pathOf q.target ∈ Config.reservedPaths → a.status = 200) ∧
      ∀ {π : Type} (b : Behaviour π) (w : Bridge π), respond b c r w q = (a, w) := by
  unfold respond
  cases hroute : route? c.server.path (pathOf q.target) with
  | none =>
    refine ⟨_, ?_, fun b w => rfl⟩
    intro _ hreserved
    have hsome : (route? c.server.path (pathOf q.target)).isSome :=
      route?_isSome_of_reserved hreserved
    rw [hroute] at hsome
    cases hsome
  | some route =>
    have hanswer : q.method = "GET" ∨ q.method = "HEAD" → ∃ a, a.status = 200 ∧
        ∀ {π : Type} (b : Behaviour π) (w : Bridge π), answer b c r w route = (a, w) := by
      intro hmethod
      cases route with
      | root | health | checks => exact ⟨_, rfl, fun b w => rfl⟩
      | metrics => exact absurd ⟨hmethod, (hc.metrics _).1 hroute⟩ hq
    by_cases hget : q.method = "GET"
    · obtain ⟨a, hstatus, ha⟩ := hanswer (.inl hget)
      refine ⟨a, fun _ _ => hstatus, fun b w => ?_⟩
      dsimp only
      rw [if_pos hget, ha]
    by_cases hhead : q.method = "HEAD"
    · obtain ⟨a, -, ha⟩ := hanswer (.inr hhead)
      refine ⟨{ a with body := "" }, fun h => absurd h hget, fun b w => ?_⟩
      dsimp only
      rw [if_neg hget, if_pos hhead, ha]
    · refine ⟨⟨405, none, ""⟩, fun h => absurd h hget, fun b w => ?_⟩
      dsimp only
      rw [if_neg hget, if_neg hhead]

theorem trailer_eq_failureLines (seconds : Float) (failed : Nat) :
    trailer seconds failed = trailerStart seconds ++ "\n" ++ failureLines failed := by
  unfold trailer trailerStart failureLines
  simp only [String.append_assoc, -String.reduceAppend]

/-- How many instances fail in a run of all checks. -/
def failures (b : Behaviour π) (r : Runner) (w : Bridge π) : Nat :=
  (Runner.segments b r.launcher r.instances w).countP (!·.succeeds)

theorem failed_runAll (b : Behaviour π) (r : Runner) (w : Bridge π) :
    (r.runAll b ∅ w).1.failed = failures b r w := by
  rw [(Runner.runAll_adds b r ∅ w).failed]
  exact Nat.zero_add _

/-- What is made for a scrape: the body ends with the number of instances that failed. -/
def metricsPage (front : String) (failed : Nat) : Response :=
  ⟨200, some "text/plain; version=0.0.4; charset=utf-8", front ++ "\n" ++ failureLines failed⟩

theorem answer_metrics (b : Behaviour π) (c : Config) (r : Runner) (w : Bridge π) :
    ∃ front, answer b c r w .metrics =
      (metricsPage front (failures b r w), (r.runAll b ∅ w).2.2) := by
  let seconds := Number.nearest ((r.runAll b ∅ w).2.2.host.clock - w.host.clock) 1000
  let front := Exposition.render (r.runAll b ∅ w).2.1 ++ (r.runAll b ∅ w).2.2.registry.format ++
    trailerStart seconds
  refine ⟨front, ?_⟩
  rw [← failed_runAll]
  simp only [answer, scrape, metricsPage, front, seconds, trailer_eq_failureLines,
    String.append_assoc]

theorem respond_of_scrape (hc : OwnPath c) {q : Request} (hq : IsScrape c q) {a : Response}
    {w' : Bridge π} (ha : answer b c r w .metrics = (a, w')) :
    respond b c r w q = (if q.method = "GET" then a else { a with body := "" }, w') := by
  have hroute : route? c.server.path (pathOf q.target) = some .metrics := (hc.metrics _).2 hq.2
  simp only [respond, hroute, ha]
  rcases hq.1 with hget | hhead
  · simp only [hget, if_true]
  · simp [hhead]

theorem finished_respond [Regex.Builder] (hc : OwnPath c) (hr : Runner.BuiltFrom c r)
    (q : Request) (e : Endpoint) :
    (respond b c r w q).2.finished e =
      w.finished e + if IsScrape c q then c.instancesAt e else 0 := by
  by_cases hq : IsScrape c q
  · obtain ⟨front, hanswer⟩ := answer_metrics b c r w
    rw [respond_of_scrape hc hq hanswer, Runner.finished_runAll hr, if_pos hq]
  · obtain ⟨a, -, hrespond⟩ := respond_of_not_scrape hc r hq
    rw [hrespond, if_neg hq, Nat.add_zero]

/-! ## Many requests -/

theorem respondAll_cons (q : Request) (qs : List Request) :
    respondAll b c r w (q :: qs) =
      ((respond b c r w q).1 :: (respondAll b c r (respond b c r w q).2 qs).1,
        (respondAll b c r (respond b c r w q).2 qs).2) := rfl

/-- The bridge before the request at a position. -/
def before (b : Behaviour π) (c : Config) (r : Runner) (w : Bridge π) (qs : List Request)
    (n : Nat) : Bridge π := (respondAll b c r w (qs.take n)).2

theorem getElem?_respondAll (qs : List Request) (n : Nat) :
    (respondAll b c r w qs).1[n]? =
      qs[n]?.map fun q => (respond b c r (before b c r w qs n) q).1 := by
  induction qs generalizing n w with
  | nil => rfl
  | cons q qs ih =>
    cases n with
    | zero => rfl
    | succ n =>
      rw [respondAll_cons, List.getElem?_cons_succ, ih, List.getElem?_cons_succ]
      rfl

theorem before_succ {qs : List Request} {n : Nat} {q : Request} (hq : qs[n]? = some q) :
    before b c r w qs (n + 1) = (respond b c r (before b c r w qs n) q).2 := by
  induction qs generalizing n w with
  | nil => cases hq
  | cons first qs ih =>
    cases n with
    | zero =>
      cases hq
      rfl
    | succ n => exact ih hq

theorem finished_respondAll [Regex.Builder] (hc : OwnPath c) (hr : Runner.BuiltFrom c r)
    (qs : List Request) (e : Endpoint) : (respondAll b c r w qs).2.finished e =
      w.finished e + qs.countP (IsScrape c) * c.instancesAt e := by
  induction qs generalizing w with
  | nil => simp [respondAll]
  | cons q qs ih =>
    rw [respondAll_cons, ih, finished_respond hc hr, List.countP_cons]
    by_cases hq : IsScrape c q
    · simp only [hq, if_true, decide_true]
      rw [Nat.add_mul, Nat.one_mul]
      omega
    · simp only [hq, if_false, decide_false]
      simp

/-- What becomes of some requests, where `fixed` gives the answers to those that are no scrapes. -/
structure Served (fixed : Request → Response) (b : Behaviour π) (c : Config) (r : Runner)
    (w : Bridge π) (qs : List Request) : Prop where
  others : ∀ n q, qs[n]? = some q → ¬IsScrape c q →
    (respondAll b c r w qs).1[n]? = some (fixed q) ∧
      before b c r w qs (n + 1) = before b c r w qs n
  scrapes : ∀ n q, qs[n]? = some q → IsScrape c q →
    before b c r w qs (n + 1) = (r.runAll b ∅ (before b c r w qs n)).2.2 ∧
      ∃ front, let page := metricsPage front (failures b r (before b c r w qs n))
        (answer b c r (before b c r w qs n) .metrics).1 = page ∧
          (respondAll b c r w qs).1[n]? =
            some (if q.method = "GET" then page else { page with body := "" })
  finished : ∀ e, (respondAll b c r w qs).2.finished e =
    w.finished e + qs.countP (IsScrape c) * c.instancesAt e

/-- An accepted configuration without marks in the path of its metrics has a runner with which only
scrapes work. The requests before it make no difference to the answer to any other request, and it
makes none to anything. Each scrape runs all checks once, so each endpoint counts one check more for
each of its instances, and the page it makes ends with the number of instances that failed; `HEAD`
gets that page without its body. Where nothing was done before, nothing is counted. -/
theorem only_scrapes_work [Regex.Builder] (hc : c.validate = .ok ())
    (hcolon : ':' ∉ c.server.path.toList) (hstar : '*' ∉ c.server.path.toList) :
    ∃ r, Runner.ofConfig c = .ok r ∧ ∃ fixed : Request → Response,
      (∀ q, pathOf q.target ∈ Config.reservedPaths →
        ¬IsScrape c q ∧ (q.method = "GET" → (fixed q).status = 200)) ∧
      (∀ {π : Type} (b : Behaviour π) (w : Bridge π) (qs : List Request),
        Served fixed b c r w qs) ∧
      ∀ {π : Type} (start : Float) (e : Endpoint),
        (Bridge.idle start : Bridge π).finished e = 0 := by
  have hacceptable := Config.validate_eq_ok_iff.1 hc
  have hown := ownPath_of_acceptable hacceptable hcolon hstar
  obtain ⟨r, hr⟩ := Runner.exists_ofConfig fun check hcheck i hi =>
    (hacceptable.instances check hcheck i hi).builds
  have hbuilt := Runner.builtFrom_of_ofConfig hr
  have hanswers : ∀ q, ∃ a, ¬IsScrape c q →
      (q.method = "GET" → pathOf q.target ∈ Config.reservedPaths → a.status = 200) ∧
        ∀ {π : Type} (b : Behaviour π) (w : Bridge π), respond b c r w q = (a, w) := by
    intro q
    by_cases hq : IsScrape c q
    · exact ⟨⟨200, none, ""⟩, fun h => absurd hq h⟩
    · obtain ⟨a, ha⟩ := respond_of_not_scrape hown r hq
      exact ⟨a, fun _ => ha⟩
  choose fixed hfixed using hanswers
  refine ⟨r, hr, fixed, ?_, ?_, fun _ _ => rfl⟩
  · intro q hreserved
    have hq : ¬IsScrape c q := fun h => hown.reserved (h.2 ▸ hreserved)
    exact ⟨hq, fun hget => (hfixed q hq).1 hget hreserved⟩
  intro π b w qs
  refine ⟨?_, ?_, fun e => finished_respondAll hown hbuilt qs e⟩
  · intro n q hn hq
    rw [getElem?_respondAll, before_succ hn, hn, Option.map_some, (hfixed q hq).2]
    exact ⟨rfl, rfl⟩
  · intro n q hn hq
    obtain ⟨front, hanswer⟩ := answer_metrics b c r (before b c r w qs n)
    rw [getElem?_respondAll, before_succ hn, hn, Option.map_some,
      respond_of_scrape hown hq hanswer, hanswer]
    exact ⟨rfl, front, rfl, rfl⟩

def paired : Config :=
  { Config.default with
    checks := [⟨"jmx", [{ host := "db", port := 7199 }]⟩,
      ⟨"tomcat", [{ host := "db", port := 7199, name := some "web" },
        { host := "away", port := 1 }]⟩] }

def visits : List Request :=
  [⟨"GET", "/checks"⟩, ⟨"GET", "/metrics?now"⟩, ⟨"POST", "/metrics"⟩, ⟨"GET", "/metrics/"⟩,
    ⟨"HEAD", "/metrics"⟩]

theorem paired_visits :
    letI := Regex.weighing
    ∃ r, Runner.ofConfig paired = .ok r ∧ ∃ fixed : Request → Response,
      let w : Bridge Connector.Tape := .idle 0.0
      let done := respondAll Connector.Tape.console paired r w visits
      done.1[2]? = some (fixed ⟨"POST", "/metrics"⟩) ∧
      (∃ front, done.1[1]? = some (metricsPage front 3)) ∧
      done.2.finished ⟨"db", 7199⟩ = 4 ∧ done.2.finished ⟨"away", 1⟩ = 2 := by
  let _ := Regex.weighing
  have hc : paired.validate = .ok () := by decide
  obtain ⟨r, hr, fixed, -, hserved, hidle⟩ := only_scrapes_work hc (by decide) (by decide)
  have hfailures : (Runner.ofConfig paired).toOption.map (fun r => failures Connector.Tape.console r
      (before Connector.Tape.console paired r (.idle 0.0) visits 1)) = some 3 := by
    decide
  rw [toOption_eq_some_iff.2 hr, Option.map_some, Option.some_inj] at hfailures
  have hvisits := hserved Connector.Tape.console (.idle 0.0) visits
  refine ⟨r, hr, fixed, ?_, ?_, ?_, ?_⟩
  · exact (hvisits.others 2 _ rfl (by decide)).1
  · obtain ⟨-, front, -, hanswer⟩ := hvisits.scrapes 1 _ rfl (by decide)
    rw [hfailures] at hanswer
    exact ⟨front, hanswer⟩
  · rw [hvisits.finished, hidle]
    decide
  · rw [hvisits.finished, hidle]
    decide

end Web

end BeanGauge
