import BeanGauge.Config.Validate
import BeanGauge.Proofs.Check.Building
import BeanGauge.Proofs.Text.Blank
/-!
# Which configurations are accepted

A configuration is accepted when nothing is wrong with it. Otherwise the first of its faults is
reported: those of the server, of the launcher, and then of the checks, in each of which the name of
the integration comes before the instances. For an accepted configuration there is a runner.
-/

namespace BeanGauge

theorem Text.trim_eq_empty_iff {s : String} : trim s = "" ↔ ∀ c ∈ s.toList, isBlank c := by
  rw [trim, ← String.ofList_nil, String.ofList_inj, trimChars, trimEnd, trimStart,
    List.reverse_eq_nil_iff, List.dropWhile_eq_nil_iff]
  constructor
  · intro h
    have hstart : s.toList.dropWhile isBlank = [] := by
      by_contra hne
      have hhead := List.head_dropWhile_not isBlank hne
      rw [h _ (List.mem_reverse.2 (List.head_mem hne))] at hhead
      cases hhead
    exact List.dropWhile_eq_nil_iff.1 hstart
  · intro h c hc
    exact h c (List.dropWhile_subset isBlank (List.mem_reverse.1 hc))

/-! ## Verdicts -/

/-- What is said of something with some faults. -/
def verdict {ε : Type} : List ε → Except ε Unit
  | [] => .ok ()
  | fault :: _ => .error fault

section Verdict

variable {α δ ε : Type} {xs ys : List ε}

/-- What has no faults is accepted, and nothing else is. -/
theorem verdict_eq_ok_iff : verdict xs = .ok () ↔ xs = [] := by
  cases xs <;> simp [verdict]

/-- The fault that is reported is the first. -/
theorem verdict_eq_error_iff {fault : ε} : verdict xs = .error fault ↔ xs.head? = some fault := by
  cases xs <;> simp [verdict]

/-- The second look counts if the first found nothing. -/
theorem verdict_append (xs ys : List ε) :
    (do verdict xs; verdict ys) = verdict (xs ++ ys) := by
  cases xs <;> rfl

theorem mapError_verdict (f : ε → δ) (xs : List ε) :
    (verdict xs).mapError f = verdict (xs.map f) := by
  cases xs <;> rfl

theorem forM_eq_verdict {look : α → Except ε Unit} {faults : α → List ε}
    (h : ∀ a, look a = verdict (faults a)) (items : List α) :
    items.forM look = verdict (items.flatMap faults) := by
  induction items with
  | nil => rfl
  | cons a items ih =>
    show (do look a; items.forM look) = _
    rw [h a, ih, List.flatMap_cons, ← verdict_append]

/-- The fault of a condition that is not met. -/
def faultUnless (met : Prop) [Decidable met] (fault : ε) : List ε := if met then [] else [fault]

theorem faultUnless_eq_nil_iff {met : Prop} [Decidable met] {fault : ε} :
    faultUnless met fault = [] ↔ met := by
  by_cases h : met <;> simp [faultUnless, h]

theorem refuseIf_eq_verdict {bad : Bool} {met : Prop} [Decidable met] (h : bad = false ↔ met)
    (fault : ε) : Config.refuseIf bad fault = verdict (faultUnless met fault) := by
  cases bad with
  | true => rw [faultUnless, if_neg fun hmet => Bool.noConfusion (h.2 hmet)]; rfl
  | false => rw [faultUnless, if_pos (h.1 rfl)]; rfl

end Verdict

/-! ## The faults of a configuration -/

/-- All that is wrong with an instance, in order. -/
def InstanceConfig.faults [Regex.Builder] (integration : String) (i : InstanceConfig) :
    List InstanceFault :=
  faultUnless (Text.trim i.host ≠ "") .blankHost ++
  faultUnless (i.port ≠ 0) .zeroPort ++
  faultUnless (i.user.isSome = i.password.isSome) .halfCredentials ++
  match Integration.build integration i.filters with
  | .ok _ => []
  | .error e => [.noIntegration e]

/-- All that is wrong with a check, in order: its integration, then its instances one by one. -/
def CheckConfig.faults [Regex.Builder] (c : CheckConfig) : List Config.Fault :=
  faultUnless (c.integration ∈ Integration.knownNames) (.unknownIntegration c.integration) ++
  c.instances.flatMap fun i =>
    (i.faults c.integration).map (.badInstance c.integration i.endpoint)

/-- All that is wrong with a configuration, in order. -/
def Config.faults [Regex.Builder] (c : Config) : List Config.Fault :=
  faultUnless (c.server.port ≠ 0) .zeroServerPort ++
  faultUnless (c.server.path.toList.head? = some '/') .relativePath ++
  faultUnless (c.server.path ∉ Config.reservedPaths) (.reservedPath c.server.path) ++
  faultUnless (Text.trim c.launcher.program ≠ "") .blankProgram ++
  faultUnless (c.launcher.connectTimeout ≠ 0 ∧ c.launcher.dumpTimeout ≠ 0) .zeroTimeout ++
  c.checks.flatMap CheckConfig.faults

namespace Config

theorem isBlankText_eq_false_iff {s : String} : isBlankText s = false ↔ Text.trim s ≠ "" := by
  rw [Ne, Text.trim_eq_empty_iff, ← List.all_eq_true, Bool.not_eq_true, isBlankText]

/-- Looking at an instance finds its faults in order. -/
theorem checkInstance_eq_verdict [Regex.Builder] (integration : String) (i : InstanceConfig) :
    checkInstance integration i = verdict (i.faults integration) := by
  rw [checkInstance, InstanceConfig.faults, refuseIf_eq_verdict isBlankText_eq_false_iff,
    refuseIf_eq_verdict beq_eq_false_iff_ne, refuseIf_eq_verdict bne_eq_false_iff_eq]
  cases Integration.build integration i.filters with
  | ok built =>
    have hnone : (pure () : Except InstanceFault Unit) = verdict [] := rfl
    simp only [hnone, verdict_append, List.append_assoc]
  | error e =>
    have hone : (.error (.noIntegration e) : Except InstanceFault Unit) =
        verdict [.noIntegration e] := rfl
    simp only [hone, verdict_append, List.append_assoc]

theorem checkCheck_eq_verdict [Regex.Builder] (c : CheckConfig) :
    checkCheck c = verdict c.faults := by
  have hknown : (!Integration.knownNames.contains c.integration) = false ↔
      c.integration ∈ Integration.knownNames := by simp
  have hinstances : ∀ i : InstanceConfig,
      (checkInstance c.integration i).mapError (Fault.badInstance c.integration i.endpoint) =
        verdict ((i.faults c.integration).map (Fault.badInstance c.integration i.endpoint)) := by
    intro i
    rw [checkInstance_eq_verdict, mapError_verdict]
  rw [checkCheck, refuseIf_eq_verdict hknown, forM_eq_verdict hinstances, verdict_append,
    CheckConfig.faults]

/-- Looking at a configuration finds all faults in order, and reports the first. -/
theorem validate_eq_verdict [Regex.Builder] (c : Config) : c.validate = verdict c.faults := by
  have hslash : (c.server.path.toList.head? != some '/') = false ↔
      c.server.path.toList.head? = some '/' := bne_eq_false_iff_eq
  have hfree : reservedPaths.contains c.server.path = false ↔ c.server.path ∉ reservedPaths := by
    simp
  have htimeouts : (c.launcher.connectTimeout == 0 || c.launcher.dumpTimeout == 0) = false ↔
      c.launcher.connectTimeout ≠ 0 ∧ c.launcher.dumpTimeout ≠ 0 := by simp
  rw [validate, refuseIf_eq_verdict beq_eq_false_iff_ne, refuseIf_eq_verdict hslash,
    refuseIf_eq_verdict hfree, refuseIf_eq_verdict isBlankText_eq_false_iff,
    refuseIf_eq_verdict htimeouts, forM_eq_verdict checkCheck_eq_verdict]
  simp only [verdict_append, faults, List.append_assoc]

end Config

/-! ## Acceptance -/

/-- What is asked of an instance. -/
structure InstanceConfig.Acceptable [Regex.Builder] (integration : String)
    (i : InstanceConfig) : Prop where
  host : Text.trim i.host ≠ ""
  port : i.port ≠ 0
  credentials : i.user.isSome = i.password.isSome
  builds : ∃ built, Integration.build integration i.filters = .ok built

/-- What is asked of a configuration. -/
structure Config.Acceptable [Regex.Builder] (c : Config) : Prop where
  port : c.server.port ≠ 0
  absolute : c.server.path.toList.head? = some '/'
  free : c.server.path ≠ "/" ∧ c.server.path ≠ "/health" ∧ c.server.path ≠ "/checks"
  program : Text.trim c.launcher.program ≠ ""
  timeouts : c.launcher.connectTimeout ≠ 0 ∧ c.launcher.dumpTimeout ≠ 0
  known : ∀ check ∈ c.checks,
    check.integration ∈ ["activemq", "cassandra", "jmx", "solr", "tomcat"]
  instances : ∀ check ∈ c.checks, ∀ i ∈ check.instances, i.Acceptable check.integration

theorem InstanceConfig.faults_eq_nil_iff [Regex.Builder] {integration : String}
    {i : InstanceConfig} :
    i.faults integration = [] ↔ i.Acceptable integration := by
  have hbuild : (match Integration.build integration i.filters with
      | .ok _ => []
      | .error e => [InstanceFault.noIntegration e]) = [] ↔
      ∃ built, Integration.build integration i.filters = .ok built := by
    cases Integration.build integration i.filters <;> simp
  simp only [faults, List.append_eq_nil_iff, faultUnless_eq_nil_iff, hbuild]
  constructor
  · rintro ⟨⟨⟨host, port⟩, credentials⟩, builds⟩
    exact ⟨host, port, credentials, builds⟩
  · intro h
    exact ⟨⟨⟨h.host, h.port⟩, h.credentials⟩, h.builds⟩

namespace Config

/-- A configuration without faults is acceptable, and the other way round. -/
theorem faults_eq_nil_iff [Regex.Builder] {c : Config} : c.faults = [] ↔ c.Acceptable := by
  have hfree : c.server.path ∉ reservedPaths ↔
      c.server.path ≠ "/" ∧ c.server.path ≠ "/health" ∧ c.server.path ≠ "/checks" := by
    simp [reservedPaths]
  simp only [faults, CheckConfig.faults, List.append_eq_nil_iff, faultUnless_eq_nil_iff, hfree,
    List.flatMap_eq_nil_iff, List.map_eq_nil_iff, InstanceConfig.faults_eq_nil_iff]
  constructor
  · rintro ⟨⟨⟨⟨⟨port, absolute⟩, free⟩, program⟩, timeouts⟩, checks⟩
    exact ⟨port, absolute, free, program, timeouts, fun check hcheck => (checks check hcheck).1,
      fun check hcheck => (checks check hcheck).2⟩
  · intro h
    exact ⟨⟨⟨⟨⟨h.port, h.absolute⟩, h.free⟩, h.program⟩, h.timeouts⟩,
      fun check hcheck => ⟨h.known check hcheck, h.instances check hcheck⟩⟩

/-- A configuration is valid exactly if it is acceptable. -/
theorem validate_eq_ok_iff [Regex.Builder] {c : Config} : c.validate = .ok () ↔ c.Acceptable := by
  rw [validate_eq_verdict, verdict_eq_ok_iff, faults_eq_nil_iff]

/-- The user of an accepted instance always comes with a password. -/
theorem user_credentials [Regex.Builder] {integration : String} {i : InstanceConfig}
    (h : i.Acceptable integration) : i.credentials.map (·.user) = i.user := by
  have hboth := h.credentials
  unfold InstanceConfig.credentials
  cases huser : i.user with
  | none => rfl
  | some user =>
    cases hpassword : i.password with
    | none =>
      rw [huser, hpassword] at hboth
      cases hboth
    | some password => rfl

/-- A configuration is accepted exactly if it is acceptable; otherwise the first of its faults is
reported. Of an accepted one a runner can be made: it has one check for each configured one and one
instance for each configured one, in order, and credentials for those with a user. -/
theorem validate_reports_first [Regex.Builder] (c : Config) :
    (c.validate = .ok () ↔ c.Acceptable) ∧
    (∀ fault, c.validate = .error fault ↔ c.faults.head? = some fault) ∧
    (c.validate = .ok () → ∃ r, Runner.ofConfig c = .ok r ∧ Runner.BuiltFrom c r ∧
      ∀ i ∈ r.instances, i.config.credentials.map (·.user) = i.config.user) := by
  refine ⟨validate_eq_ok_iff, ?_, ?_⟩
  · intro fault
    rw [validate_eq_verdict, verdict_eq_error_iff]
  · intro h
    have hc := validate_eq_ok_iff.1 h
    obtain ⟨r, hr⟩ := Runner.exists_ofConfig fun check hcheck i hi =>
      (hc.instances check hcheck i hi).builds
    have hbuilt := Runner.builtFrom_of_ofConfig hr
    refine ⟨r, hr, hbuilt, ?_⟩
    intro i hi
    obtain ⟨check, hcheck, hi, -⟩ := hbuilt.configured hi
    exact user_credentials (hc.instances check hcheck i.config hi)

/-- A configuration with a filter, and with a user for one of its instances. -/
def secured : Config :=
  { Config.default with
    checks := [⟨"jmx", [{ host := "db", port := 7199, filters :=
        [⟨Dict.ofList [("domain", .one "org.*")], ∅⟩] }]⟩,
      ⟨"tomcat", [{ host := "web", port := 1, user := some "u", password := some "p" }]⟩] }

/-- The same with an instance without a port and a password, before an unknown integration. -/
def faulty : Config :=
  { secured with
    checks := secured.checks ++ [⟨"solr", [{ host := "s", port := 0, user := some "u" }]⟩,
      ⟨"kafka", []⟩] }

theorem validate_faulty :
    letI := Regex.weighing
    secured.validate = .ok () ∧
    (∃ r, Runner.ofConfig secured = .ok r ∧ Runner.BuiltFrom secured r ∧
      ∀ i ∈ r.instances, i.config.credentials.map (·.user) = i.config.user) ∧
    faulty.faults.length = 3 ∧
    faulty.validate = .error (.badInstance "solr" ⟨"s", 0⟩ .zeroPort) := by
  let _ := Regex.weighing
  have hok : secured.validate = .ok () := by decide
  refine ⟨hok, (validate_reports_first secured).2.2 hok, by decide, ?_⟩
  exact ((validate_reports_first faulty).2.1 _).2 (by decide)

end Config

end BeanGauge
