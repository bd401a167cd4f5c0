import BeanGauge.Check.Runner
import BeanGauge.Proofs.Except
/-!
# Runners of configurations

A runner has one check for each configured one, and each check one instance for each configured
one, both in order. There is a runner as soon as every configured instance has an integration.
-/

namespace BeanGauge

namespace Integration

theorem name_of_build [Regex.Builder] {name : String} {specs : List FilterSpec} {i : Integration}
    (h : build name specs = .ok i) : i.name = name := by
  unfold build at h
  split_ifs at h with ha hc hj hs ht
  · cases h
    exact ha.symm
  · cases h
    exact hc.symm
  · rw [mapError_eq_ok_iff] at h
    cases hspecs : specs.mapM Filter.compile with
    | error e =>
      rw [hspecs] at h
      cases h
    | ok filters =>
      rw [hspecs] at h
      cases h
      exact hj.symm
  · cases h
    exact hs.symm
  · cases h
    exact ht.symm

end Integration

/-- How the instance of a configured one must be. -/
structure CheckInstance.BuiltFrom [Regex.Builder] (integration : String) (i : InstanceConfig)
    (x : CheckInstance) : Prop where
  config : x.config = i
  builds : Integration.build integration i.filters = .ok x.integration
  name : x.integration.name = integration

/-- How the check of a configured one must be. -/
structure Check.BuiltFrom [Regex.Builder] (c : CheckConfig) (check : Check) : Prop where
  name : check.name = c.integration
  instances : List.Forall₂ (CheckInstance.BuiltFrom c.integration) c.instances check.instances

/-- How the runner of a configuration must be: it has a check for each configured one, in order. -/
structure Runner.BuiltFrom [Regex.Builder] (c : Config) (r : Runner) : Prop where
  launcher : r.launcher = c.launcher
  checks : List.Forall₂ Check.BuiltFrom c.checks r.checks

theorem CheckInstance.builtFrom_of_build [Regex.Builder] {integration : String} {i : InstanceConfig}
    {x : CheckInstance}
    (h : (Integration.build integration i.filters).map (CheckInstance.mk i) = .ok x) :
    CheckInstance.BuiltFrom integration i x := by
  cases hbuild : Integration.build integration i.filters with
  | error e =>
    rw [hbuild] at h
    cases h
  | ok built =>
    rw [hbuild] at h
    cases h
    exact ⟨rfl, hbuild, Integration.name_of_build hbuild⟩

theorem Check.builtFrom_of_ofConfig [Regex.Builder] {c : CheckConfig} {check : Check}
    (h : ofConfig c = .ok check) : BuiltFrom c check := by
  obtain ⟨instances, hinstances, h⟩ := bind_eq_ok_iff.1 h
  cases h
  exact ⟨rfl, (forall₂_of_mapM hinstances).imp fun _ _ => CheckInstance.builtFrom_of_build⟩

namespace Runner

variable {c : Config} {r : Runner}

/-- A runner that is made of a configuration is as it must be. -/
theorem builtFrom_of_ofConfig [Regex.Builder] (h : ofConfig c = .ok r) : BuiltFrom c r := by
  obtain ⟨checks, hchecks, h⟩ := bind_eq_ok_iff.1 h
  cases h
  exact ⟨rfl, (forall₂_of_mapM hchecks).imp fun _ _ => Check.builtFrom_of_ofConfig⟩

/-- There is a runner if there is an integration for every instance. -/
theorem exists_ofConfig [Regex.Builder] (h : ∀ check ∈ c.checks, ∀ i ∈ check.instances,
    ∃ built, Integration.build check.integration i.filters = .ok built) :
    ∃ r, ofConfig c = .ok r := by
  have hchecks : ∀ check ∈ c.checks, ∃ built, Check.ofConfig check = .ok built := by
    intro check hcheck
    have hinstances : ∀ i ∈ check.instances, ∃ x,
        (Integration.build check.integration i.filters).map (CheckInstance.mk i) = .ok x := by
      intro i hi
      obtain ⟨built, hbuilt⟩ := h check hcheck i hi
      exact ⟨⟨i, built⟩, by rw [hbuilt]; rfl⟩
    exact ⟨_, bind_eq_ok_iff.2 ⟨_, mapM_of_ok hinstances, rfl⟩⟩
  exact ⟨_, bind_eq_ok_iff.2 ⟨_, mapM_of_ok hchecks, rfl⟩⟩

end Runner

/-- Every instance of a runner is a configured one with its own integration. -/
theorem Runner.BuiltFrom.configured [Regex.Builder] {c : Config} {r : Runner} (h : BuiltFrom c r)
    {i : CheckInstance} (hi : i ∈ r.instances) : ∃ check ∈ c.checks, i.config ∈ check.instances ∧
      Integration.build check.integration i.config.filters = .ok i.integration := by
  obtain ⟨built, hbuilt, hi⟩ := List.mem_flatMap.1 hi
  obtain ⟨check, hcheck, hfrom⟩ := exists_of_mem_forall₂ h.checks built hbuilt
  obtain ⟨config, hconfig, hx⟩ := exists_of_mem_forall₂ hfrom.instances i hi
  obtain rfl := hx.config
  exact ⟨check, hcheck, hconfig, hx.builds⟩

theorem eq_map_of_forall₂ {α β : Type} {f : β → α} {xs : List α} {ys : List β}
    (h : List.Forall₂ (fun x y => x = f y) xs ys) : xs = ys.map f := by
  have heach := List.forall₂_map_right_iff.2 h
  rwa [List.forall₂_eq_eq_eq] at heach

theorem Check.BuiltFrom.configs [Regex.Builder] {c : CheckConfig} {check : Check}
    (h : BuiltFrom c check) : c.instances = check.instances.map (·.config) :=
  eq_map_of_forall₂ (h.instances.imp fun _ _ hx => hx.config.symm)

/-- The instances of a runner are the configured ones. -/
theorem Runner.BuiltFrom.configs [Regex.Builder] {c : Config} {r : Runner} (h : BuiltFrom c r) :
    c.checks.flatMap (·.instances) = r.instances.map (·.config) := by
  have heach : c.checks.map (·.instances) =
      r.checks.map fun check => check.instances.map (·.config) := by
    apply eq_map_of_forall₂
    exact List.forall₂_map_left_iff.2 (h.checks.imp fun _ _ hx => hx.configs)
  rw [List.flatMap_def, heach, Runner.instances, List.map_flatMap, List.flatMap_def]

end BeanGauge
