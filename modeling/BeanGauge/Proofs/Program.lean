import BeanGauge.Program
import BeanGauge.Proofs.Config.Acceptance
import BeanGauge.Proofs.Connector.Session
import Mathlib.Data.List.Nodup
/-!
# What a start depends on

The command line changes the configuration of a file. A file is looked at before that, though, and
the changed configuration once more: of two files that come to the same configuration, one may be
refused for a value that the command line replaces. So a start depends on the configuration it works
with, and on the first fault that is found on the way to it.
-/

namespace BeanGauge

namespace Config

def settingFaults (c : Config) : List Fault :=
  faultUnless (c.server.port ≠ 0) .zeroServerPort ++
  faultUnless (c.server.path.toList.head? = some '/') .relativePath ++
  faultUnless (c.server.path ∉ reservedPaths) (.reservedPath c.server.path) ++
  faultUnless (Text.trim c.launcher.program ≠ "") .blankProgram ++
  faultUnless (c.launcher.connectTimeout ≠ 0 ∧ c.launcher.dumpTimeout ≠ 0) .zeroTimeout

def allSettingFaults : List Fault :=
  [.zeroServerPort, .relativePath, .reservedPath "/", .reservedPath "/health",
    .reservedPath "/checks", .blankProgram, .zeroTimeout]

def checkFaults [Regex.Builder] (checks : List CheckConfig) : List Fault :=
  checks.flatMap CheckConfig.faults

theorem faults_eq [Regex.Builder] (c : Config) :
    c.faults = c.settingFaults ++ checkFaults c.checks := rfl

theorem mem_faultUnless {ε : Type} {met : Prop} [Decidable met] {fault f : ε}
    (h : f ∈ faultUnless met fault) : ¬met ∧ f = fault := by
  rw [faultUnless] at h
  split at h
  · cases h
  · exact ⟨‹_›, List.mem_singleton.1 h⟩

theorem mem_allSettingFaults {c : Config} {f : Fault} (h : f ∈ c.settingFaults) :
    f ∈ allSettingFaults := by
  simp only [settingFaults, List.mem_append, or_assoc] at h
  rcases h with h | h | h | h | h
  · rw [(mem_faultUnless h).2]; decide
  · rw [(mem_faultUnless h).2]; decide
  · obtain ⟨hpath, rfl⟩ := mem_faultUnless h
    have hall : ∀ path ∈ reservedPaths, Fault.reservedPath path ∈ allSettingFaults := by decide
    exact hall _ (not_not.1 hpath)
  · rw [(mem_faultUnless h).2]; decide
  · rw [(mem_faultUnless h).2]; decide

/-- The faults outside of the checks have messages of their own. -/
theorem eq_of_message_eq {f f' : Fault} (hf : f ∈ allSettingFaults) (hf' : f' ∈ allSettingFaults)
    (h : f.message = f'.message) : f = f' := by
  have hnodup : (allSettingFaults.map Fault.message).Nodup := by decide
  exact List.inj_on_of_nodup_map hnodup hf hf' h

def leadOf (f : Fault) : Option Char := f.message.toList.head?

def settingLeads : List (Option Char) := ['S', 'M', 'L'].map some

def checkLeads : List (Option Char) := ['U', 'a', 'c', 'j', 's', 't'].map some

theorem leadOf_setting : ∀ f ∈ allSettingFaults, leadOf f ∈ settingLeads := by
  decide

/-- A message starts with one of its integration's name. -/
theorem leadOf_badInstance {integration : String} (h : integration ∈ Integration.knownNames)
    (endpoint : Endpoint) (fault : InstanceFault) :
    leadOf (.badInstance integration endpoint fault) ∈ checkLeads := by
  have hnames : ∀ name ∈ Integration.knownNames,
      name.toList.head? ∈ checkLeads ∧ name.toList.head? ≠ none := by
    decide
  have hmessage : (Fault.badInstance integration endpoint fault).message =
      integration ++ " instance " ++ endpoint.text ++ ": " ++ fault.message := rfl
  obtain ⟨hlead, hne⟩ := hnames integration h
  obtain ⟨lead, hhead⟩ := Option.ne_none_iff_exists'.1 hne
  rw [leadOf, hmessage, String.append_assoc, String.append_assoc, String.append_assoc,
    String.toList_append, List.head?_append, hhead, Option.some_or, ← hhead]
  exact hlead

/-- The first fault of a check is about its name, unless the name is known. -/
theorem leadOf_head?_faults [Regex.Builder] {check : CheckConfig} {f : Fault}
    (h : check.faults.head? = some f) :
    leadOf f ∈ checkLeads := by
  rw [CheckConfig.faults, faultUnless] at h
  split at h
  next hknown =>
    obtain ⟨i, -, hi⟩ := List.mem_flatMap.1 (List.mem_of_head? h)
    obtain ⟨fault, -, rfl⟩ := List.mem_map.1 hi
    exact leadOf_badInstance hknown i.endpoint fault
  next =>
    cases h
    have hmessage : (Fault.unknownIntegration check.integration).message =
        "Unknown integration '" ++ check.integration ++ "' (expected one of: " ++
          ", ".intercalate Integration.knownNames ++ ")" := rfl
    have hlead : "Unknown integration '".toList.head? = some 'U' := by decide
    rw [leadOf, hmessage, String.append_assoc, String.append_assoc, String.append_assoc,
      String.toList_append, List.head?_append, hlead, Option.some_or]
    decide

theorem leadOf_check [Regex.Builder] {checks : List CheckConfig} {f : Fault}
    (h : (checkFaults checks).head? = some f) :
    leadOf f ∈ checkLeads := by
  rw [checkFaults, List.head?_flatMap] at h
  obtain ⟨check, -, hcheck⟩ := List.exists_of_findSome?_eq_some h
  exact leadOf_head?_faults hcheck

end Config

namespace Program

/-- The configuration a file stands for, whatever is wrong with it. -/
def decoded (cl : CommandLine) : Config.File → Option Config
  | .contents s => Config.ofYaml s
  | .missing => if cl.validate || cl.dryRun then none else some .default
  | .unreadable _ => none

/-- The first fault of a configuration: of how it stands in the file, or else of what the command
line makes of it. -/
def firstFault [Regex.Builder] (cl : CommandLine) (c : Config) : Option Config.Fault :=
  (c.faults ++ (cl.apply c).faults).head?

def refusedFor (fault : Config.Fault) : Outcome :=
  failure "" ("Invalid configuration: " ++ fault.message)

variable {π : Type} {cl : CommandLine} {c c' : Config}

/-- The first fault is one of the settings, or the first of the checks. -/
theorem firstFault_cases [Regex.Builder] {fault : Config.Fault} (h : firstFault cl c = some fault) :
    fault ∈ Config.allSettingFaults ∨ (Config.checkFaults c.checks).head? = some fault := by
  have hchecks : (cl.apply c).checks = c.checks := rfl
  rw [firstFault, Config.faults_eq, Config.faults_eq, hchecks, List.append_assoc,
    List.head?_append] at h
  cases hown : c.settingFaults.head? with
  | some own =>
    rw [hown] at h
    cases h
    exact .inl (Config.mem_allSettingFaults (List.mem_of_head? hown))
  | none =>
    rw [hown, Option.none_or, List.head?_append] at h
    cases hcheck : (Config.checkFaults c.checks).head? with
    | some own =>
      rw [hcheck] at h
      exact .inr h
    | none =>
      rw [hcheck, Option.none_or, List.head?_append, hcheck, Option.or_none] at h
      exact .inl (Config.mem_allSettingFaults (List.mem_of_head? h))

/-- The messages of first faults that two configurations with the same checks have tell these
faults apart. -/
theorem firstFault_eq_of_message_eq [Regex.Builder] {fault fault' : Config.Fault}
    (h : firstFault cl c = some fault) (h' : firstFault cl c' = some fault')
    (hchecks : c.checks = c'.checks) (hmessage : fault.message = fault'.message) :
    fault = fault' := by
  have hlead : Config.leadOf fault = Config.leadOf fault' := by
    rw [Config.leadOf, Config.leadOf, hmessage]
  have hapart : ∀ lead ∈ Config.settingLeads, lead ∉ Config.checkLeads := by
    decide
  rcases firstFault_cases h with hset | hcheck
  · rcases firstFault_cases h' with hset' | hcheck'
    · exact Config.eq_of_message_eq hset hset' hmessage
    · have hlead' := Config.leadOf_check hcheck'
      rw [← hlead] at hlead'
      exact absurd hlead' (hapart _ (Config.leadOf_setting fault hset))
  · rcases firstFault_cases h' with hset' | hcheck'
    · have hlead' := Config.leadOf_check hcheck
      rw [hlead] at hlead'
      exact absurd hlead' (hapart _ (Config.leadOf_setting fault' hset'))
    · rw [hchecks, hcheck'] at hcheck
      exact (Option.some_inj.1 hcheck).symm

/-- What is found acceptable is acceptable with the options of the command line in place. -/
theorem faults_apply_of_firstFault [Regex.Builder] (h : firstFault cl c = none) :
    (cl.apply c).faults = [] :=
  (List.append_eq_nil_iff.1 (List.head?_eq_none_iff.1 h)).2

theorem failure_injective {stdout stdout' message message' : String}
    (h : failure stdout message = failure stdout' message') : message = message' := by
  simp only [failure, Outcome.exit.injEq, true_and] at h
  have hchars := congrArg String.toList h.2
  simp only [String.toList_append, List.append_assoc, List.append_cancel_left_eq,
    List.append_cancel_right_eq] at hchars
  exact String.toList_injective hchars

theorem refusedFor_injective {fault fault' : Config.Fault}
    (h : refusedFor fault = refusedFor fault') : fault.message = fault'.message := by
  have hchars := congrArg String.toList (failure_injective h)
  rw [String.toList_append, String.toList_append, List.append_cancel_left_eq] at hchars
  exact String.toList_injective hchars

theorem accept_eq [Regex.Builder] (c : Config) :
    c.accept = c.faults.head?.elim (.ok c) fun fault => .error (.invalid fault) := by
  rw [Config.accept, Config.validate_eq_verdict]
  cases c.faults <;> rfl

/-- The configuration of a file is looked at before the command line changes it. -/
theorem load_of_decoded [Regex.Builder] {explain : String → String} {file : Config.File}
    (hc : decoded cl file = some c) :
    (if cl.validate || cl.dryRun then Config.load explain file
      else Config.loadOrDefault explain file) = c.accept := by
  cases file with
  | missing =>
    rw [decoded] at hc
    split at hc
    next => cases hc
    next hgoes =>
      cases hc
      have hvalid : Config.default.accept = .ok .default := rfl
      rw [if_neg hgoes, hvalid]
      rfl
  | unreadable reason => cases hc
  | contents s =>
    have hyaml : Config.ofYaml s = some c := hc
    have hload : Config.load explain (.contents s) = c.accept := by
      rw [Config.load, Config.fromYaml, hyaml]
    exact (ite_self _).trans hload

/-- A file that decodes is accepted, or refused for its first fault. -/
theorem effectiveConfig_of_decoded [Regex.Builder] {explain : String → String} {file : Config.File}
    (hc : decoded cl file = some c) :
    effectiveConfig explain cl file =
      (firstFault cl c).elim (.ok (cl.apply c)) fun fault => .error (.invalid fault) := by
  have hbind : effectiveConfig explain cl file =
      (if cl.validate || cl.dryRun then Config.load explain file
        else Config.loadOrDefault explain file) >>= fun c => (cl.apply c).accept := by
    unfold effectiveConfig
    split <;> rfl
  rw [hbind, load_of_decoded hc, accept_eq, firstFault, List.head?_append]
  cases c.faults.head? with
  | some fault => rfl
  | none => exact accept_eq (cl.apply c)

/-- A start is refused for the first fault, and goes on with the changed configuration if there is
none. -/
theorem run_of_decoded [Regex.Builder] (b : Behaviour π) {args : List String}
    {env : List (String × String)} (hcl : CommandLine.parse args env = .ok cl)
    {files : String → Config.File} (hc : decoded cl (files cl.configFile) = some c) :
    run b files args env = (firstFault cl c).elim (runWith b cl (cl.apply c)) refusedFor := by
  have heffective : effectiveConfig b.noYaml cl (files cl.configFile) = _ :=
    effectiveConfig_of_decoded hc
  cases hfault : firstFault cl c with
  | none =>
    rw [hfault, Option.elim_none] at heffective
    simp only [run, hcl, heffective, Option.elim_none]
  | some fault =>
    rw [hfault, Option.elim_some] at heffective
    simp only [run, hcl, heffective, Option.elim_some]
    rfl

def refusalLead : List Char := "Invalid configuration: ".toList

theorem lead_refusedFor {stdout message : String} {fault : Config.Fault}
    (h : failure stdout message = refusedFor fault) : refusalLead <+: message.toList := by
  rw [failure_injective h, String.toList_append]
  exact List.prefix_append _ _

/-- A number does not start like a refusal. -/
theorem lead_number (n : Nat) (rest : String) : ¬refusalLead <+: (toString n ++ rest).toList := by
  have hlead : refusalLead = 'I' :: "nvalid configuration: ".toList := by decide
  rw [String.toList_append, Nat.toString_eq_repr, Nat.toList_repr, hlead]
  cases hdigits : Nat.toDigits 10 n with
  | nil => exact absurd hdigits Nat.toDigits_ne_nil
  | cons d ds =>
    intro h
    have hdigit : d.isDigit :=
      Nat.isDigit_of_mem_toDigits (by decide) (by decide) (hdigits ▸ List.mem_cons_self)
    rw [List.cons_append, List.cons_prefix_cons] at h
    rw [← h.1] at hdigit
    cases hdigit

/-- Nor does what is said of a text that is no address. -/
theorem lead_refusal (address : String) :
    ¬refusalLead <+: (SocketAddress.refusal address).toList := by
  have htext : SocketAddress.refusal address = "Invalid bind_address '" ++ address ++
      "': invalid IP address syntax. " ++
      "Use an IP address (e.g., '0.0.0.0', '127.0.0.1') or 'localhost'." := rfl
  have hchar : refusalLead[8]? = some 'c' ∧ "Invalid bind_address '".toList[8]? = some 'b' := by
    decide
  intro h
  obtain ⟨rest, hrest⟩ := h
  have heq := congrArg (fun cs : List Char => cs[8]?) hrest
  rw [htext] at heq
  simp only [String.toList_append, List.append_assoc] at heq
  rw [List.getElem?_append_left (by decide), List.getElem?_append_left (by decide), hchar.1,
    hchar.2] at heq
  cases heq

/-- A run that has started never ends as a refusal does. -/
theorem runOnce_ne_refusedFor (b : Behaviour π) (r : Runner) (format : OutputFormat)
    (fault : Config.Fault) : runOnce b r format ≠ refusedFor fault := by
  intro h
  rw [runOnce] at h
  dsimp only at h
  split at h
  · cases h
  · have hlead := lead_refusedFor h
    rw [String.append_assoc, String.append_assoc] at hlead
    exact lead_number _ _ hlead

/-- A configuration without faults is not refused for one. -/
theorem runWith_ne_refusedFor [Regex.Builder] (b : Behaviour π) (cl : CommandLine)
    (h : c.faults = []) (fault : Config.Fault) : runWith b cl c ≠ refusedFor fault := by
  have hc := Config.faults_eq_nil_iff.1 h
  obtain ⟨r, hr⟩ := Runner.exists_ofConfig fun check hcheck i hi =>
    (hc.instances check hcheck i hi).builds
  intro hrun
  simp only [runWith, hr] at hrun
  split at hrun
  · cases hrun
  split at hrun
  · cases hrun
  split at hrun
  · exact runOnce_ne_refusedFor b r cl.outputFormat fault hrun
  rw [SocketAddress.ofBindAddress] at hrun
  split at hrun
  next message haddress =>
    split at haddress
    · cases haddress
    split at haddress
    · cases haddress
    · cases haddress
      exact lead_refusal _ (lead_refusedFor hrun)
  next => cases hrun

/-- With one command line, two files that come to the same configuration lead to the same outcome
exactly if the first fault on the way is the same. -/
theorem run_eq_iff_firstFault_eq [Regex.Builder] (b : Behaviour π) {args : List String}
    {env : List (String × String)} (hcl : CommandLine.parse args env = .ok cl)
    {files files' : String → Config.File} (hc : decoded cl (files cl.configFile) = some c)
    (hc' : decoded cl (files' cl.configFile) = some c') (happly : cl.apply c = cl.apply c') :
    run b files args env = run b files' args env ↔ firstFault cl c = firstFault cl c' := by
  have hchecks : c.checks = c'.checks := congrArg (·.checks) happly
  rw [run_of_decoded b hcl hc, run_of_decoded b hcl hc']
  refine ⟨fun h => ?_, fun h => by rw [h, happly]⟩
  cases hfault : firstFault cl c with
  | none =>
    cases hfault' : firstFault cl c' with
    | none => rfl
    | some fault' =>
      rw [hfault, hfault'] at h
      exact absurd h (runWith_ne_refusedFor b cl (faults_apply_of_firstFault hfault) fault')
  | some fault =>
    cases hfault' : firstFault cl c' with
    | none =>
      rw [hfault, hfault'] at h
      exact absurd h.symm (runWith_ne_refusedFor b cl (faults_apply_of_firstFault hfault') fault)
    | some fault' =>
      rw [hfault, hfault'] at h
      have hmessage : fault.message = fault'.message := refusedFor_injective h
      rw [firstFault_eq_of_message_eq hfault hfault' hchecks hmessage]

/-- Arguments that ask for a look at the configuration with another port. -/
def portArgs : List String := ["--validate", "--port", "9191"]

def portLine : CommandLine :=
  { configFile := CommandLine.defaultFile, port := some 9191, bindAddress := none
    metricsPath := none, java := none, jmxtermJar := none, connectTimeout := none
    dumpTimeout := none, validate := true, dryRun := false, once := false, logLevel := .info
    outputFormat := .text }

def portFile (port : String) : String → Config.File :=
  fun _ => .contents ("server:\n  port: " ++ port ++ "\n")

def portConfig (port : UInt16) : Config :=
  { Config.default with server := { Config.default.server with port } }

theorem parse_portArgs : CommandLine.parse portArgs [] = .ok portLine := by rfl

theorem decoded_portFile :
    decoded portLine (portFile "0" portLine.configFile) = some (portConfig 0) ∧
      decoded portLine (portFile "8080" portLine.configFile) = some (portConfig 8080) ∧
      decoded portLine (portFile "9090" portLine.configFile) = some (portConfig 9090) := by
  decide +kernel

/-- Which of two valid ports is replaced does not matter. -/
theorem replaced_port_ignored :
    letI := Regex.weighing
    portLine.apply (portConfig 8080) = portLine.apply (portConfig 9090) ∧
      run Connector.Tape.console (portFile "8080") portArgs [] =
        run Connector.Tape.console (portFile "9090") portArgs [] := by
  let _ := Regex.weighing
  have happly : portLine.apply (portConfig 8080) = portLine.apply (portConfig 9090) := rfl
  refine ⟨happly, ?_⟩
  exact (run_eq_iff_firstFault_eq _ parse_portArgs decoded_portFile.2.1 decoded_portFile.2.2
    happly).2 (by decide)

/-- A replaced port of zero is refused, though the same is accepted when another port is
replaced. -/
theorem replaced_zero_port_refused :
    letI := Regex.weighing
    CommandLine.parse portArgs [] = .ok portLine ∧
      decoded portLine (portFile "0" portLine.configFile) = some (portConfig 0) ∧
      decoded portLine (portFile "9090" portLine.configFile) = some (portConfig 9090) ∧
      portLine.apply (portConfig 0) = portLine.apply (portConfig 9090) ∧
      run Connector.Tape.console (portFile "0") portArgs [] =
        .exit 1 "" "Error: Invalid configuration: Server port must be greater than 0\n" ∧
      run Connector.Tape.console (portFile "9090") portArgs [] =
        .exit 0 "Configuration is valid (0 checks, 0 instances)\n" "" := by
  let _ := Regex.weighing
  refine ⟨parse_portArgs, decoded_portFile.1, decoded_portFile.2.2, rfl, ?_, ?_⟩
  · have hfault : firstFault portLine (portConfig 0) = some .zeroServerPort := by decide
    rw [run_of_decoded _ parse_portArgs decoded_portFile.1, hfault]
    rfl
  · have hfault : firstFault portLine (portConfig 9090) = none := by decide
    rw [run_of_decoded _ parse_portArgs decoded_portFile.2.2, hfault]
    rfl

end Program

end BeanGauge
