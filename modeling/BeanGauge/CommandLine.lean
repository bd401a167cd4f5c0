import BeanGauge.Config.Validate
/-!
The command line. Every setting may be given at most once, by its long or short name; some have a
variable of the environment that counts where the setting is not given, and two have a default. What
is set in this way goes before the configuration file.
-/

namespace BeanGauge

inductive LogLevel where
  | trace
  | debug
  | info
  | warn
  | error
  deriving DecidableEq

def LogLevel.text : LogLevel → String
  | .trace => "trace"
  | .debug => "debug"
  | .info => "info"
  | .warn => "warn"
  | .error => "error"

def LogLevel.ofText? (s : String) : Option LogLevel :=
  [LogLevel.trace, .debug, .info, .warn, .error].find? (·.text == s)

inductive OutputFormat where
  | text
  | json
  | yaml
  deriving DecidableEq

def OutputFormat.name : OutputFormat → String
  | .text => "text"
  | .json => "json"
  | .yaml => "yaml"

def OutputFormat.ofText? (s : String) : Option OutputFormat :=
  [OutputFormat.text, .json, .yaml].find? (·.name == s)

/-- A whole number from 0 to `max`, with or without a plus before it. -/
def natUpTo? (max : Nat) (s : String) : Option Nat :=
  let digits := match s.toList with
    | '+' :: cs => cs
    | cs => cs
  if digits.isEmpty || !digits.all Number.isDigit then none
  else some (Number.ofDigits digits) |>.filter (· ≤ max)

/-- Switches of the command line. -/
inductive Switch where
  | validate
  | dryRun
  | once
  deriving DecidableEq

def Switch.name : Switch → String
  | .validate => "validate"
  | .dryRun => "dry-run"
  | .once => "once"

/-- Settings of the command line. -/
inductive Setting where
  | config
  | port
  | bindAddress
  | metricsPath
  | java
  | jmxtermJar
  | connectTimeout
  | dumpTimeout
  | logLevel
  | outputFormat
  deriving DecidableEq

namespace Setting

def all : List Setting :=
  [.config, .port, .bindAddress, .metricsPath, .java, .jmxtermJar, .connectTimeout, .dumpTimeout,
    .logLevel, .outputFormat]

def name : Setting → String
  | .config => "config"
  | .port => "port"
  | .bindAddress => "bind-address"
  | .metricsPath => "metrics-path"
  | .java => "java"
  | .jmxtermJar => "jmxterm-jar"
  | .connectTimeout => "connect-timeout"
  | .dumpTimeout => "dump-timeout"
  | .logLevel => "log-level"
  | .outputFormat => "output-format"

def ofShort? (c : Char) : Option Setting :=
  if c == 'c' then some .config
  else if c == 'p' then some .port
  else if c == 'l' then some .logLevel
  else none

def environmentName? : Setting → Option String
  | .config => some "RJMX_BRIDGE_CONFIG"
  | .port => some "RJMX_BRIDGE_PORT"
  | .bindAddress => some "RJMX_BRIDGE_BIND_ADDRESS"
  | .metricsPath => some "RJMX_BRIDGE_METRICS_PATH"
  | .java => some "RJMX_BRIDGE_JAVA"
  | .jmxtermJar => some "RJMX_BRIDGE_JMXTERM_JAR"
  | .connectTimeout => some "RJMX_BRIDGE_CONNECT_TIMEOUT"
  | .dumpTimeout => some "RJMX_BRIDGE_DUMP_TIMEOUT"
  | .logLevel => some "RJMX_BRIDGE_LOG_LEVEL"
  | .outputFormat => none

/-- A port. A minus is taken before zero alone. -/
def port? (s : String) : Option UInt16 :=
  let unsigned := match s.toList with
    | '-' :: cs => if cs.all (· == '0') then String.ofList cs else s
    | _ => s
  (natUpTo? (UInt16.size - 1) unsigned).map UInt16.ofNat

def millis? (s : String) : Option UInt64 := (natUpTo? (UInt64.size - 1) s).map UInt64.ofNat

def admits : Setting → String → Bool
  | .config, s => s != ""
  | .port, s => (port? s).isSome
  | .connectTimeout, s => (millis? s).isSome
  | .dumpTimeout, s => (millis? s).isSome
  | .logLevel, s => (LogLevel.ofText? s).isSome
  | .outputFormat, s => (OutputFormat.ofText? s).isSome
  | _, _ => true

end Setting

/-- Why there is nothing to run. -/
inductive Refusal where
  | usage
  | help
  | version
  deriving DecidableEq

def Refusal.exitCode : Refusal → Nat
  | .usage => 2
  | .help => 0
  | .version => 0

structure Given where
  switches : List Switch
  settings : List (Setting × String)

namespace Given

def addSwitch (g : Given) (s : Switch) : Except Refusal Given :=
  if g.switches.contains s then .error .usage else .ok { g with switches := s :: g.switches }

def addSetting (g : Given) (s : Setting) (value : String) : Except Refusal Given :=
  if (g.settings.any (·.1 == s)) || !s.admits value then .error .usage
  else .ok { g with settings := (s, value) :: g.settings }

def value? (g : Given) (s : Setting) : Option String :=
  (g.settings.find? (·.1 == s)).map (·.2)

end Given

/-- What a single argument says. -/
inductive Argument where
  | help
  | version
  | switchOn (s : Switch)
  /-- A setting with its value. -/
  | settingTo (s : Setting) (value : String)
  /-- A setting whose value is the next argument. -/
  | settingOf (s : Setting)
  /-- Nothing may come after this. -/
  | lastMark
  | unknown
  deriving DecidableEq

namespace Argument

/-- What a long name says, with the text behind its equals sign. -/
def ofLong (name : String) (value : Option String) : Argument :=
  match Setting.all.find? (·.name == name) with
  | some s => match value with
    | some v => .settingTo s v
    | none => .settingOf s
  | none =>
    if value.isSome then .unknown
    else if name = "help" then .help
    else if name = "version" then .version
    else match [Switch.validate, .dryRun, .once].find? (·.name == name) with
      | some s => .switchOn s
      | none => .unknown

/-- What a short name says, with the text behind it. -/
def ofShort (c : Char) (rest : List Char) : Argument :=
  if c == 'h' then .help
  else if c == 'V' then .version
  else match Setting.ofShort? c, rest with
    | some s, [] => .settingOf s
    | some s, '=' :: value => .settingTo s (String.ofList value)
    | some s, value => .settingTo s (String.ofList value)
    | none, _ => .unknown

def ofText (s : String) : Argument :=
  match s.toList with
  | ['-', '-'] => .lastMark
  | '-' :: '-' :: cs =>
    match Text.splitOnce '=' cs with
    | some (name, value) => ofLong (String.ofList name) (some (String.ofList value))
    | none => ofLong (String.ofList cs) none
  | '-' :: c :: cs => ofShort c cs
  | _ => .unknown

/-- Whether an argument may be the value of the setting before it. -/
def isValue (s : String) : Bool := s == "-" || s.toList.head? != some '-'

end Argument

/-- Takes in arguments one after the other; the first that is wrong, or asks for help or for the
version, decides. -/
def Given.read : List String → Given → Except Refusal Given
  | [], g => .ok g
  | arg :: args, g =>
    match Argument.ofText arg with
    | .help => .error .help
    | .version => .error .version
    | .switchOn s => do Given.read args (← g.addSwitch s)
    | .settingTo s value => do Given.read args (← g.addSetting s value)
    | .settingOf s =>
      match args with
      | value :: args =>
        if Argument.isValue value then do Given.read args (← g.addSetting s value)
        else .error .usage
      | [] => .error .usage
    | .lastMark => if args.isEmpty then .ok g else .error .usage
    | .unknown => .error .usage

/-- Takes in the variables of the environment of settings that were not given. -/
def Given.readVariables (env : List (String × String)) (g : Given) : Except Refusal Given :=
  Setting.all.foldlM (fun g s =>
    match g.value? s, s.environmentName?.bind fun v => (env.find? (·.1 == v)).map (·.2) with
    | none, some value => g.addSetting s value
    | _, _ => .ok g) g

structure CommandLine where
  configFile : String
  port : Option UInt16
  bindAddress : Option String
  metricsPath : Option String
  java : Option String
  jmxtermJar : Option String
  connectTimeout : Option UInt64
  dumpTimeout : Option UInt64
  validate : Bool
  dryRun : Bool
  once : Bool
  logLevel : LogLevel
  outputFormat : OutputFormat
  deriving DecidableEq

namespace CommandLine

/-- The file that is read unless another one is named. -/
def defaultFile : String := "config.yaml"

/-- What was given, with defaults for the rest. -/
def ofGiven (g : Given) : CommandLine where
  configFile := (g.value? .config).getD defaultFile
  port := (g.value? .port).bind Setting.port?
  bindAddress := g.value? .bindAddress
  metricsPath := g.value? .metricsPath
  java := g.value? .java
  jmxtermJar := g.value? .jmxtermJar
  connectTimeout := (g.value? .connectTimeout).bind Setting.millis?
  dumpTimeout := (g.value? .dumpTimeout).bind Setting.millis?
  validate := g.switches.contains .validate
  dryRun := g.switches.contains .dryRun
  once := g.switches.contains .once
  logLevel := ((g.value? .logLevel).bind LogLevel.ofText?).getD .info
  outputFormat := ((g.value? .outputFormat).bind OutputFormat.ofText?).getD .text

/-- What arguments and the environment ask for. -/
def parse (args : List String) (env : List (String × String)) : Except Refusal CommandLine := do
  let g ← Given.read args ⟨[], []⟩
  let g ← g.readVariables env
  pure (ofGiven g)

/-- The configuration with all that was set on the command line. -/
def apply (c : CommandLine) (config : Config) : Config :=
  { config with
    server :=
      { port := c.port.getD config.server.port
        path := c.metricsPath.getD config.server.path
        bindAddress := c.bindAddress.getD config.server.bindAddress }
    launcher :=
      { program := c.java.getD config.launcher.program
        args := (c.jmxtermJar.map fun jar => ["-jar", jar]).getD config.launcher.args
        connectTimeout := c.connectTimeout.getD config.launcher.connectTimeout
        dumpTimeout := c.dumpTimeout.getD config.launcher.dumpTimeout } }

end CommandLine

end BeanGauge
