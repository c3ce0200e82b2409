import NeuralBackend.Fault
import NeuralBackend.Support.Backend
import NeuralBackend.Text.LowerCase
import NeuralBackend.Trace.Level

/-!
# Configuration

What can be configured about logging, and how configurations are read from text.

* `Environment` holds the environment variables.
* `LogConfig` is the configuration of logging, `LogSetting` one change to it.
* `LogConfig.ofEnvironment` and `BackendConfig.ofEnvironment` read the variables of this library.  A
  value is read without regard to blanks at its ends and to case; one that means nothing is a fault.
-/

namespace NeuralBackend

/-- The environment variables. -/
abbrev Environment := List (String × String)

/-- The value of a variable, if it is set. -/
def Environment.value? (env : Environment) (variableName : String) : Option String :=
  List.lookup variableName env

/-! ## The backend -/

/-- The variable that says whether negative answers are reported. -/
def logUnsupportedVariable : String := "NEONFORGE_LOG_UNSUPPORTED"

/-- The truth value that a word stands for, if any. -/
def flag? (value : String) : Option Bool :=
  let word := Text.settingWord value
  if word ∈ ["1", "true", "yes", "on"] then some true
  else if word ∈ ["0", "false", "no", "off"] then some false
  else none

/-- The standard configuration of the backend, changed by the environment. -/
def BackendConfig.ofEnvironment (env : Environment) : Except Fault BackendConfig :=
  match env.value? logUnsupportedVariable with
  | none => .ok {}
  | some value =>
      match flag? value with
      | some logUnsupported => .ok { logUnsupported }
      | none => .error (.invalidConfiguration (.notBoolean logUnsupportedVariable value))

/-! ## Logging -/

/-- The level that a word stands for. -/
def Level.parse (text : String) : Except Fault Level :=
  match Text.settingWord text with
  | "error" => .ok .error
  | "warn" | "warning" => .ok .warn
  | "info" => .ok .info
  | "debug" => .ok .debug
  | "trace" => .ok .trace
  | other => .error (.invalidConfiguration (.unknownLevel other))

/-- The form of log lines on the console. -/
inductive LogFormat
  | human
  | json
  deriving DecidableEq, Repr, Inhabited

/-- The name of a format. -/
def LogFormat.name : LogFormat → String
  | human => "Human"
  | json => "Json"

/-- The format that a word stands for. -/
def LogFormat.parse (text : String) : Except Fault LogFormat :=
  match Text.settingWord text with
  | "human" | "pretty" => .ok .human
  | "json" => .ok .json
  | other => .error (.invalidConfiguration (.unknownFormat other))

/-- The configuration of logging. -/
structure LogConfig where
  level : Level := .warn
  format : LogFormat := .human
  /-- Whether console lines name the file and line they come from. -/
  fileInfo : Bool := false
  /-- Whether the end of a span is logged. -/
  spanEvents : Bool := false
  /-- Where to append log lines besides the console. -/
  logFile : Option String := none
  deriving DecidableEq, Repr, Inhabited

/-- One change to a configuration. -/
inductive LogSetting
  | level (level : Level)
  | format (format : LogFormat)
  | fileInfo (shown : Bool)
  | spanEvents (shown : Bool)
  | logFile (path : String)
  deriving DecidableEq, Repr, Inhabited

/-- The configuration after a change. -/
def LogConfig.apply (config : LogConfig) : LogSetting → LogConfig
  | .level level => { config with level }
  | .format format => { config with format }
  | .fileInfo fileInfo => { config with fileInfo }
  | .spanEvents spanEvents => { config with spanEvents }
  | .logFile path => { config with logFile := some path }

/-- A change as a user writes it down: levels and formats are words. -/
inductive SettingText
  | level (text : String)
  | format (text : String)
  | fileInfo (shown : Bool)
  | spanEvents (shown : Bool)
  | logFile (path : String)
  deriving DecidableEq, Repr, Inhabited

/-- The change that a user asks for. -/
def SettingText.parse : SettingText → Except Fault LogSetting
  | level text => do return .level (← Level.parse text)
  | format text => do return .format (← LogFormat.parse text)
  | fileInfo shown => .ok (.fileInfo shown)
  | spanEvents shown => .ok (.spanEvents shown)
  | logFile path => .ok (.logFile path)

/-- The standard configuration after a list of changes; all of them are read before any is made. -/
def LogConfig.ofSettings (settings : List SettingText) : Except Fault LogConfig := do
  let settings ← settings.mapM SettingText.parse
  return settings.foldl LogConfig.apply {}

/-- The variables that configure logging. -/
def levelVariable : String := "NEONFORGE_LOG_LEVEL"

@[inherit_doc levelVariable]
def formatVariable : String := "NEONFORGE_LOG_FORMAT"

@[inherit_doc levelVariable]
def fileVariable : String := "NEONFORGE_LOG_FILE"

/-- The settings that the environment asks for: level, format, file. -/
def Environment.logSettings (env : Environment) : List SettingText :=
  ((env.value? levelVariable).map SettingText.level).toList ++
    ((env.value? formatVariable).map SettingText.format).toList ++
    ((env.value? fileVariable).map SettingText.logFile).toList

/-- The standard configuration of logging, changed by the environment. -/
def LogConfig.ofEnvironment (env : Environment) : Except Fault LogConfig :=
  LogConfig.ofSettings env.logSettings

end NeuralBackend
