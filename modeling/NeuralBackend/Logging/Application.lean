import NeuralBackend.Logging.Config
import NeuralBackend.Logging.Disk
import NeuralBackend.Logging.Engine
import NeuralBackend.Workload.Basic

/-!
# Applications that log

An application that uses the backend and logs what it reports.  Which reports a filter shows is a
matter of the filter engine, and the application is stated for an arbitrary one.

* `install` sets up logging for a configuration: first the filter, then the log file.
* `Application.setUp` does so once: after the first success every further attempt is a success
  without any effect.
* `Application.step` is one step of an application, and `Application.run` a whole run.
-/

namespace NeuralBackend

/-- A log line. -/
inductive LogLine
  | json (level : Level) (fields : List (String × FieldValue)) (showsAddress fileInfo : Bool)
      (span : Option String)
  | human (level : Level) (fileInfo : Bool)
  deriving DecidableEq, Repr, Inhabited

variable {engine : FilterEngine}

/-- Logging, once it is set up. -/
structure Subscriber (engine : FilterEngine) where
  filter : engine.Filter
  config : LogConfig
  /-- The place of the log file. -/
  file : Option Place

namespace Subscriber

/-- What a report shows: level, fields, and the span that ended. -/
structure Shown where
  level : Level
  fields : List (String × FieldValue)
  span : Option String
  deriving DecidableEq, Repr, Inhabited

/-- What is shown of a report, if anything: an event that passes the filter, or the end of a span
that passes it. -/
def shown? (s : Subscriber engine) : Report → Option Shown
  | .event e =>
      if engine.showsEvent s.filter e then
        some ⟨e.level, ("message", .text e.message) :: e.fields, none⟩
      else none
  | .span span =>
      if s.config.spanEvents && engine.showsSpan s.filter span then
        some ⟨span.level, [("message", .text "close")], some span.name⟩
      else none

/-- The line on the console. -/
def consoleLine (s : Subscriber engine) (shown : Shown) : LogLine :=
  match s.config.format with
  | .human => .human shown.level s.config.fileInfo
  | .json => .json shown.level shown.fields false s.config.fileInfo shown.span

/-- The line in the log file, which always names address, file and line. -/
def fileLine (shown : Shown) : LogLine := .json shown.level shown.fields true true shown.span

end Subscriber

/-- The variable that holds a filter, which overrides the configured level. -/
def filterVariable : String := "RUST_LOG"

/-- The filter in force: that of the environment, or else the configured level. -/
def Environment.filter (env : Environment) (engine : FilterEngine) (level : Level) :
    Except Fault engine.Filter :=
  match env.value? filterVariable with
  | none => .ok (engine.ofLevel level)
  | some directives =>
      match engine.parse? directives with
      | some filter => .ok filter
      | none => .error (.invalidConfiguration (.badFilter directives))

/-- Opens a log file, making the directories above it.  Directories that were made stay, also when
the file cannot be opened. -/
def Disk.openLogFile (disk : Disk LogLine) (path : String) : Disk LogLine × Except Fault Place :=
  let path := LogPath.parse path
  let parent := path.parent?.getD ⟨"", []⟩
  match disk.createDirectories parent with
  | (disk, some e) => (disk, .error (.invalidConfiguration (.logDirectory parent.text e)))
  | (disk, none) =>
      match disk.openFile path with
      | .ok (disk, place) => (disk, .ok place)
      | .error e => (disk, .error (.invalidConfiguration (.logFile path.text e)))

/-- An application: its surroundings, its backend, logging once it is set up, what it has written,
and how often its validator was asked. -/
structure Application (engine : FilterEngine) where
  environment : Environment
  backend : Backend
  disk : Disk LogLine
  subscriber : Option (Subscriber engine)
  console : List LogLine
  errors : List String
  questions : Nat

namespace Application

/-- An application that has done nothing yet, in an empty directory. -/
def fresh (environment : Environment) (backend : Backend) : Application engine where
  environment := environment
  backend := backend
  disk := .blank
  subscriber := none
  console := []
  errors := []
  questions := 0

/-- Sets up logging. -/
def install (a : Application engine) (config : LogConfig) :
    Application engine × Except Fault Unit :=
  match a.environment.filter engine config.level with
  | .error fault => (a, .error fault)
  | .ok filter =>
      match config.logFile with
      | none => ({ a with subscriber := some { filter, config, file := none } }, .ok ())
      | some path =>
          match a.disk.openLogFile path with
          | (disk, .error fault) => ({ a with disk }, .error fault)
          | (disk, .ok place) =>
              ({ a with disk, subscriber := some { filter, config, file := some place } }, .ok ())

/-- Sets up logging unless that was done before. -/
def setUp (a : Application engine) (config : LogConfig) :
    Application engine × Except Fault Unit :=
  match a.subscriber with
  | some _ => (a, .ok ())
  | none => a.install config

/-- The application after a report was logged. -/
def log (a : Application engine) (report : Report) : Application engine :=
  match a.subscriber with
  | none => a
  | some subscriber =>
      match subscriber.shown? report with
      | none => a
      | some shown =>
          { a with
            console := a.console ++ [subscriber.consoleLine shown]
            disk :=
              match subscriber.file with
              | none => a.disk
              | some place => a.disk.append place (Subscriber.fileLine shown) }

end Application

/-- A step of an application. -/
inductive ApplicationStep
  | setUp (settings : List SettingText)
  | setUpFromEnvironment
  /-- As from the environment, but bad values are ignored and a failure is only mentioned. -/
  | setUpAnyway
  /-- Makes an empty file. -/
  | touch (path : String)
  | query (layer : Layer) (operands : List TensorInfo)
  | workload (job : Job) (inputs outputs : List TensorSource) (script : List Step)
  deriving Repr

/-- What came of a step. -/
inductive ApplicationAnswer
  | done
  | failed (fault : Fault)
  /-- The answer of a query, and how often the validator was asked so far. -/
  | support (answer : Support) (questions : Nat)
  /-- The number of answers of a workload's run: one for its construction and one for each step. -/
  | answers (count : Nat)
  deriving Repr

namespace Application

/-- Sets up logging for a configuration that may be bad itself. -/
def attempt (a : Application engine) :
    Except Fault LogConfig → ApplicationAnswer × Application engine
  | .error fault => (.failed fault, a)
  | .ok config =>
      match a.setUp config with
      | (a, .ok ()) => (.done, a)
      | (a, .error fault) => (.failed fault, a)

/-- One step. -/
def step (a : Application engine) : ApplicationStep → ApplicationAnswer × Application engine
  | .setUp settings => a.attempt (LogConfig.ofSettings settings)
  | .setUpFromEnvironment => a.attempt (LogConfig.ofEnvironment a.environment)
  | .setUpAnyway =>
      match a.setUp ((LogConfig.ofEnvironment a.environment).toOption.getD {}) with
      | (a, .ok ()) => (.done, a)
      | (a, .error fault) =>
          (.done,
            { a with
              errors := a.errors ++ ["neonforge: logging not initialized: " ++ fault.message] })
  | .touch path =>
      match a.disk.openFile (.parse path) with
      | .ok (disk, place) => (.done, { a with disk := disk.clear place })
      | .error _ => (.done, a)
  | .query layer operands =>
      let outcome := a.backend.query layer operands
      let questions := a.questions + outcome.questions.length
      let a := { a with questions }
      (.support outcome.support questions, (outcome.events.map Report.event).foldl log a)
  | .workload job inputs outputs script =>
      let use := job.use inputs outputs script
      (.answers (1 + use.steps.length), use.reports.foldl log a)

/-- The answers of a list of steps, each with whether logging is set up after it, and the
application at the end. -/
def run (a : Application engine) :
    List ApplicationStep → List (ApplicationAnswer × Bool) × Application engine
  | [] => ([], a)
  | s :: rest =>
      let (answer, next) := a.step s
      let (answers, last) := next.run rest
      ((answer, next.subscriber.isSome) :: answers, last)

end Application

end NeuralBackend
