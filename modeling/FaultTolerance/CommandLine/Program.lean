import FaultTolerance.CommandLine.Arguments
import FaultTolerance.CommandLine.Simulation
import FaultTolerance.Logging.Filter

/-!
A run of the program on a settings file: the settings are read, the log is opened, the registries
are filled, and the command is carried out. The first failure ends the run; what was put out before
it stays.
-/

namespace FaultTolerance.CommandLine

/-- What a run has put out, and why it gave up, if it did. -/
structure Result where
  outputs : List Output := []
  failure : Option Failure := none

namespace Result

def exitCode (r : Result) : Nat := (r.failure.map Failure.exitCode).getD 0

/-- The lines that were printed. -/
def lines (r : Result) : List String :=
  r.outputs.filterMap fun
    | .print line => some line
    | .log _ => none

/-- The entries of the log. -/
def log (r : Result) : List Telemetry.Entry :=
  r.outputs.filterMap fun
    | .print _ => none
    | .log entry => some entry

end Result

/-- What the arguments say about the log goes before what the settings say. -/
def LogOptions.merge (o : LogOptions) (s : LogSettings) : LogSettings where
  level := o.level.getD s.level
  file := o.file.or s.file
  verbose := o.verbose || s.verbose

/-- The settings of a run, with the log as it is to be. -/
def Invocation.settings (i : Invocation) (content : Except String ByteArray) :
    Except Failure Settings :=
  (Settings.ofFile i.config content).map fun s => { s with logging := i.log.merge s.logging }

/-- One line for each instance of a registry. -/
def instanceLines {κ τ : Type} (r : Registry κ τ) (shown : τ → String × String) : List String :=
  r.all.map fun e =>
    let (name, text) := shown e.value
    "  " ++ leftAligned 20 name ++ " " ++ text

/-- The lines about all instances. -/
def report (r : Registries Error Unit) : List String :=
  ["circuit breakers:"] ++
    instanceLines r.breakers
      (fun b => (b.name, b.metrics.state.text ++ "  " ++ b.config.describe)) ++
    ["rate limiters:"] ++ instanceLines r.limiters (fun l => (l.name, l.config.describe)) ++
    ["bulkheads:"] ++ instanceLines r.bulkheads (fun b => (b.name, b.config.describe)) ++
    ["retries:"] ++ instanceLines r.retries (fun r => (r.name, r.config.describe))

def Command.run (r : Registries Error Unit) : Command → Except Failure (List Output)
  | check => .ok ((report r).map .print)
  | simulate breaker retry calls failEvery =>
    CommandLine.simulate r breaker retry calls failEvery

/-- Carries a command out on settings. -/
def Command.runOn (c : Command) (s : Settings) : Result :=
  let loaded := Registries.ofSettings (ε := Error) (ν := Unit) s
  let outputs := loaded.log.map fun line => .log { line }
  match loaded.toExcept.bind (Command.run · c) with
  | .error f => { outputs, failure := some f }
  | .ok more => { outputs := outputs ++ more }

/-- Leaves out of the log what a filter does not show. -/
def Result.filtered (filter : LogFilter) (r : Result) : Result :=
  { r with
    outputs := r.outputs.filter fun
      | .print _ => true
      | .log entry => filter.shows entry.line }

/-- Runs the program on the content of the settings file. `opening` is how opening a log file
goes, and `environment` the filter that the environment gives. -/
def Invocation.run (i : Invocation) (content : Except String ByteArray)
    (opening : String → Except String Unit) (environment : Option String) : Result :=
  match i.settings content with
  | .error f => { failure := some f }
  | .ok s =>
    match s.logging.file.elim (.ok ()) opening with
    | .error cause => { failure := some (.logging ("Failed to create log file: " ++ cause)) }
    | .ok _ => (i.command.runOn s).filtered (LogFilter.choose environment s.logging)

end FaultTolerance.CommandLine
