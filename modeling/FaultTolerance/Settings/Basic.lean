import FaultTolerance.Catalog
import FaultTolerance.Failure
import FaultTolerance.Settings.Properties
import FaultTolerance.Toml.Reader

/-!
The settings of the program: how to log, and for each primitive a section of shared
configurations and instances, sorted by name.
-/

namespace FaultTolerance

namespace Settings

/-- The blocks of one primitive. -/
structure Section (π : Type) where
  configs : Catalog π := []
  instances : Catalog π := []
  deriving BEq, Inhabited

namespace Section

variable {π : Type}

def ofValue (read : Toml.Value → Reading π) (v : Toml.Value) : Reading (Section π) := do
  let f ← Fields.ofValue ["configs", "instances"] v
  return {
    configs := ← f.getD "configs" (readTable read) []
    instances := ← f.getD "instances" (readTable read) [] }

/-- The tables of a group of blocks. An empty group shows itself by its header. -/
def groupSheets (pairs : π → List (String × Toml.Scalar)) (path : List String) :
    Catalog π → List Toml.Sheet
  | [] => [{ path }]
  | blocks => blocks.map fun (name, b) => { path := path ++ [name], pairs := pairs b }

def sheets (heading : String) (pairs : π → List (String × Toml.Scalar)) (s : Section π) :
    List Toml.Sheet :=
  groupSheets pairs [heading, "configs"] s.configs ++
    groupSheets pairs [heading, "instances"] s.instances

end Section

def readLogging (v : Toml.Value) : Reading LogSettings := do
  let f ← Fields.ofValue ["level", "file", "verbose"] v
  return {
    level := ← f.getD "level" (readName LogLevel.ofText?) .info
    file := ← f.get? "file" readString
    verbose := ← f.getD "verbose" readBoolean false }

def loggingSheet (l : LogSettings) : Toml.Sheet :=
  { path := ["logging"]
    pairs := [("level", .string l.level.text)] ++ pair? "file" .string l.file ++
      [("verbose", .boolean l.verbose)] }

end Settings

open Settings in
structure Settings where
  logging : LogSettings := {}
  breakers : Section BreakerBlock := {}
  limiters : Section LimiterBlock := {}
  bulkheads : Section BulkheadBlock := {}
  retries : Section RetryBlock := {}
  deriving BEq, Inhabited

namespace Settings

def ofValue (v : Toml.Value) : Reading Settings := do
  let f ← Fields.ofValue
    ["logging", "circuit_breaker", "rate_limiter", "bulkhead", "retry"] v
  return {
    logging := ← f.getD "logging" readLogging {}
    breakers := ← f.getD "circuit_breaker" (Section.ofValue BreakerBlock.ofValue) {}
    limiters := ← f.getD "rate_limiter" (Section.ofValue LimiterBlock.ofValue) {}
    bulkheads := ← f.getD "bulkhead" (Section.ofValue BulkheadBlock.ofValue) {}
    retries := ← f.getD "retry" (Section.ofValue RetryBlock.ofValue) {} }

/-- Reads settings from a document. -/
def ofText (text : String) : Except Failure Settings :=
  match Toml.ofText? text with
  | none => .error (.parse "not a TOML document")
  | some entries => (ofValue (.table entries)).mapError .parse

/-- Writes settings as a document. -/
def render (s : Settings) : String :=
  Toml.render
    (loggingSheet s.logging ::
      s.breakers.sheets "circuit_breaker" BreakerBlock.pairs ++
      s.limiters.sheets "rate_limiter" LimiterBlock.pairs ++
      s.bulkheads.sheets "bulkhead" BulkheadBlock.pairs ++
      s.retries.sheets "retry" RetryBlock.pairs)

/-- Whether settings are read back as they are written. -/
def readsBack (s : Settings) : Bool := (ofText s.render).toOption.any (· == s)

/-- Reads settings from the content of a file. -/
def ofFile (path : String) (content : Except String ByteArray) : Except Failure Settings :=
  match content with
  | .error cause => .error (.read path cause)
  | .ok bytes =>
    match String.fromUTF8? bytes with
    | none => .error (.read path "stream did not contain valid UTF-8")
    | some text => ofText text

end Settings

end FaultTolerance
