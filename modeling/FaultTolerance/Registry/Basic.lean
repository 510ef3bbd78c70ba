import FaultTolerance.Publisher
import FaultTolerance.Registry.Template

/-!
Instances by name, each made when it is first asked for.

A new instance takes its configuration from the caller, from a shared configuration, or from the
default one. An instance that exists is handed out as it is, whatever configuration is asked for.
A failure to find the configuration or to make the instance leaves everything as it was. Every
instance has a serial number of its own, by which it can be told apart from a later one of the
same name.
-/

namespace FaultTolerance

namespace Registry

/-- The name of the default configuration. -/
def defaultName : String := "default"

/-- A made instance. -/
structure Entry (τ : Type) where
  serial : Nat
  /-- The name that it was made with. -/
  name : String
  tags : Catalog String
  value : τ
  deriving Repr

/-- Where a new instance takes its configuration from. -/
inductive Source (κ : Type) where
  | standard
  | shared (name : String)
  | given (config : κ)

/-- What happens to entries, by the name that they are kept under. -/
inductive Event (τ : Type) where
  | added (name : String) (entry : Entry τ)
  | removed (name : String) (entry : Entry τ)
  | replaced (name : String) (old new : Entry τ)

namespace Event

variable {τ : Type}

def kind : Event τ → String
  | added .. => "ADDED"
  | removed .. => "REMOVED"
  | replaced .. => "REPLACED"

def name : Event τ → String
  | added name _ | removed name _ | replaced name _ _ => name

end Event

end Registry

/-- `κ` is the type of configurations and `τ` the type of instances. -/
structure Registry (κ τ : Type) where
  /-- Makes an instance of the given name. -/
  make : String → κ → Except Error τ
  standard : κ
  templates : Catalog (Registry.Template κ)
  entries : Catalog (Registry.Entry τ) := []
  /-- Tags that every new entry has. -/
  tags : Catalog String := []
  nextSerial : Nat := 0

namespace Registry

variable {κ τ : Type}

def new (standard : κ) (make : String → κ → Except Error τ) (tags : Catalog String := []) :
    Registry κ τ :=
  { make, standard, tags, templates := [(defaultName, .complete standard)] }

/-! ### Shared configurations -/

/-- Stores a template. If it does not resolve then, what it has replaced is put back. -/
def insertTemplate (r : Registry κ τ) (name : String) (t : Template κ) :
    Registry κ τ × Except Error Unit :=
  if name = defaultName then
    (r, .error (.invalidConfig
      ("'" ++ defaultName ++ "' is reserved for the default configuration")))
  else
    let previous := r.templates.find? name
    let r := { r with templates := r.templates.put name t }
    match resolve r.templates name with
    | .ok _ => (r, .ok ())
    | .error e => ({ r with templates := r.templates.restore name previous }, .error e)

/-- The registry after a template has been stored, for who does not go on after a failure. -/
def ifStored : Registry κ τ × Except Error Unit → Except Error (Registry κ τ)
  | (r, answer) => answer.map fun _ => r

def addConfiguration (r : Registry κ τ) (name : String) (config : κ) :
    Except Error (Registry κ τ) :=
  ifStored (r.insertTemplate name (.complete config))

def addDerived (r : Registry κ τ) (name base : String) (change : κ → κ) :
    Except Error (Registry κ τ) :=
  ifStored (r.insertTemplate name (.derived base change))

def configuration (r : Registry κ τ) (name : String) : Except Error κ := resolve r.templates name

/-- The configuration that a source stands for. -/
def configurationOf (r : Registry κ τ) : Source κ → Except Error κ
  | .standard => .ok r.standard
  | .shared name => r.configuration name
  | .given config => .ok config

/-! ### Entries -/

def find? (r : Registry κ τ) (name : String) : Option (Entry τ) := r.entries.find? name

def names (r : Registry κ τ) : List String := r.entries.names

def all (r : Registry κ τ) : List (Entry τ) := r.entries.map (·.2)

/-- An entry for an instance that was made now. -/
def enter (r : Registry κ τ) (name : String) (tags : Catalog String) (value : τ) :
    Registry κ τ × Entry τ :=
  ({ r with nextSerial := r.nextSerial + 1 },
    { serial := r.nextSerial, name, tags := r.tags.merge tags, value })

/-- Makes an instance that is kept under no name. -/
def build (r : Registry κ τ) (name : String) (config : κ) :
    Except Error (Registry κ τ × Entry τ) :=
  (r.make name config).map (r.enter name [])

/-- The entry of the given name, which is made if there is none. -/
def getOrCreate (r : Registry κ τ) (name : String) (source : Source κ := .standard)
    (tags : Catalog String := []) : Except Error (Registry κ τ × List (Event τ) × Entry τ) :=
  match r.find? name with
  | some entry => .ok (r, [], entry)
  | none => do
    let config ← r.configurationOf source
    let value ← r.make name config
    let (r, entry) := r.enter name tags value
    return ({ r with entries := r.entries.put name entry }, [.added name entry], entry)

/-- Takes an entry out. -/
def remove (r : Registry κ τ) (name : String) :
    Registry κ τ × List (Event τ) × Option (Entry τ) :=
  match r.find? name with
  | none => (r, [], none)
  | some entry =>
    ({ r with entries := r.entries.erase name }, [.removed name entry], some entry)

/-- Puts a made instance in the place of another one. Without another one nothing is stored. -/
def replace (r : Registry κ τ) (name : String) (new : Entry τ) :
    Registry κ τ × List (Event τ) × Option (Entry τ) :=
  match r.find? name with
  | none => (r, [], none)
  | some old =>
    ({ r with entries := r.entries.put name new }, [.replaced name old new], some old)

/-- Applies a change to every instance. -/
def mapValues (r : Registry κ τ) (f : τ → τ) : Registry κ τ :=
  { r with entries := r.entries.map fun (name, e) => (name, { e with value := f e.value }) }

/-- Stores the next state of an instance. -/
def update (r : Registry κ τ) (name : String) (value : τ) : Registry κ τ :=
  match r.find? name with
  | none => r
  | some entry => { r with entries := r.entries.put name { entry with value } }

def describe (r : Registry κ τ) : String :=
  Text.record "Registry"
    [("entries", toString r.entries.length), ("configurations", toString r.templates.length),
      ("tags", Text.table r.tags)]

end Registry

end FaultTolerance
