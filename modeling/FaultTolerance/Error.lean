import FaultTolerance.Text.Described

/-!
Everything that can go wrong in this library, by cause. `Error.message` holds the wording.

A call refused by a breaker, a bulkhead or a limiter is a rejection: the protected operation was
not touched. A configuration error says that an instance cannot be built as asked.
-/

namespace FaultTolerance

inductive Error where
  | callNotPermitted (name state : String)
  | bulkheadFull (name : String) (maxConcurrentCalls : Nat)
  | requestNotPermitted (name : String)
  | invalidConfig (reason : String)
  | unknownConfiguration (name : String)
  | configurationCycle (path : List String)
  | concurrentModification
  deriving DecidableEq, Repr, Inhabited

namespace Error

def message : Error → String
  | callNotPermitted name state =>
    "CircuitBreaker '" ++ name ++ "' is " ++ state ++ " and does not permit further calls"
  | bulkheadFull name limit =>
    "Bulkhead '" ++ name ++ "' is full and does not permit further calls (max "
      ++ toString limit ++ ")"
  | requestNotPermitted name =>
    "RateLimiter '" ++ name ++ "' does not permit further calls"
  | invalidConfig reason => "Invalid configuration: " ++ reason
  | unknownConfiguration name => "Unknown configuration '" ++ name ++ "'"
  | configurationCycle path => "Configuration cycle detected: " ++ " -> ".intercalate path
  | concurrentModification => "Concurrent modification detected during iteration"

/-- A rejection: the operation was not run. -/
def isRejection : Error → Bool
  | callNotPermitted .. | bulkheadFull .. | requestNotPermitted .. => true
  | _ => false

/-- A configuration that cannot be used. -/
def isConfigError : Error → Bool
  | invalidConfig .. | unknownConfiguration .. | configurationCycle .. => true
  | _ => false

/-- The name of the cause. -/
def kind : Error → String
  | callNotPermitted .. => "CallNotPermitted"
  | bulkheadFull .. => "BulkheadFull"
  | requestNotPermitted .. => "RequestNotPermitted"
  | invalidConfig .. => "InvalidConfig"
  | unknownConfiguration .. => "UnknownConfiguration"
  | configurationCycle .. => "ConfigurationCycle"
  | concurrentModification => "ConcurrentModification"

def describe (e : Error) : String :=
  match e with
  | callNotPermitted name state =>
    Text.record e.kind [("name", Text.quoted name), ("state", Text.quoted state)]
  | bulkheadFull name limit =>
    Text.record e.kind [("name", Text.quoted name), ("max_concurrent_calls", toString limit)]
  | requestNotPermitted name => Text.record e.kind [("name", Text.quoted name)]
  | invalidConfig text | unknownConfiguration text => Text.wrapped e.kind (Text.quoted text)
  | configurationCycle path => Text.wrapped e.kind (Text.list (path.map Text.quoted))
  | concurrentModification => e.kind

end Error

/-- Errors that a protected operation may report: each has a text, and a refusal of this library
can take its place. -/
class Fault (ε : Type) where
  text : ε → String
  ofRefusal : Error → ε

instance : Fault Error := ⟨Error.message, id⟩

end FaultTolerance
