import FaultTolerance.Error

/-!
Why the program gives up, and the exit code that says so. What is wrong with the settings
themselves has a code of its own.
-/

namespace FaultTolerance

inductive Failure where
  /-- The settings file cannot be read. -/
  | read (path cause : String)
  /-- The text is no settings document. -/
  | parse (reason : String)
  /-- The settings cannot be written as a document. -/
  | render (reason : String)
  /-- An entry of a section cannot be used. -/
  | resilience (heading name : String) (source : Error)
  /-- No instance of this name was configured. -/
  | unknownInstance (heading name : String)
  | logging (reason : String)
  deriving DecidableEq, Repr, Inhabited

namespace Failure

def exitCode : Failure → Nat
  | parse .. | resilience .. | unknownInstance .. => 3
  | read .. | render .. | logging .. => 2

/-- The name of the cause. -/
def kind : Failure → String
  | read .. => "Read"
  | parse .. => "Parse"
  | render .. => "Render"
  | resilience _ _ source => source.kind
  | unknownInstance .. => "UnknownInstance"
  | logging .. => "Logging"

/-- Whether the cause is an entry of the settings, so that the message is all of this program's
own wording. -/
def isAboutEntry : Failure → Bool
  | resilience .. | unknownInstance .. => true
  | _ => false

def message : Failure → String
  | read path cause => "Failed to read " ++ path ++ ": " ++ cause
  | parse reason => "Failed to parse settings: " ++ reason
  | render reason => "Failed to render settings: " ++ reason
  | resilience heading name source => heading ++ "." ++ name ++ ": " ++ source.message
  | unknownInstance heading name => heading ++ "." ++ name ++ ": no such instance"
  | logging reason => "Logging error: " ++ reason

end Failure

end FaultTolerance
