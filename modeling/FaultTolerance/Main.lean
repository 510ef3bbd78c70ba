import FaultTolerance.CommandLine.Program

/-!
The program: reads its arguments and files, and puts out what a run says.
-/

namespace FaultTolerance.CommandLine

/-- Why a file cannot be used. -/
def causeOf : IO.Error → String
  | .noFileOrDirectory _ code _ => s!"No such file or directory (os error {code})"
  | .permissionDenied _ code _ => s!"Permission denied (os error {code})"
  | .inappropriateType _ code _ => s!"Is a directory (os error {code})"
  | e => e.toString

/-- What an action comes to, with its error as text. -/
def attempt {α : Type} (action : IO α) : IO (Except String α) := do
  match ← action.toBaseIO with
  | .ok a => return .ok a
  | .error e => return .error (causeOf e)

/-- Opens the log file of a run, if it has one. -/
def openLog (i : Invocation) (content : Except String ByteArray) :
    IO (Except String (Option IO.FS.Handle)) := do
  match (i.settings content).toOption.bind (·.logging.file) with
  | none => return .ok none
  | some path => attempt do return some (← IO.FS.Handle.mk path .write)

/-- Puts out one thing after the other; the log goes to its file, or to the standard output. -/
def putOut (log : Option IO.FS.Handle) : List Output → IO Unit
  | [] => return ()
  | .print line :: rest => do
    IO.println line
    putOut log rest
  | .log entry :: rest => do
    match log with
    | none => IO.println entry.line.text
    | some file => file.putStrLn entry.toJson.text
    putOut log rest

def runInvocation (i : Invocation) : IO UInt32 := do
  let content ← attempt (IO.FS.readBinFile i.config)
  let log ← openLog i content
  let result := i.run content (fun _ => log.map fun _ => ()) (← IO.getEnv "RUST_LOG")
  putOut (log.toOption.bind id) result.outputs
  if let some failure := result.failure then
    IO.eprintln ("Error: " ++ failure.message)
  return result.exitCode.toUInt32

end FaultTolerance.CommandLine

open FaultTolerance.CommandLine in
def main (args : List String) : IO UInt32 := do
  match Invocation.ofArguments args with
  | .ok i => runInvocation i
  | .error (.help topic) =>
    topic.lines.forM IO.println
    return 0
  | .error .version =>
    IO.println versionText
    return 0
  | .error .misuse =>
    Topic.program.lines.forM IO.eprintln
    return 2
