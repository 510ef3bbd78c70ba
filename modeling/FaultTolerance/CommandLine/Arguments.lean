import FaultTolerance.Catalog
import FaultTolerance.Logging.Line

/-!
The arguments of the program.

Arguments are read from left to right, and reading stops at the first one that is wrong or that
asks for a text. Options may stand before and after the command; after the command those of the
command are known too. `--` makes everything behind it an operand. The value of an option follows
it or stands behind an equals sign, and only in the second place may it begin with a dash.
-/

namespace FaultTolerance.CommandLine

/-- What help is about. -/
inductive Topic where
  | program
  | check
  | simulate
  | help
  deriving DecidableEq, Repr

/-- Why there is nothing to run. -/
inductive Stop where
  | help (topic : Topic)
  | version
  /-- The arguments are wrong. -/
  | misuse
  deriving DecidableEq, Repr

/-- What the arguments say about the log. -/
structure LogOptions where
  level : Option LogLevel := none
  file : Option String := none
  verbose : Bool := false
  deriving DecidableEq, Repr, Inhabited

inductive Command where
  /-- Reports every configured instance. -/
  | check
  /-- Drives a breaker with synthetic outcomes, of which every `failEvery`-th is a failure. -/
  | simulate (breaker : String) (retry : Option String) (calls failEvery : Nat)
  deriving DecidableEq, Repr

structure Invocation where
  log : LogOptions
  /-- The settings file. -/
  config : String
  command : Command
  deriving DecidableEq, Repr

/-! ### One level of arguments -/

/-- What a level of arguments knows. -/
structure Level where
  topic : Topic
  /-- The options that take a value, and which values they take. -/
  options : Catalog (String → Bool)

/-- What has been given to a level of arguments. -/
structure Given where
  values : Catalog String := []
  verbose : Bool := false
  operands : List String := []
  deriving DecidableEq, Repr, Inhabited

/-- Whether an argument may be an operand or the value of an option. -/
def isPlain (arg : String) : Bool := !arg.startsWith "-" || arg = "-"

namespace Level

/-- Sets an option, which may be done once. -/
def set (l : Level) (g : Given) (name value : String) : Except Stop Given :=
  match l.options.find? name, g.values.find? name with
  | some accepts, none =>
    if accepts value then .ok { g with values := g.values.put name value } else .error .misuse
  | _, _ => .error .misuse

/-- Sets an option without a value. -/
def mark (l : Level) (g : Given) (name : String) : Except Stop Given :=
  if name = "verbose" && !g.verbose then .ok { g with verbose := true }
  else if name = "help" then .error (.help l.topic)
  else if name = "version" && l.topic = .program then .error .version
  else .error .misuse

/-- The long name of an option of one letter. -/
def longName : Char → String
  | 'v' => "verbose"
  | 'h' => "help"
  | 'V' => "version"
  | _ => ""

/-- Options of one letter behind one dash. -/
def marks (l : Level) (g : Given) (letters : List Char) : Except Stop Given :=
  letters.foldlM (fun g c => l.mark g (longName c)) g

/-- The only operand is the settings file. -/
def operand (g : Given) (arg : String) : Except Stop Given :=
  if g.operands.isEmpty && !arg.isEmpty then .ok { g with operands := [arg] }
  else .error .misuse

/-- An argument that begins with a dash and has the value of an option with it, if it has one. -/
def dashed (l : Level) (g : Given) (arg : String) : Except Stop Given :=
  if arg.startsWith "--" then
    match (String.ofList (arg.toList.drop 2)).splitOn "=" with
    | [name] => l.mark g name
    | name :: value => l.set g name ("=".intercalate value)
    | [] => .error .misuse
  else l.marks g (arg.toList.drop 1)

/-- Whether an argument is an option whose value is the next argument. -/
def wantsValue (l : Level) (arg : String) : Bool :=
  arg.startsWith "--" && (l.options.find? (String.ofList (arg.toList.drop 2))).isSome

/-- Reads all arguments of a command. -/
def read (l : Level) (g : Given) : List String → Except Stop Given
  | [] => .ok g
  | "--" :: rest => rest.foldlM operand g
  | [arg] =>
    if isPlain arg then operand g arg
    else if l.wantsValue arg then .error .misuse
    else l.dashed g arg
  | arg :: next :: rest =>
    if isPlain arg then do l.read (← operand g arg) (next :: rest)
    else if l.wantsValue arg then
      if isPlain next then do
        l.read (← l.set g (String.ofList (arg.toList.drop 2)) next) rest
      else .error .misuse
    else do l.read (← l.dashed g arg) (next :: rest)

/-- Reads arguments up to the name of a command. -/
def readCommand (l : Level) (g : Given) :
    List String → Except Stop (Given × String × List String)
  | [] | "--" :: _ => .error .misuse
  | [arg] =>
    if isPlain arg then .ok (g, arg, [])
    else if l.wantsValue arg then .error .misuse
    else do
      let _ ← l.dashed g arg
      .error .misuse
  | arg :: next :: rest =>
    if isPlain arg then .ok (g, arg, next :: rest)
    else if l.wantsValue arg then
      if isPlain next then do
        l.readCommand (← l.set g (String.ofList (arg.toList.drop 2)) next) rest
      else .error .misuse
    else do l.readCommand (← l.dashed g arg) (next :: rest)

end Level

/-! ### The levels of the program -/

/-- A count of 32 bits, with a sign or without. -/
def countOfText? (s : String) : Option Nat :=
  let (negative, digits) :=
    match s.toList with
    | '-' :: digits => (true, digits)
    | '+' :: digits => (false, digits)
    | digits => (false, digits)
  if digits.isEmpty || !digits.all Char.isDigit then none
  else
    let n := digits.foldl (fun n c => n * 10 + (c.toNat - '0'.toNat)) 0
    if n < 0x100000000 && (!negative || n = 0) then some n else none

def isCount (s : String) : Bool := (countOfText? s).isSome

def isText (_ : String) : Bool := true

def logOptions : Catalog (String → Bool) :=
  [("log-level", fun s => (LogLevel.ofText? s).isSome), ("log", fun s => !s.isEmpty)]

def programLevel : Level := ⟨.program, logOptions⟩

def checkLevel : Level := ⟨.check, logOptions⟩

def simulateLevel : Level :=
  ⟨.simulate, logOptions ++
    [("breaker", isText), ("retry", isText), ("calls", isCount), ("fail-every", isCount)]⟩

/-- What a level says about the log, over what an outer level says. -/
def LogOptions.inside (outer : LogOptions) (g : Given) : LogOptions where
  level := ((g.values.find? "log-level").bind LogLevel.ofText?).or outer.level
  file := (g.values.find? "log").or outer.file
  verbose := g.verbose || outer.verbose

/-- The settings file among what was given. -/
def Given.config (g : Given) : Except Stop String :=
  match g.operands with
  | [config] => .ok config
  | _ => .error .misuse

/-- A count among what was given. -/
def Given.count (g : Given) (name : String) (absent : Nat) : Nat :=
  ((g.values.find? name).bind countOfText?).getD absent

def topicOfName? : String → Option Topic
  | "check" => some .check
  | "simulate" => some .simulate
  | "help" => some .help
  | _ => none

/-- What the `help` command stops with. -/
def helpOn : List String → Stop
  | [] => .help .program
  | [name] => ((topicOfName? name).map Stop.help).getD .misuse
  | _ => .misuse

/-- Reads the arguments of the program. -/
def Invocation.ofArguments (args : List String) : Except Stop Invocation := do
  let (outer, name, rest) ← programLevel.readCommand {} args
  let log : LogOptions := ({} : LogOptions).inside outer
  match topicOfName? name with
  | some .check =>
    let g ← checkLevel.read {} rest
    return { log := log.inside g, config := ← g.config, command := .check }
  | some .simulate =>
    let g ← simulateLevel.read {} rest
    let config ← g.config
    let some breaker := g.values.find? "breaker" | .error .misuse
    let command :=
      .simulate breaker (g.values.find? "retry") (g.count "calls" 100) (g.count "fail-every" 2)
    return { log := log.inside g, config, command }
  | some .help => .error (helpOn rest)
  | _ => .error .misuse

/-! ### Texts -/

def versionText : String := "bulwark 0.1.0"

/-- Lines of two columns. The second column begins two blanks after the longest entry of the
first. -/
def columns (rows : List (String × String)) : List String :=
  let width := (rows.map (·.1.length)).foldl max 0
  rows.map fun (left, right) => "  " ++ left.pushn ' ' (width + 2 - left.length) ++ right

/-- The options that every command has. -/
def commonOptions : List (String × String) :=
  [("    --log-level <LOG_LEVEL>", "Log level (overrides the settings file) " ++
      "[possible values: error, warn, info, debug, trace]"),
    ("    --log <FILE>", "Write JSON logs to this file instead of stdout"),
    ("-v, --verbose", "Enable verbose (debug) output"),
    ("-h, --help", "Print help")]

def configLines : List String :=
  ["", "Arguments:"] ++ columns [("<CONFIG>", "Settings file (TOML)")]

def optionLines (rows : List (String × String)) : List String := ["", "Options:"] ++ columns rows

def helpSummary : String := "Print this message or the help of the given subcommand(s)"

/-- The lines of a help text. -/
def Topic.lines : Topic → List String
  | program =>
    ["In-process fault tolerance: inspect and exercise resilience settings", "",
      "Usage: bulwark [OPTIONS] <COMMAND>", "", "Commands:"] ++
      columns
        [("check", "Load a settings file and report every configured instance"),
          ("simulate", "Drive a configured circuit breaker with synthetic outcomes"),
          ("help", helpSummary)] ++
      optionLines (commonOptions ++ [("-V, --version", "Print version")])
  | check =>
    ["Load a settings file and report every configured instance", "",
      "Usage: bulwark check [OPTIONS] <CONFIG>"] ++ configLines ++
      optionLines commonOptions
  | simulate =>
    ["Drive a configured circuit breaker with synthetic outcomes", "",
      "Usage: bulwark simulate [OPTIONS] --breaker <BREAKER> <CONFIG>"] ++ configLines ++
      optionLines
        ([("    --breaker <BREAKER>", "Circuit breaker instance name"),
          ("    --retry <RETRY>", "Optional retry instance wrapped around the breaker"),
          ("    --calls <CALLS>", "Number of calls to make [default: 100]"),
          ("    --fail-every <FAIL_EVERY>", "Every n-th call fails [default: 2]")] ++ commonOptions)
  | help =>
    [helpSummary, "", "Usage: bulwark help [COMMAND]...", "", "Arguments:"] ++
      columns [("[COMMAND]...", "Print help for the subcommand(s)")]

end FaultTolerance.CommandLine
