/-!
Log levels and log lines.
-/

namespace FaultTolerance

inductive LogLevel where
  | error
  | warn
  | info
  | debug
  | trace
  deriving DecidableEq, Repr, Inhabited

namespace LogLevel

/-- All levels, the most severe first. -/
def all : List LogLevel := [error, warn, info, debug, trace]

def text : LogLevel → String
  | error => "error"
  | warn => "warn"
  | info => "info"
  | debug => "debug"
  | trace => "trace"

def ofText? (s : String) : Option LogLevel := all.find? (·.text = s)

def describe : LogLevel → String
  | error => "Error"
  | warn => "Warn"
  | info => "Info"
  | debug => "Debug"
  | trace => "Trace"

/-- The mark in front of a line. -/
def mark : LogLevel → String
  | error => "ERROR"
  | warn => "WARN"
  | info => "INFO"
  | debug => "DEBUG"
  | trace => "TRACE"

/-- How much a level lets through. -/
def rank : LogLevel → Nat
  | error => 1
  | warn => 2
  | info => 3
  | debug => 4
  | trace => 5

end LogLevel

structure LogLine where
  level : LogLevel
  /-- The part of the program that writes the line. -/
  target : String
  message : String
  deriving DecidableEq, Repr, Inhabited

def LogLine.text (l : LogLine) : String := l.level.mark ++ " " ++ l.target ++ ": " ++ l.message

/-- What the program is told about its log. -/
structure LogSettings where
  level : LogLevel := .info
  /-- The log file; without one the log goes to the standard output. -/
  file : Option String := none
  /-- Sets the level to `debug`, whatever `level` says. -/
  verbose : Bool := false
  deriving DecidableEq, Repr, Inhabited

end FaultTolerance
