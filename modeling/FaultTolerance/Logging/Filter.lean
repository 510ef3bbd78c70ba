import FaultTolerance.Logging.Directive
import FaultTolerance.Text.Lowercase

/-!
Which log lines are shown.

A filter is a list of directives. Of the directives that match a line the one with the longest
target decides; a line that none matches is not shown.

The text of a filter is its directives with commas between them. The environment may give such a
text; one that cannot be read counts as not given, and then the log settings decide.
-/

namespace FaultTolerance

/-- A filter keeps directives that can decide about a line by themselves apart from those that
depend on what happens around it. -/
structure LogFilter where
  statics : List LogDirective := []
  dynamics : List LogDirective := []
  deriving DecidableEq, Repr

namespace LogFilter

/-- Adds a directive, in the place of an earlier one about the same. -/
def insert (d : LogDirective) (directives : List LogDirective) : List LogDirective :=
  directives.filter (!d.hasSameSubject ·) ++ [d]

/-- A filter of directives, the later ones before the earlier ones about the same. -/
def ofDirectives (directives : List LogDirective) : LogFilter where
  statics := (directives.filter (·.isStatic)).foldl (fun ds d => insert d ds) []
  dynamics := (directives.filter (·.isDynamic)).foldl (fun ds d => insert d ds) []

/-- Reads a filter. Nothing between two commas is no directive. -/
def ofText? (s : String) : Option LogFilter :=
  (((s.splitOn ",").filter (!·.isEmpty)).mapM LogDirective.ofText?).map ofDirectives

/-- The parts of the program that log settings are about. -/
def programTargets : List String := ["bulwark", "bulwark_core_resilience"]

def ofSettings (s : LogSettings) : LogFilter :=
  let limit := if s.verbose then .debug else s.level
  ofDirectives
    (programTargets.map fun target => { target := some target, limit := some limit })

/-- The filter that the environment gives, or else the one of the settings. -/
def choose (environment : Option String) (s : LogSettings) : LogFilter :=
  (environment.bind ofText?).getD (ofSettings s)

def text (f : LogFilter) : String :=
  ",".intercalate ((f.statics ++ f.dynamics).map LogDirective.text)

/-- The parts of a filter's text in small letters and in ascending order. -/
def summary (f : LogFilter) : List String :=
  ((Text.lowercase f.text).splitOn ",").mergeSort fun a b => decide (a ≤ b)

/-- The directive that decides about a line. -/
def deciding? (f : LogFilter) (l : LogLine) : Option LogDirective :=
  (f.statics.filter (·.isAbout l)).foldl
    (fun best d =>
      match best with
      | none => some d
      | some b => if b.narrowness < d.narrowness then some d else some b)
    none

def shows (f : LogFilter) (l : LogLine) : Bool := (f.deciding? l).any (·.lets l)

end LogFilter

end FaultTolerance
