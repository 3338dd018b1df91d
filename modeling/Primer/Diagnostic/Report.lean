import Primer.Diagnostic.Basic

/-!
# Reports

Two ways to write diagnostics: the report that explains why a program is not run, with a heading
and a closing notice, and the plain list of one diagnostic per line.
-/

namespace Primer

/-- A line of output. -/
def ended (s : String) : String := s ++ "\n"

/-! ## The full report -/

/-- A report in progress: what is written, and whether its heading is. -/
structure Report where
  headed : Bool
  text : String
deriving DecidableEq

namespace Report

def empty : Report := ⟨false, ""⟩

def heading : String := "=== Semantic Validation Errors ==="

/-- The rule that closes a report. -/
def closing : String := "================================"

/-- The notice under a report. -/
def notice : String := "Execution aborted due to validation errors."

/-- The report with its heading, which is written once. -/
def withHeading (r : Report) : Report :=
  if r.headed then r else ⟨true, r.text ++ ended heading⟩

def line (r : Report) (s : String) : Report := { r with text := r.text ++ ended s }

def emit (r : Report) (d : Diagnostic) : Report := r.withHeading.line d.text

def emitAll (r : Report) (ds : List Diagnostic) : Report := ds.foldl emit r

/-- Adds the count and the notice; nothing if the count is zero. -/
def summarize (r : Report) (count : Nat) : Report :=
  if count = 0 then r
  else ((r.withHeading.line ("Total errors: " ++ toString count)).line closing).line notice

/-- Adds all diagnostics with their summary; nothing if there are none. -/
def complete (r : Report) (ds : List Diagnostic) : Report :=
  if ds.isEmpty then r else (r.emitAll ds).summarize ds.length

end Report

def reportText (ds : List Diagnostic) : String := (Report.empty.complete ds).text

/-! ## The plain list -/

/-- A diagnostic on a line of its own. -/
def plainLine (d : Diagnostic) : String := ended d.text

/-- Diagnostics, each on its line. -/
def plainLines (ds : List Diagnostic) : String := String.join (ds.map plainLine)

/-- The count of the diagnostics; nothing if it is zero. -/
def plainSummary (count : Nat) : String :=
  if count = 0 then ""
  else ended (toString count ++ if count = 1 then " error" else " errors")

/-- The plain list of the diagnostics with their count. -/
def plainText (ds : List Diagnostic) : String := plainLines ds ++ plainSummary ds.length

end Primer
