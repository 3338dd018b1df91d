import Primer.Command.Answer

/-!
# The program

Reads the file that a command names, and the input of a run, and writes the answer.
-/

open Primer

/-- The text of a file, or the reason why it cannot be read. -/
def readText (path : String) : IO (Except String String) := do
  try return .ok (← IO.FS.readFile path)
  catch e => return .error (toString e)

def emitAnswer (a : Answer) : IO UInt32 := do
  IO.print a.stdout
  IO.eprint a.stderr
  return UInt32.ofNat a.exitCode

/-- The answer of a command; the input is read only by a run of a program that can be run. -/
def answerOf : Command → IO Answer
  | .run path settings => do
    match Program.load path (← readText path) with
    | .error fault => return .ofLoadFault fault
    | .ok p =>
      let input ← if p.diagnostics.isEmpty then (← IO.getStdin).readToEnd else pure ""
      return .ofRun settings p input
  | .check path => do
    let text ← readText path
    return (Command.check path).answer (fun _ => text) ""
  | c => return c.answer .ok ""

def main (args : List String) : IO UInt32 := do
  match Command.ofArgs args with
  | .error m => emitAnswer (.ofMisuse m)
  | .ok c => emitAnswer (← answerOf c)
