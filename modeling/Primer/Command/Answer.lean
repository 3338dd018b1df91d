import Primer.Command.Basic
import Primer.Diagnostic.Report
import Primer.Run.Exec
import Primer.Syntax.Decode

/-!
# What a command answers

The answer of a command is what it writes and the status that it ends with. It depends on the
texts of the files and of the input and on nothing else.
-/

namespace Primer

/-- What a command leaves behind. -/
structure Answer where
  exitCode : Nat
  stdout : String
  stderr : String
deriving DecidableEq

namespace Answer

/-- An answer on the error channel alone. -/
def complaint (exitCode : Nat) (stderr : String) : Answer := ⟨exitCode, "", stderr⟩

end Answer

/-! ## Usage -/

/-- The lines of a text, each ended. -/
def endedLines (lines : List String) : String := String.join (lines.map ended)

/-- The overview of the commands. -/
def usage : String := endedLines
  ["CustomLang driver", "", "Usage: clc <command> [options]", "", "Commands:",
    "  run <program.json>     Validate, then execute",
    "      --no-prompt        Read input without writing prompts",
    "      --quiet-warnings   Drop input coercion warnings",
    "  check <program.json>   Validate only",
    "  help                   Show this message",
    "  version                Show the version", "",
    "Set RUST_LOG (e.g. RUST_LOG=cl_eval=debug) for tracing output."]

def runUsage : String := "Usage: clc run <program.json> [--no-prompt] [--quiet-warnings]"

def checkUsage : String := "Usage: clc check <program.json>"

/-- The version that is told. -/
def versionText : String := "clc 0.1.0-alpha.8"

/-- What is told about a misuse. -/
def Misuse.text : Misuse → String
  | noCommand => usage
  | unknownCommand name => endedLines ["error: unknown command '" ++ name ++ "'", ""] ++ usage
  | badOption fault => endedLines ["error: " ++ fault.message, runUsage]
  | runWithoutPath => endedLines ["error: missing file path", runUsage]
  | checkWithoutPath => ended checkUsage

/-! ## Programs from files -/

/-- Why a file yields no program. -/
inductive LoadFault where
  /-- The file cannot be read, for the reason given. -/
  | unreadable (path reason : String)
  /-- The text of the file writes no program. -/
  | malformed (path : String)
deriving DecidableEq

def LoadFault.message : LoadFault → String
  | unreadable path reason => "cannot read '" ++ path ++ "': " ++ reason
  | malformed path => "'" ++ path ++ "' is not a valid program: unexpected content"

/-- The program in a file, given the text of the file or the reason why it cannot be read. -/
def Program.load (path : String) : Except String String → Except LoadFault Program
  | .error reason => .error (.unreadable path reason)
  | .ok text =>
    match Program.parse? text with
    | some p => .ok p
    | none => .error (.malformed path)

/-! ## Answers -/

namespace Answer

/-- The answer if a program cannot be loaded. -/
def ofLoadFault (fault : LoadFault) : Answer := complaint 1 (ended ("error: " ++ fault.message))

def ofCheck (path : String) (p : Program) : Answer :=
  if p.diagnostics.isEmpty then ⟨0, ended ("OK: " ++ path), ""⟩
  else complaint 1 (plainText p.diagnostics)

/-- What a run writes behind its output. -/
def reportOf : Outcome → String
  | .refused ds => reportText ds
  | _ => ""

/-- What a run writes behind its warnings. -/
def failureOf : Outcome → String
  | .failed f => ended ("Runtime error: " ++ f.text)
  | .outOfRounds => ended "Undecided: a loop reached its limit of rounds"
  | _ => ""

/-- The answer of a run that reads a text. -/
def ofRun (settings : Settings) (p : Program) (input : String) : Answer :=
  let (outcome, m) := p.run settings ampleLimit (.onInput input)
  ⟨outcome.exitCode, m.console.output ++ reportOf outcome,
    endedLines m.console.warnings ++ failureOf outcome⟩

/-- The answer of a command that wants no program. -/
def ofMisuse (m : Misuse) : Answer := complaint 1 m.text

end Answer

/-- The answer of a command, given the texts of files and of the input. -/
def Command.answer (read : String → Except String String) (input : String) : Command → Answer
  | run path settings =>
    match Program.load path (read path) with
    | .error fault => .ofLoadFault fault
    | .ok p => .ofRun settings p input
  | check path =>
    match Program.load path (read path) with
    | .error fault => .ofLoadFault fault
    | .ok p => .ofCheck path p
  | help => .complaint 0 usage
  | version => ⟨0, ended versionText, ""⟩

/-- The answer to a command line. -/
def answer (read : String → Except String String) (input : String) (args : List String) : Answer :=
  match Command.ofArgs args with
  | .error m => .ofMisuse m
  | .ok c => c.answer read input

end Primer
