/-!
# The console

Where a run shows its output and its warnings and finds its input. A recording console keeps what is
written and answers reads from a list of lines, and a silent one drops what is written and has no
input. On the standard streams what is written is passed on, and each read takes one more line off the
text of the input.
-/

namespace Primer

/-! ## Lines of a text -/

/-- A line without the return in front of its end. -/
def dropReturn (line : List Char) : List Char :=
  match line.getLast? with
  | some '\r' => line.dropLast
  | _ => line

/-- The lines of a text, after the characters that are read of the first one, backwards. Each line
ends with a line feed, which is dropped with a return in front of it; what follows the last line
feed is a line as it stands, if there is anything. -/
def linesAfter (read : List Char) : List Char → List (List Char)
  | [] => if read.isEmpty then [] else [read.reverse]
  | '\n' :: rest => dropReturn read.reverse :: linesAfter [] rest
  | c :: rest => linesAfter (c :: read) rest

/-- The lines of a text. -/
def linesOf (text : List Char) : List String := (linesAfter [] text).map String.ofList

/-- The characters up to the first line feed, which is one of them, and those after it. -/
def splitLine (text : List Char) : List Char × List Char :=
  match text.dropWhile (· != '\n') with
  | [] => (text, [])
  | c :: rest => (text.takeWhile (· != '\n') ++ [c], rest)

/-- A line without the line feed that ends it, and without a return in front of that. -/
def trimLine (line : List Char) : List Char :=
  match line.getLast? with
  | some '\n' => dropReturn line.dropLast
  | _ => line

/-! ## Consoles -/

/-- What a recording console holds. -/
structure Transcript where
  output : String
  warnings : List String
  /-- The lines that are not read yet. -/
  input : List String
deriving DecidableEq

/-- What has passed through the standard streams, and what has not yet. -/
structure Streams where
  output : String
  warnings : List String
  /-- The text that is not read yet. -/
  input : List Char
deriving DecidableEq

inductive Console where
  | recording (t : Transcript)
  | standard (s : Streams)
  | silent
deriving DecidableEq

namespace Console

/-- A recording console that answers reads with the lines in order. -/
def scripted (lines : List String) : Console := recording ⟨"", [], lines⟩

/-- The standard streams with a text to read. -/
def onInput (text : String) : Console := standard ⟨"", [], text.toList⟩

def output : Console → String
  | recording t => t.output
  | standard s => s.output
  | silent => ""

def warnings : Console → List String
  | recording t => t.warnings
  | standard s => s.warnings
  | silent => []

def unread : Console → List String
  | recording t => t.input
  | standard s => linesOf s.input
  | silent => []

def print (s : String) : Console → Console
  | recording t => recording { t with output := t.output ++ s }
  | standard t => standard { t with output := t.output ++ s }
  | silent => silent

def printLine (s : String) (c : Console) : Console := c.print (s ++ "\n")

def warn (s : String) : Console → Console
  | recording t => recording { t with warnings := t.warnings ++ [s] }
  | standard t => standard { t with warnings := t.warnings ++ [s] }
  | silent => silent

/-- Reads a line, if there is one left. -/
def readLine : Console → Option String × Console
  | recording ⟨output, warnings, line :: rest⟩ =>
    (some line, recording ⟨output, warnings, rest⟩)
  | standard ⟨output, warnings, c :: text⟩ =>
    let (line, rest) := splitLine (c :: text)
    (some (String.ofList (trimLine line)), standard ⟨output, warnings, rest⟩)
  | c => (none, c)

/-- Forgets what was written, where it was kept. -/
def clear : Console → Console
  | recording t => recording { t with output := "", warnings := [] }
  | standard s => standard s
  | silent => silent

end Console

end Primer
