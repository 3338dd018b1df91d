import Primer.Syntax

/-!
# Diagnostics

What the check of a program reports: a stable code, a message, and the line of the statement where
the problem was found.
-/

namespace Primer

/-- Codes of diagnostics. A code groups related problems. -/
inductive Code where
  /-- An invalid type or name in a declaration, or a name declared twice. -/
  | declaration
  /-- A name that is not declared. -/
  | undefined
  /-- An operator on operands of the wrong type. -/
  | operand
  /-- A value of another type than its place. -/
  | mismatch
  /-- A name used before it has a value. -/
  | uninitialized
  /-- A malformed literal. -/
  | literal
  /-- A condition that is no truth value. -/
  | condition
  /-- The condition of a loop that is no truth value. -/
  | loopCondition
  /-- A jump outside a loop. -/
  | jump
  /-- A switch without a body. -/
  | emptySwitch
  /-- A case of another type than the switched value. -/
  | caseType
  /-- A name in a display or an input that is not declared. -/
  | inputOutput
  /-- A display with nothing to show. -/
  | emptyDisplay
  /-- An invalid type or name of an array, or an array declared twice. -/
  | arrayDeclaration
  /-- A name that is not declared as an array. -/
  | notArray
  /-- An index or a size that is no number. -/
  | arrayIndex
  /-- An element of the wrong type. -/
  | arrayElement
deriving DecidableEq

namespace Code

/-- Every code, in the order of the numbers. -/
def all : List Code :=
  [.declaration, .undefined, .operand, .mismatch, .uninitialized, .literal, .condition,
    .loopCondition, .jump, .emptySwitch, .caseType, .inputOutput, .emptyDisplay,
    .arrayDeclaration, .notArray, .arrayIndex, .arrayElement]

def text : Code → String
  | .declaration => "SEM001"
  | .undefined => "SEM002"
  | .operand => "SEM003"
  | .mismatch => "SEM004"
  | .uninitialized => "SEM005"
  | .literal => "SEM006"
  | .condition => "SEM008"
  | .loopCondition => "SEM010"
  | .jump => "SEM012"
  | .emptySwitch => "SEM013"
  | .caseType => "SEM014"
  | .inputOutput => "SEM016"
  | .emptyDisplay => "SEM017"
  | .arrayDeclaration => "SEM020"
  | .notArray => "SEM021"
  | .arrayIndex => "SEM023"
  | .arrayElement => "SEM024"

def ofText? (s : String) : Option Code := all.find? (·.text == s)

/-- Whether the code belongs to the checks on arrays. -/
def isArray : Code → Bool
  | .arrayDeclaration | .notArray | .arrayIndex | .arrayElement => true
  | _ => false

/-- Whether the code belongs to the checks on control and on input and output. -/
def isStatement : Code → Bool
  | .condition | .loopCondition | .jump | .emptySwitch | .caseType | .inputOutput
  | .emptyDisplay => true
  | _ => false

end Code

/-- A reported problem. -/
structure Diagnostic where
  code : Code
  message : String
  line : Option Line
deriving DecidableEq

namespace Diagnostic

/-- A line that is known; line 0 stands for none. -/
def knownLine : Option Line → Option Line
  | some 0 => none
  | line => line

def withLine (d : Diagnostic) (line : Option Line) : Diagnostic := { d with line := knownLine line }

/-- The line in front of a text, if there is one. -/
def lineText : Option Line → String
  | some line => "Line " ++ toString line.toNat ++ ": "
  | none => ""

def text (d : Diagnostic) : String := lineText d.line ++ d.code.text ++ ": " ++ d.message

end Diagnostic

end Primer
