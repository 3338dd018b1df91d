import Primer.Syntax
import Primer.Diagnostic.Basic
import Primer.Numeric.Render

/-!
# Runtime failures

What ends a run early: the fault, and the line of the statement in which it arose.
-/

namespace Primer

/-- What can go wrong in a run. -/
inductive Fault where
  | divisionByZero
  | moduloByZero
  | undefinedVariable (name : String)
  | notAnArray (name : String)
  | indexOutOfBounds (index : Float)
  | nonIntegerIndex (index : Float)
  | invalidArraySize (size : Float)
  | arrayTooLarge (size : Float)
  | emptyArray
  | nonNumericElement (value : String)
  | invalidLetter (value : String)
  | invalidLogic (value : String)
  | conversion (value : String) (target : Primitive)
  | typeMismatch (expected got : String)
  | numericInputRequired
  | letterInputLength
  | inputClosed
  | breakOutsideLoop
  | continueOutsideLoop

namespace Fault

/-- The fault of a value that does not fit an array of the given element type. -/
def badElement (elem : Primitive) (value : String) : Fault :=
  match elem with
  | .number => nonNumericElement value
  | .letter => invalidLetter value
  | .logic => invalidLogic value
  | .sentence => typeMismatch Primitive.sentence.text value

def message : Fault → String
  | divisionByZero => "Division by zero"
  | moduloByZero => "Modulus by zero"
  | undefinedVariable name => "Undefined variable: " ++ name
  | notAnArray name => "Variable is not an array: " ++ name
  | indexOutOfBounds index => "Array index out of bounds: " ++ Numeric.plainText index
  | nonIntegerIndex index => "Array index must be an integer: " ++ Numeric.plainText index
  | invalidArraySize size =>
    "Array size must be a non-negative integer: " ++ Numeric.plainText size
  | arrayTooLarge size => "Array size too large: " ++ Numeric.plainText size
  | emptyArray => "Cannot pop from an empty array"
  | nonNumericElement value => "Non-numeric value in NUMBER array: " ++ value
  | invalidLetter value => "Invalid LETTER value: " ++ value
  | invalidLogic value => "Invalid LOGIC value: " ++ value
  | conversion value target => "Cannot convert " ++ value ++ " to " ++ target.text
  | typeMismatch expected got => "Type mismatch: expected " ++ expected ++ ", got " ++ got
  | numericInputRequired => "Numeric input required"
  | letterInputLength => "LETTER input must be a single character."
  | inputClosed => "Failed to read input"
  | breakOutsideLoop => "Break statement outside of loop"
  | continueOutsideLoop => "Continue statement outside of loop"

end Fault

/-- The end of a run: a fault and, once it is known, the line of the innermost statement. -/
structure Failure where
  fault : Fault
  line : Option Line

namespace Failure

/-- A fault whose line is not known yet. -/
def of (fault : Fault) : Failure := ⟨fault, none⟩

/-- The failure with a line, unless it has one. -/
def orLine (f : Failure) (line : Option Line) : Failure := { f with line := f.line <|> line }

def text (f : Failure) : String := Diagnostic.lineText f.line ++ f.fault.message

end Failure

end Primer
