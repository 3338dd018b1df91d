import Primer.Ty
import Primer.Numeric.Render

/-!
# Values

A value is a scalar or an array of scalars. What a program shows of a value is its text: the
canonical text of a number, a letter or a sentence without quotes, and an array in brackets with
quotes around its texts.
-/

namespace Primer

inductive Scalar where
  | number (n : Float)
  | letter (c : Char)
  | sentence (s : String)
  | logic (b : Bool)

namespace Scalar

def primitive : Scalar → Primitive
  | number _ => .number
  | letter _ => .letter
  | sentence _ => .sentence
  | logic _ => .logic

/-- The value of a variable that is declared without one. -/
def default : Primitive → Scalar
  | .number => number 0.0
  | .letter => letter ' '
  | .sentence => sentence ""
  | .logic => logic false

/-- A truth value as it is written. -/
def logicText (b : Bool) : String := if b then "true" else "false"

/-- The value as a program shows it. -/
def text : Scalar → String
  | number n => Numeric.text n
  | letter c => String.singleton c
  | sentence s => s
  | logic b => logicText b

/-- The value as it stands in the text of an array. -/
def itemText : Scalar → String
  | letter c => "'" ++ String.singleton c ++ "'"
  | sentence s => "\"" ++ s ++ "\""
  | v => v.text

end Scalar

/-- An element type and a sequence of elements. -/
structure ArrayValue where
  elem : Primitive
  items : Array Scalar

namespace ArrayValue

def empty (elem : Primitive) : ArrayValue := ⟨elem, #[]⟩

def size (a : ArrayValue) : Nat := a.items.size

/-- The array as a program shows it. -/
def text (a : ArrayValue) : String :=
  "[" ++ ", ".intercalate (a.items.toList.map Scalar.itemText) ++ "]"

end ArrayValue

inductive Value where
  | scalar (v : Scalar)
  | array (a : ArrayValue)

namespace Value

abbrev number (n : Float) : Value := scalar (.number n)

abbrev sentence (s : String) : Value := scalar (.sentence s)

abbrev logic (b : Bool) : Value := scalar (.logic b)

def primitive? : Value → Option Primitive
  | scalar v => some v.primitive
  | array _ => none

def ty : Value → Ty
  | scalar v => .scalar v.primitive
  | array a => .array a.elem

/-- The value as a program shows it. -/
def text : Value → String
  | scalar v => v.text
  | array a => a.text

end Value

end Primer
