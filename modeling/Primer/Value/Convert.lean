import Primer.Value.Basic
import Primer.Literal
import Primer.Numeric.Arithmetic
import Primer.Failure

/-!
# Conversions

How a value is read as a number or a truth value, how it is fitted to a variable or an array
element, and how a literal is evaluated. A letter converts to a number through its digit; a sentence
converts if its text is a numeral or a truth value, which input can bring about.
-/

namespace Primer

namespace Scalar

def toNumber : Scalar → Except Fault Float
  | number n => .ok n
  | letter c =>
    match Numeric.ofDigit? c with
    | some n => .ok n
    | none => .error (.conversion ("'" ++ String.singleton c ++ "'") .number)
  | sentence s =>
    if Literal.isNumeral (Text.trim s) then
      match Numeric.read? (Text.trim s) with
      | some n => .ok n
      | none => .error (.conversion ("\"" ++ s ++ "\"") .number)
    else .error (.conversion s .number)
  | logic b => .error (.conversion (logicText b) .number)

def toLogic : Scalar → Except Fault Bool
  | logic b => .ok b
  | sentence s =>
    match Literal.truth? (Text.trim s) with
    | some b => .ok b
    | none => .error (.conversion s .logic)
  | v => .error (.conversion v.text .logic)

def ofLiteral (raw : String) : Except Fault Scalar :=
  let body := Text.trim raw
  match Literal.truth? body with
  | some b => .ok (logic b)
  | none =>
    if Literal.isNumeral body then
      match Numeric.read? body with
      | some n => .ok (number n)
      | none => .error (.conversion body .number)
    else
      match Literal.between? '\'' body.toList, Literal.between? '"' body.toList with
      | some [c], _ => .ok (letter c)
      | _, some cs => .ok (sentence (String.ofList cs))
      | _, _ => .error (.typeMismatch "literal" body)

end Scalar

namespace Value

def toNumber : Value → Except Fault Float
  | scalar v => v.toNumber
  | array a => .error (.conversion a.text .number)

def toLogic : Value → Except Fault Bool
  | scalar v => v.toLogic
  | array a => .error (.conversion a.text .logic)

/-- The value as a variable of the given type stores it. -/
def coerce (target : Primitive) (v : Value) : Except Fault Scalar :=
  match target, v with
  | .number, v => v.toNumber.map .number
  | .logic, v => v.toLogic.map .logic
  | .letter, scalar (.letter c) => .ok (.letter c)
  | .sentence, scalar (.sentence s) => .ok (.sentence s)
  | .sentence, scalar (.letter c) => .ok (.sentence (String.singleton c))
  | target, v => .error (.typeMismatch target.text v.ty.text)

/-- The value as an array of the given element type stores it. A sentence of one character is a
letter, and every value has a text. -/
def coerceElement (elem : Primitive) (v : Value) : Except Fault Scalar :=
  match elem, v with
  | .number, v =>
    match v.toNumber with
    | .ok n => .ok (.number n)
    | .error _ => .error (.badElement elem v.text)
  | .logic, v =>
    match v.toLogic with
    | .ok b => .ok (.logic b)
    | .error _ => .error (.badElement elem v.text)
  | .letter, scalar (.letter c) => .ok (.letter c)
  | .letter, scalar (.sentence s) =>
    match s.toList with
    | [c] => .ok (.letter c)
    | _ => .error (.badElement elem s)
  | .letter, v => .error (.badElement elem v.text)
  | .sentence, v => .ok (.sentence v.text)

end Value

end Primer
