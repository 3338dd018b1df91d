import Primer.Value.Convert
import Primer.Operator
import Primer.Text.Lowercase

/-!
# Operators on values

Operands are converted first, the left one before the right one. A zero divisor is a fault. Equality
is tolerant for numbers, goes by truth value for truth values, reads a letter against a number as a
digit, and otherwise compares the texts of the values.
-/

namespace Primer

namespace Value

/-- Whether two values count as equal. -/
def looselyEqual (a b : Value) : Bool :=
  match a, b with
  | scalar (.number x), scalar (.number y) => Numeric.near x y
  | scalar (.logic x), scalar (.logic y) => x == y
  | scalar (.number n), scalar (.letter c) | scalar (.letter c), scalar (.number n) =>
    match Numeric.ofDigit? c with
    | some d => Numeric.near d n
    | none => false
  | a, b => a.text == b.text

/-- Whether a case value selects a switched value: as equality does, but sentences are compared
without regard to case. -/
def selects (switched case : Value) : Bool :=
  match switched, case with
  | scalar (.sentence a), scalar (.sentence b) => Text.lower a == Text.lower b
  | scalar (.sentence s), scalar (.letter c) =>
    Text.lower s == String.ofList (Text.lowerChar c)
  | a, b => a.looselyEqual b

end Value

/-! ## Binary operators -/

def ArithOp.apply (op : ArithOp) (a b : Float) : Except Fault Float :=
  match op with
  | .add => .ok (a + b)
  | .sub => .ok (a - b)
  | .mul => .ok (a * b)
  | .div => if b == 0.0 then .error .divisionByZero else .ok (a / b)
  | .mod => if b == 0.0 then .error .moduloByZero else .ok (Numeric.remainder a b)

def OrderOp.apply : OrderOp → Float → Float → Bool
  | .less, a, b => a < b
  | .lessEq, a, b => a ≤ b
  | .greater, a, b => b < a
  | .greaterEq, a, b => b ≤ a

def LogicOp.apply : LogicOp → Bool → Bool → Bool
  | .and, a, b => a && b
  | .or, a, b => a || b

namespace BinaryOp

/-- Applies an arithmetic operator to two numbers; other operators are refused. -/
def onNumbers (op : BinaryOp) (a b : Float) : Except Fault Float :=
  match op with
  | .arith op => op.apply a b
  | op => .error (.typeMismatch "arithmetic operator" op.symbol)

def apply (op : BinaryOp) (left right : Value) : Except Fault Value :=
  match op with
  | .arith op => do
    let a ← left.toNumber
    let b ← right.toNumber
    let n ← op.apply a b
    return .number n
  | .order op => do
    let a ← left.toNumber
    let b ← right.toNumber
    return .logic (op.apply a b)
  | .equal => .ok (.logic (left.looselyEqual right))
  | .notEqual => .ok (.logic (!left.looselyEqual right))
  | .logic op => do
    let a ← left.toLogic
    let b ← right.toLogic
    return .logic (op.apply a b)

end BinaryOp

/-! ## Unary operators -/

def UnaryOp.apply (op : UnaryOp) (v : Value) : Except Fault Value :=
  match op with
  | .not => v.toLogic.map fun b => .logic (!b)
  | .plus => v.toNumber.map .number
  | .neg => v.toNumber.map fun n => .number (-n)

end Primer
