import Primer.Syntax
import Primer.Store
import Primer.Value.Operate

/-!
# Evaluating expressions

An evaluation yields a value or a fault, and in both cases the store after it: a step changes its
variable and a pop its array. Operands are evaluated from left to right, all of them.
-/

namespace Primer

/-- An evaluation: it may end in a fault, and leaves a store either way. -/
abbrev Eval := EStateM Fault Store

namespace Eval

/-- A conversion, which leaves the store alone. -/
def lift {α : Type} : Except Fault α → Eval α
  | .ok a => pure a
  | .error fault => throw fault

def read {α : Type} (look : Store → Except Fault α) : Eval α := do lift (look (← get))

/-- Changes the store; a fault leaves it as it was. -/
def change (update : Store → Except Fault Store) : Eval Unit := do set (← read update)

end Eval

/-- Steps a variable. The value is the new one or the old one, by the position of the operator. -/
def evalStep (name : String) (op : StepOp) (fixity : Fixity) : Eval Value := do
  let v ← Eval.read (·.get name)
  let old ← Eval.lift v.toNumber
  let new := old + op.delta
  Eval.change (·.assign name (.number new))
  return .number (match fixity with
    | .pre => new
    | .post => old)

/-- The element type of an array literal: the one that the check found, or else that of the first
element, or else sentences. -/
def literalElem (ty : Ty) (values : List Value) : Primitive :=
  match ty.element? with
  | some p => p
  | none => ((values.head?).bind Value.primitive?).getD .sentence

namespace Expr

mutual
def eval : Expr → Eval Value
  | lit _ raw => do return .scalar (← Eval.lift (Scalar.ofLiteral raw))
  | var _ name => Eval.read (·.get name)
  | binary _ op left right => do
    let l ← eval left
    let r ← eval right
    Eval.lift (op.apply l r)
  | unary _ op operand => do
    let v ← eval operand
    Eval.lift (op.apply v)
  | step _ name op fixity => evalStep name op fixity
  | arrayOf ty elems => do
    let values ← evalAll elems
    let a ← Eval.lift (ArrayValue.ofValues (literalElem ty values) values)
    return .array a
  | newArray _ elem size =>
    match Primitive.ofName? elem with
    | none => throw (.typeMismatch "array element type" elem)
    | some p => do
      let v ← eval size
      let n ← Eval.lift v.toNumber
      let a ← Eval.lift (ArrayValue.ofSize p n)
      return .array a
  | index _ name idx => do
    let v ← eval idx
    let i ← Eval.lift v.toNumber
    let a ← Eval.read (·.array name)
    return .scalar (← Eval.lift (a.get i))
  | length _ name => do
    let a ← Eval.read (·.array name)
    return .number (Float.ofNat a.size)
  | pop _ name => do return .scalar (← Store.popArray name)

def evalAll : List Expr → Eval (List Value)
  | [] => return []
  | e :: rest => do
    let v ← eval e
    return v :: (← evalAll rest)
end

def evalNumber (e : Expr) : Eval Float := do Eval.lift (← e.eval).toNumber

def evalLogic (e : Expr) : Eval Bool := do Eval.lift (← e.eval).toLogic

end Expr

end Primer
