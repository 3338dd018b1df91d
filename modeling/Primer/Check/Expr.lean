import Primer.Scope
import Primer.Diagnostic.Problem
import Primer.Syntax

/-!
# Typing expressions

The check of an expression finds its type, writes it on the expression and lists the problems in it.
It reads the scopes and changes nothing in them. The operator of an expression is judged only if its
operands have no problem, so that a fault is reported once.
-/

namespace Primer

/-- What a check makes of a piece of syntax, with the problems in it. -/
structure Checked (α : Type) where
  result : α
  problems : List Problem

/-- The type that the check found for an expression. -/
def Checked.ty (c : Checked Expr) : Ty := c.result.ty

/-- Whether the check found no problem and a type. -/
def Checked.isTyped (c : Checked Expr) : Bool := c.problems.isEmpty && !c.ty.isUnknown

/-! ## Names -/

/-- The type of a name whose value is taken, and what is wrong with taking it. -/
def ScopeTree.use (scopes : ScopeTree) (name : String) : Ty × List Problem :=
  match scopes.find? name with
  | none => (.unknown, [.undefinedVariable name])
  | some d => (d.ty, if d.initialized then [] else [.uninitializedVariable name])

/-- The element type of a name that is used as an array, and what is wrong with that use. An array
without a value still has its element type. -/
def ScopeTree.useArray (scopes : ScopeTree) (name : String) : Option Primitive × List Problem :=
  match scopes.find? name with
  | none => (none, [.undefinedArray name])
  | some d =>
    match d.ty.element? with
    | none => (none, [.notArray name])
    | some elem => (some elem, if d.initialized then [] else [.uninitializedArray name])

/-! ## Operators -/

namespace BinaryOp

def resultTy : BinaryOp → Ty
  | .arith _ => .number
  | _ => .logic

/-- What is wrong with operands of these types. -/
def operandProblems (op : BinaryOp) (left right : Ty) : List Problem :=
  match op with
  | .arith _ =>
    if left = .number ∧ right = .number then [] else [.arithmeticOperands op left right]
  | .logic _ =>
    if left = .logic ∧ right = .logic then [] else [.logicalOperands op left right]
  | .order _ =>
    if left = .number ∧ right = .number then [] else [.relationalOperands op left right]
  | .equal | .notEqual =>
    if left.comparable right then [] else [.equalityOperands op left right]

end BinaryOp

namespace UnaryOp

/-- The type of the operator's operand and result. -/
def resultTy : UnaryOp → Ty
  | .not => .logic
  | .plus | .neg => .number

/-- What is wrong with an operand of this type. -/
def operandProblems (op : UnaryOp) (got : Ty) : List Problem :=
  if got = op.resultTy then []
  else match op with
    | .not => [.notOperand got]
    | .plus | .neg => [.signOperand op got]

end UnaryOp

/-- What is wrong with an index of this type; an unknown type has its problem already. -/
def indexProblems (got : Ty) : List Problem :=
  if got = .unknown ∨ got = .number then [] else [.indexType got]

def sizeProblems (got : Ty) : List Problem :=
  if got = .unknown ∨ got = .number then [] else [.sizeType got]

/-! ## Array literals -/

/-- What the check makes of the elements of an array, with the type of the first one that has a
type. -/
structure CheckedElems where
  elems : List Expr
  problems : List Problem
  first : Option Ty

/-- Puts an element in front of those after it. -/
def CheckedElems.cons (c : Checked Expr) (rest : CheckedElems) : CheckedElems :=
  ⟨c.result :: rest.elems, c.problems ++ rest.problems, rest.first⟩

/-- The type of an array literal, given the type of its first element. The hint is the element type
that the context expects, and decides for an empty literal only. -/
def literalTy (hint : Option Primitive) : Option Ty → Ty × List Problem
  | some (.scalar p) => (.array p, [])
  | some ty => (.unknown, [.nestedElements ty])
  | none =>
    match hint with
    | some p => (.array p, [])
    | none => (.unknown, [.untypedEmpty])

/-- An array literal with its type, which is unknown if an element has a problem. -/
def CheckedElems.literal (c : CheckedElems) (hint : Option Primitive) : Checked Expr :=
  if c.problems.isEmpty then
    let (ty, problems) := literalTy hint c.first
    ⟨.arrayOf ty c.elems, problems⟩
  else ⟨.arrayOf .unknown c.elems, c.problems⟩

/-! ## Expressions -/

namespace Expr

mutual
/-- Checks an expression. The hint is the element type that the context expects of an array. -/
def check (scopes : ScopeTree) : Option Primitive → Expr → Checked Expr
  | _, lit _ raw =>
    match Literal.classify raw with
    | .ok ty => ⟨lit ty raw, []⟩
    | .error fault => ⟨lit .unknown raw, [.badLiteral fault raw]⟩
  | _, var _ name =>
    let (ty, problems) := scopes.use name
    ⟨var ty name, problems⟩
  | _, binary _ op left right =>
    let l := check scopes none left
    let r := check scopes none right
    let below := l.problems ++ r.problems
    if l.isTyped && r.isTyped then
      ⟨binary op.resultTy op l.result r.result, op.operandProblems l.ty r.ty⟩
    else ⟨binary .unknown op l.result r.result, below⟩
  | _, unary _ op operand =>
    let c := check scopes none operand
    if c.isTyped then ⟨unary op.resultTy op c.result, op.operandProblems c.ty⟩
    else ⟨unary .unknown op c.result, c.problems⟩
  | _, step _ name op fixity =>
    match scopes.find? name with
    | none => ⟨step .unknown name op fixity, [.undefinedVariable name]⟩
    | some d =>
      let problems :=
        (if d.initialized then [] else [.uninitializedVariable name])
          ++ (if d.ty = .number then [] else [.stepTarget op name d.ty])
      ⟨step .number name op fixity, problems⟩
  | hint, arrayOf _ elems => (checkElems scopes none elems).literal hint
  | _, newArray _ elem size =>
    let p := Primitive.ofName? elem
    let s := check scopes none size
    let ty := match p with
      | some p => .array p
      | none => .unknown
    ⟨newArray ty elem s.result,
      (if p.isSome then [] else [.invalidArrayType elem]) ++ s.problems ++ sizeProblems s.ty⟩
  | _, index _ name idx =>
    match scopes.useArray name with
    | (none, problems) => ⟨index .unknown name idx, problems⟩
    | (some elem, problems) =>
      let i := check scopes none idx
      ⟨index (.scalar elem) name i.result, problems ++ i.problems ++ indexProblems i.ty⟩
  | _, length _ name =>
    match scopes.useArray name with
    | (none, problems) => ⟨length .unknown name, problems⟩
    | (some _, problems) => ⟨length .number name, problems⟩
  | _, pop _ name =>
    match scopes.useArray name with
    | (none, problems) => ⟨pop .unknown name, problems⟩
    | (some elem, problems) => ⟨pop (.scalar elem) name, problems⟩

/-- Checks the elements of an array, all of which have the type of the first; the elements after
one of another type are left alone. -/
def checkElems (scopes : ScopeTree) : Option Ty → List Expr → CheckedElems
  | first, [] => ⟨[], [], first⟩
  | first, e :: rest =>
    let c := check scopes none e
    if c.ty.isUnknown then .cons c (checkElems scopes first rest)
    else match first with
      | none => .cons c (checkElems scopes (some c.ty) rest)
      | some expected =>
        if expected = c.ty then .cons c (checkElems scopes first rest)
        else ⟨c.result :: rest, c.problems ++ [.mixedElements expected c.ty], first⟩
end

end Expr

end Primer
