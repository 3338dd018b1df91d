import Primer.Ty
import Primer.Operator

/-!
# Programs

Expressions carry the type that the last check found for them, `Ty.unknown` before any. Statements
are split into actions, which hold no other statement, and the forms that direct control. Every
statement may know the source line on which it stands.
-/

namespace Primer

/-- A source line. -/
abbrev Line := UInt32

/-! ## Expressions -/

/-- Expressions; the first field of each is the type that the last check found. -/
inductive Expr where
  /-- A literal as it was written, quotes included. -/
  | lit (ty : Ty) (raw : String)
  /-- The value of a name. -/
  | var (ty : Ty) (name : String)
  /-- An operator on two operands, both of which are always evaluated. -/
  | binary (ty : Ty) (op : BinaryOp) (left right : Expr)
  /-- An operator on one operand. -/
  | unary (ty : Ty) (op : UnaryOp) (operand : Expr)
  /-- A step of a number variable, before or after its value is taken. -/
  | step (ty : Ty) (name : String) (op : StepOp) (fixity : Fixity)
  /-- An array of the listed elements. -/
  | arrayOf (ty : Ty) (elems : List Expr)
  /-- An array of the given size, filled with the default of a type named by its keyword. -/
  | newArray (ty : Ty) (elem : String) (size : Expr)
  /-- An element of an array. -/
  | index (ty : Ty) (name : String) (idx : Expr)
  /-- The length of an array. -/
  | length (ty : Ty) (name : String)
  /-- The last element of an array, which is removed. -/
  | pop (ty : Ty) (name : String)

namespace Expr

/-- The type that the last check found. -/
def ty : Expr → Ty
  | lit ty _ | var ty _ | binary ty _ _ _ | unary ty _ _ | step ty _ _ _ => ty
  | arrayOf ty _ | newArray ty _ _ | index ty _ _ | length ty _ | pop ty _ => ty

mutual
/-- The types of the expression and its parts, an expression before its operands. -/
def types : Expr → List Ty
  | lit ty _ | var ty _ | step ty _ _ _ | length ty _ | pop ty _ => [ty]
  | binary ty _ left right => ty :: (types left ++ types right)
  | unary ty _ operand => ty :: types operand
  | arrayOf ty elems => ty :: typesAll elems
  | newArray ty _ size => ty :: types size
  | index ty _ i => ty :: types i

def typesAll : List Expr → List Ty
  | [] => []
  | e :: rest => types e ++ typesAll rest
end

end Expr

/-! ## Statements -/

/-- What a display statement shows. -/
inductive DisplayItem where
  | expr (e : Expr)
  | named (name : String)
  /-- A quoted literal, shown without its quotes. -/
  | literal (raw : String)

/-- Statements that hold no other statement and let control pass to the next one. -/
inductive Action where
  /-- Declares a variable whose type is named by its keyword. -/
  | declare (ty name : String) (init : Option Expr)
  | assign (name : String) (op : AssignOp) (value : Expr)
  | display (item : Option DisplayItem) (newline : Bool)
  /-- Shows several items with single spaces between them. -/
  | displayAll (items : List DisplayItem) (newline : Bool)
  | input (name : String)
  /-- Declares an array whose element type is named by its keyword. -/
  | declareArray (elem name : String) (init : Option Expr)
  | assignArray (name : String) (value : Expr)
  | assignElement (name : String) (idx : Expr) (op : AssignOp) (value : Expr)
  | inputElement (name : String) (idx : Expr)
  | push (name : String) (value : Expr)
  | set (name : String) (idx : Expr) (value : Expr)
  /-- Evaluates an expression for what it does. -/
  | evaluate (e : Expr)

/-- Jumps out of the body of the innermost loop. -/
inductive Jump where
  /-- Leaves the loop. -/
  | breakLoop
  /-- Goes on with the next round. -/
  | continueLoop
deriving DecidableEq

inductive Stmt where
  | action (line : Option Line) (action : Action)
  | jump (line : Option Line) (jump : Jump)
  /-- A condition with its body, further conditions with theirs, and a body for when none holds. -/
  | branch (line : Option Line) (cond : Expr) (body : List Stmt)
      (elseIfs : List (Expr × List Stmt)) (otherwise : Option (List Stmt))
  /-- A loop with a statement before its first round and one after each round. -/
  | loop (line : Option Line) (init : Option Stmt) (cond : Expr) (update : Option Stmt)
      (body : List Stmt)
  /-- A loop whose condition is asked after each round. -/
  | doWhile (line : Option Line) (body : List Stmt) (cond : Expr)
  /-- A value, the cases it may meet with their bodies, and a body for when it meets none. -/
  | switch (line : Option Line) (scrutinee : Expr) (cases : List (Expr × List Stmt))
      (fallback : Option (List Stmt))

namespace Stmt

def line : Stmt → Option Line
  | action line _ | jump line _ | branch line _ _ _ _ => line
  | loop line _ _ _ _ | doWhile line _ _ | switch line _ _ _ => line

def atLine (line : Line) : Stmt → Stmt
  | action _ a => action line a
  | jump _ j => jump line j
  | branch _ cond body elseIfs otherwise => branch line cond body elseIfs otherwise
  | loop _ init cond update body => loop line init cond update body
  | doWhile _ body cond => doWhile line body cond
  | switch _ scrutinee cases fallback => switch line scrutinee cases fallback

end Stmt

/-- A program: its statements in source order. -/
structure Program where
  stmts : List Stmt

/-! ## The types on a program -/

def Expr.typesOf : Option Expr → List Ty
  | none => []
  | some e => e.types

def DisplayItem.types : DisplayItem → List Ty
  | .expr e => e.types
  | _ => []

def Action.types : Action → List Ty
  | .declare _ _ init | .declareArray _ _ init => Expr.typesOf init
  | .assign _ _ value | .assignArray _ value | .push _ value => value.types
  | .display item _ => item.toList.flatMap DisplayItem.types
  | .displayAll items _ => items.flatMap DisplayItem.types
  | .input _ => []
  | .assignElement _ i _ value | .set _ i value => i.types ++ value.types
  | .inputElement _ i => i.types
  | .evaluate e => e.types

namespace Stmt

mutual
/-- The types on the expressions of a statement, in the order in which it is written down. -/
def types : Stmt → List Ty
  | action _ a => a.types
  | jump _ _ => []
  | branch _ cond body elseIfs otherwise =>
    cond.types ++ typesAll body ++ typesArms elseIfs ++ typesBody otherwise
  | loop _ init cond update body =>
    typesOf init ++ cond.types ++ typesOf update ++ typesAll body
  | doWhile _ body cond => typesAll body ++ cond.types
  | switch _ scrutinee cases fallback =>
    scrutinee.types ++ typesArms cases ++ typesBody fallback

def typesOf : Option Stmt → List Ty
  | none => []
  | some s => types s

def typesAll : List Stmt → List Ty
  | [] => []
  | s :: rest => types s ++ typesAll rest

def typesArms : List (Expr × List Stmt) → List Ty
  | [] => []
  | (e, body) :: rest => e.types ++ typesAll body ++ typesArms rest

def typesBody : Option (List Stmt) → List Ty
  | none => []
  | some body => typesAll body
end

end Stmt

def Program.types (p : Program) : List Ty := Stmt.typesAll p.stmts

end Primer
