import Primer.Syntax

/-!
# Building programs

Short constructors for programs that are put together by hand. Expressions have no type yet, and
statements no line.
-/

namespace Primer

/-! ## Expressions -/

namespace Expr

def literal (raw : String) : Expr := lit .unknown raw

def quote (content : String) : Expr := literal ("\"" ++ content ++ "\"")

def letter (c : Char) : Expr := literal ("'" ++ String.singleton c ++ "'")

def named (name : String) : Expr := var .unknown name

def apply (op : BinaryOp) (left right : Expr) : Expr := binary .unknown op left right

def prefixed (op : UnaryOp) (operand : Expr) : Expr := unary .unknown op operand

def stepped (name : String) (op : StepOp) (fixity : Fixity) : Expr := step .unknown name op fixity

def ofElements (elems : List Expr) : Expr := arrayOf .unknown elems

def ofSize (elem : String) (size : Expr) : Expr := newArray .unknown elem size

def element (name : String) (idx : Expr) : Expr := index .unknown name idx

def lengthOf (name : String) : Expr := length .unknown name

def popFrom (name : String) : Expr := pop .unknown name

end Expr

/-! ## Statements -/

namespace Stmt

def perform (a : Action) : Stmt := action none a

/-- A condition with its body and further ones with theirs. -/
def chain (cond : Expr) (body : List Stmt) (elseIfs : List (Expr × List Stmt))
    (otherwise : Option (List Stmt)) : Stmt := branch none cond body elseIfs otherwise

def ifThen (cond : Expr) (body : List Stmt) : Stmt := chain cond body [] none

/-- A condition with its body, and a body for when it does not hold. -/
def ifElse (cond : Expr) (body otherwise : List Stmt) : Stmt := chain cond body [] (some otherwise)

def whileLoop (cond : Expr) (body : List Stmt) : Stmt := loop none none cond none body

/-- A loop with a statement before it and one after each round. -/
def forLoop (init : Stmt) (cond : Expr) (update : Stmt) (body : List Stmt) : Stmt :=
  loop none (some init) cond (some update) body

/-- A loop whose condition is asked after each round. -/
def loopUntil (body : List Stmt) (cond : Expr) : Stmt := doWhile none body cond

def jumping (j : Jump) : Stmt := jump none j

/-- A value with the cases that it may meet. -/
def select (scrutinee : Expr) (cases : List (Expr × List Stmt)) (fallback : Option (List Stmt)) :
    Stmt := switch none scrutinee cases fallback

end Stmt

end Primer
