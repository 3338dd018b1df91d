/-!
# Operators

Binary operators come in four families, which the typing rules and the evaluation treat alike.
-/

namespace Primer

/-- Operators from two numbers to a number. -/
inductive ArithOp where
  | add
  | sub
  | mul
  | div
  | mod
deriving DecidableEq

/-- Operators that compare two numbers by size. -/
inductive OrderOp where
  | less
  | lessEq
  | greater
  | greaterEq
deriving DecidableEq

inductive LogicOp where
  | and
  | or
deriving DecidableEq

inductive BinaryOp where
  | arith (op : ArithOp)
  | order (op : OrderOp)
  | equal
  | notEqual
  | logic (op : LogicOp)
deriving DecidableEq

inductive UnaryOp where
  | not
  | plus
  | neg
deriving DecidableEq

/-- What an assignment does with the value before it stores it. -/
inductive AssignOp where
  | plain
  | compound (op : ArithOp)
deriving DecidableEq

/-- Steps of a number variable. -/
inductive StepOp where
  | inc
  | dec
deriving DecidableEq

/-- Whether a step stands before its variable and yields the new value, or after it and yields the
old one. -/
inductive Fixity where
  | pre
  | post
deriving DecidableEq

/-! ## Symbols -/

def ArithOp.symbol : ArithOp → String
  | .add => "+"
  | .sub => "-"
  | .mul => "*"
  | .div => "/"
  | .mod => "%"

def OrderOp.symbol : OrderOp → String
  | .less => "<"
  | .lessEq => "<="
  | .greater => ">"
  | .greaterEq => ">="

def LogicOp.symbol : LogicOp → String
  | .and => "&&"
  | .or => "||"

namespace BinaryOp

def symbol : BinaryOp → String
  | .arith op => op.symbol
  | .order op => op.symbol
  | .equal => "=="
  | .notEqual => "!="
  | .logic op => op.symbol

def isArithmetic : BinaryOp → Bool
  | .arith _ => true
  | _ => false

def isRelational : BinaryOp → Bool
  | .order _ => true
  | _ => false

def isEquality : BinaryOp → Bool
  | .equal => true
  | .notEqual => true
  | _ => false

def isLogical : BinaryOp → Bool
  | .logic _ => true
  | _ => false

end BinaryOp

def UnaryOp.symbol : UnaryOp → String
  | .not => "!"
  | .plus => "+"
  | .neg => "-"

namespace AssignOp

def symbol : AssignOp → String
  | .plain => "="
  | .compound op => op.symbol ++ "="

/-- The operator that a compound assignment applies. -/
def operator? : AssignOp → Option ArithOp
  | .plain => none
  | .compound op => some op

def isCompound (op : AssignOp) : Bool := op.operator?.isSome

end AssignOp

namespace StepOp

def symbol : StepOp → String
  | .inc => "++"
  | .dec => "--"

def delta : StepOp → Float
  | .inc => 1.0
  | .dec => -1.0

end StepOp

end Primer
