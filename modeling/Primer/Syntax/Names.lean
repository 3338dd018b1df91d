import Primer.Syntax

/-!
# Names in written programs

The names under which operators stand in a written program, and the look-up of the operator that a
name belongs to.
-/

namespace Primer

namespace BinaryOp

def all : List BinaryOp :=
  [.arith .add, .arith .sub, .arith .mul, .arith .div, .arith .mod, .order .less, .order .lessEq,
    .order .greater, .order .greaterEq, .equal, .notEqual, .logic .and, .logic .or]

def name : BinaryOp → String
  | .arith .add => "Add"
  | .arith .sub => "Sub"
  | .arith .mul => "Mul"
  | .arith .div => "Div"
  | .arith .mod => "Mod"
  | .order .less => "Lt"
  | .order .lessEq => "LtEq"
  | .order .greater => "Gt"
  | .order .greaterEq => "GtEq"
  | .equal => "Eq"
  | .notEqual => "NotEq"
  | .logic .and => "And"
  | .logic .or => "Or"

def ofName? (s : String) : Option BinaryOp := all.find? (·.name == s)

end BinaryOp

namespace UnaryOp

def all : List UnaryOp := [.not, .plus, .neg]

def name : UnaryOp → String
  | .not => "Not"
  | .plus => "Plus"
  | .neg => "Neg"

def ofName? (s : String) : Option UnaryOp := all.find? (·.name == s)

end UnaryOp

namespace AssignOp

def all : List AssignOp :=
  [.plain, .compound .add, .compound .sub, .compound .mul, .compound .div, .compound .mod]

def name : AssignOp → String
  | .plain => "Assign"
  | .compound op => (BinaryOp.arith op).name

def ofName? (s : String) : Option AssignOp := all.find? (·.name == s)

end AssignOp

namespace StepOp

def all : List StepOp := [.inc, .dec]

def name : StepOp → String
  | .inc => "Inc"
  | .dec => "Dec"

def ofName? (s : String) : Option StepOp := all.find? (·.name == s)

end StepOp

namespace Fixity

def all : List Fixity := [.pre, .post]

def name : Fixity → String
  | .pre => "Pre"
  | .post => "Post"

def ofName? (s : String) : Option Fixity := all.find? (·.name == s)

end Fixity

def Jump.name : Jump → String
  | .breakLoop => "Break"
  | .continueLoop => "Continue"

def Jump.ofName? (s : String) : Option Jump := [Jump.breakLoop, .continueLoop].find? (·.name == s)

end Primer
