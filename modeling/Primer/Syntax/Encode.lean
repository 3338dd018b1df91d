import Primer.Syntax.Names
import Primer.Json.Printer

/-!
# Programs as JSON

A variant is an object with its name as the only key, or the name alone if it has no content. A
record is an object with every field present. The types on expressions are left out.
-/

namespace Primer

def Json.variant (name : String) (content : Json) : Json := .obj [(name, content)]

/-- A variant whose content is a record. -/
def Json.variantOf (name : String) (fields : List (String × Json)) : Json :=
  .variant name (.obj fields)

mutual
def Expr.toJson : Expr → Json
  | .lit _ raw => .variant "Literal" (.str raw)
  | .var _ name => .variant "Var" (.str name)
  | .binary _ op left right => .variantOf "Binary"
    [("op", .str op.name), ("left", left.toJson), ("right", right.toJson)]
  | .unary _ op operand => .variantOf "Unary"
    [("op", .str op.name), ("operand", operand.toJson)]
  | .step _ name op fixity => .variantOf "Step"
    [("name", .str name), ("op", .str op.name), ("fixity", .str fixity.name)]
  | .arrayOf _ elems => .variant "ArrayLiteral" (.arr (Expr.toJsonAll elems))
  | .newArray _ elem size => .variantOf "ArrayNew"
    [("elem_ty", .str elem), ("size", size.toJson)]
  | .index _ name idx => .variantOf "Index" [("name", .str name), ("index", idx.toJson)]
  | .length _ name => .variant "Length" (.str name)
  | .pop _ name => .variant "Pop" (.str name)

def Expr.toJsonAll : List Expr → List Json
  | [] => []
  | e :: rest => e.toJson :: Expr.toJsonAll rest
end

def Json.ofOption {α : Type} (write : α → Json) : Option α → Json
  | none => .null
  | some a => write a

def DisplayItem.toJson : DisplayItem → Json
  | .expr e => .variant "Expr" e.toJson
  | .named name => .variant "Variable" (.str name)
  | .literal raw => .variant "Literal" (.str raw)

def Action.toJson : Action → Json
  | .declare ty name init => .variantOf "VarDecl"
    [("ty", .str ty), ("name", .str name), ("init", .ofOption Expr.toJson init)]
  | .assign name op value => .variantOf "Assign"
    [("name", .str name), ("op", .str op.name), ("value", value.toJson)]
  | .display item newline => .variantOf "Display"
    [("item", .ofOption DisplayItem.toJson item), ("newline", .bool newline)]
  | .displayAll items newline => .variantOf "MultiDisplay"
    [("items", .arr (items.map DisplayItem.toJson)), ("newline", .bool newline)]
  | .input name => .variantOf "Input" [("name", .str name)]
  | .declareArray elem name init => .variantOf "ArrayDecl"
    [("elem_ty", .str elem), ("name", .str name), ("init", .ofOption Expr.toJson init)]
  | .assignArray name value => .variantOf "ArrayAssign"
    [("name", .str name), ("value", value.toJson)]
  | .assignElement name idx op value => .variantOf "ElementAssign"
    [("name", .str name), ("index", idx.toJson), ("op", .str op.name), ("value", value.toJson)]
  | .inputElement name idx => .variantOf "ElementInput"
    [("name", .str name), ("index", idx.toJson)]
  | .push name value => .variantOf "Push" [("name", .str name), ("value", value.toJson)]
  | .set name idx value => .variantOf "Set"
    [("name", .str name), ("index", idx.toJson), ("value", value.toJson)]
  | .evaluate e => .variant "Expr" e.toJson

def Line.toJson (line : Line) : Json := .ofNat line.toNat

/-- The record of a statement: what it is, and its line. -/
def Json.statement (kind : Json) (line : Option Line) : Json :=
  .obj [("kind", kind), ("line", .ofOption Line.toJson line)]

mutual
def Stmt.toJson : Stmt → Json
  | .action line a => .statement a.toJson line
  | .jump line j => .statement (.str j.name) line
  | .branch line cond body elseIfs otherwise => .statement (.variantOf "If"
    [("cond", cond.toJson), ("body", .arr (Stmt.toJsonAll body)),
      ("else_ifs", .arr (Stmt.toJsonArms "cond" elseIfs)),
      ("else_body", Stmt.toJsonBody otherwise)]) line
  | .loop line init cond update body => .statement (.variantOf "Loop"
    [("init", Stmt.toJsonOf init), ("cond", cond.toJson), ("update", Stmt.toJsonOf update),
      ("body", .arr (Stmt.toJsonAll body))]) line
  | .doWhile line body cond => .statement (.variantOf "DoWhile"
    [("body", .arr (Stmt.toJsonAll body)), ("cond", cond.toJson)]) line
  | .switch line scrutinee cases fallback => .statement (.variantOf "Switch"
    [("scrutinee", scrutinee.toJson), ("cases", .arr (Stmt.toJsonArms "value" cases)),
      ("default", Stmt.toJsonBody fallback)]) line

def Stmt.toJsonOf : Option Stmt → Json
  | none => .null
  | some s => s.toJson

def Stmt.toJsonAll : List Stmt → List Json
  | [] => []
  | s :: rest => s.toJson :: Stmt.toJsonAll rest

/-- The written forms of conditions or case values with their bodies, under the given key. -/
def Stmt.toJsonArms (key : String) : List (Expr × List Stmt) → List Json
  | [] => []
  | (e, body) :: rest =>
    .obj [(key, e.toJson), ("body", .arr (Stmt.toJsonAll body))] :: Stmt.toJsonArms key rest

def Stmt.toJsonBody : Option (List Stmt) → Json
  | none => .null
  | some body => .arr (Stmt.toJsonAll body)
end

def Program.toJson (p : Program) : Json := .obj [("stmts", .arr (Stmt.toJsonAll p.stmts))]

def Program.render (p : Program) : String := p.toJson.render

end Primer
