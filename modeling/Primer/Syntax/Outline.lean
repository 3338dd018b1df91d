import Primer.Syntax.Names
import Primer.Text.Quoted

/-!
# Outlines

The structure of a program on one line, with the type on every expression and the line of every
statement that has one. Texts are quoted.
-/

namespace Primer

namespace Outline

/-- A variant with its content in parentheses. -/
def variant (name content : String) : String := name ++ "(" ++ content ++ ")"

/-- A record with its fields in braces. -/
def record (name : String) (fields : List (String × String)) : String :=
  name ++ " \x7b " ++ ", ".intercalate (fields.map fun f => f.1 ++ ": " ++ f.2) ++ " \x7d"

def list (items : List String) : String := "[" ++ ", ".intercalate items ++ "]"

def option : Option String → String
  | none => "None"
  | some s => variant "Some" s

def bool (b : Bool) : String := if b then "true" else "false"

end Outline

open Outline Text

mutual
def Expr.outline : Expr → String
  | .lit ty raw => variant "Literal" (quoted raw) ++ " : " ++ ty.text
  | .var ty name => variant "Var" (quoted name) ++ " : " ++ ty.text
  | .binary ty op left right => record "Binary"
    [("op", op.name), ("left", left.outline), ("right", right.outline)] ++ " : " ++ ty.text
  | .unary ty op operand => record "Unary"
    [("op", op.name), ("operand", operand.outline)] ++ " : " ++ ty.text
  | .step ty name op fixity => record "Step"
    [("name", quoted name), ("op", op.name), ("fixity", fixity.name)] ++ " : " ++ ty.text
  | .arrayOf ty elems =>
    variant "ArrayLiteral" (list (Expr.outlines elems)) ++ " : " ++ ty.text
  | .newArray ty elem size => record "ArrayNew"
    [("elem_ty", quoted elem), ("size", size.outline)] ++ " : " ++ ty.text
  | .index ty name idx => record "Index"
    [("name", quoted name), ("index", idx.outline)] ++ " : " ++ ty.text
  | .length ty name => variant "Length" (quoted name) ++ " : " ++ ty.text
  | .pop ty name => variant "Pop" (quoted name) ++ " : " ++ ty.text

def Expr.outlines : List Expr → List String
  | [] => []
  | e :: rest => e.outline :: Expr.outlines rest
end

def DisplayItem.outline : DisplayItem → String
  | .expr e => variant "Expr" e.outline
  | .named name => variant "Variable" (quoted name)
  | .literal raw => variant "Literal" (quoted raw)

def Action.outline : Action → String
  | .declare ty name init => record "VarDecl"
    [("ty", quoted ty), ("name", quoted name), ("init", option (init.map Expr.outline))]
  | .assign name op value => record "Assign"
    [("name", quoted name), ("op", op.name), ("value", value.outline)]
  | .display item newline => record "Display"
    [("item", option (item.map DisplayItem.outline)), ("newline", bool newline)]
  | .displayAll items newline => record "MultiDisplay"
    [("items", list (items.map DisplayItem.outline)), ("newline", bool newline)]
  | .input name => record "Input" [("name", quoted name)]
  | .declareArray elem name init => record "ArrayDecl"
    [("elem_ty", quoted elem), ("name", quoted name), ("init", option (init.map Expr.outline))]
  | .assignArray name value => record "ArrayAssign"
    [("name", quoted name), ("value", value.outline)]
  | .assignElement name idx op value => record "ElementAssign"
    [("name", quoted name), ("index", idx.outline), ("op", op.name), ("value", value.outline)]
  | .inputElement name idx => record "ElementInput"
    [("name", quoted name), ("index", idx.outline)]
  | .push name value => record "Push" [("name", quoted name), ("value", value.outline)]
  | .set name idx value => record "Set"
    [("name", quoted name), ("index", idx.outline), ("value", value.outline)]
  | .evaluate e => variant "Expr" e.outline

/-- The line behind the outline of a statement. -/
def Line.mark : Option Line → String
  | none => ""
  | some line => " @ line " ++ toString line.toNat

mutual
def Stmt.outline : Stmt → String
  | .action line a => a.outline ++ Line.mark line
  | .jump line j => j.name ++ Line.mark line
  | .branch line cond body elseIfs otherwise => record "If"
    [("cond", cond.outline), ("body", list (Stmt.outlines body)),
      ("else_ifs", list (Stmt.outlineArms "ElseIf" "cond" elseIfs)),
      ("else_body", Stmt.outlineBody otherwise)] ++ Line.mark line
  | .loop line init cond update body => record "Loop"
    [("init", Stmt.outlineOption init), ("cond", cond.outline),
      ("update", Stmt.outlineOption update), ("body", list (Stmt.outlines body))]
    ++ Line.mark line
  | .doWhile line body cond => record "DoWhile"
    [("body", list (Stmt.outlines body)), ("cond", cond.outline)] ++ Line.mark line
  | .switch line scrutinee cases fallback => record "Switch"
    [("scrutinee", scrutinee.outline), ("cases", list (Stmt.outlineArms "Case" "value" cases)),
      ("default", Stmt.outlineBody fallback)] ++ Line.mark line

def Stmt.outlineOption : Option Stmt → String
  | none => option none
  | some s => option (some s.outline)

def Stmt.outlines : List Stmt → List String
  | [] => []
  | s :: rest => s.outline :: Stmt.outlines rest

def Stmt.outlineArms (name key : String) : List (Expr × List Stmt) → List String
  | [] => []
  | (e, body) :: rest =>
    record name [(key, e.outline), ("body", list (Stmt.outlines body))]
      :: Stmt.outlineArms name key rest

def Stmt.outlineBody : Option (List Stmt) → String
  | none => option none
  | some body => option (some (list (Stmt.outlines body)))
end

def Program.outline (p : Program) : String :=
  record "Program" [("stmts", list (Stmt.outlines p.stmts))]

end Primer
