import Primer.Syntax.Names
import Primer.Json.Reader

/-!
# Programs from JSON

A record is an object whose unknown members are passed over, or an array of its fields in order. A
known member that stands twice is refused; a missing one is refused unless it is optional. What is
read may nest 127 arrays and objects, counted down in `depth`.
-/

namespace Primer

/-! ## Records and variants -/

/-- A field of a record. An optional field may be missing from an object. -/
structure Field where
  key : String
  optional : Bool

/-- A field that must be there. -/
def Field.required (key : String) : Field := ⟨key, false⟩

/-- A field that may be missing. -/
def Field.maybe (key : String) : Field := ⟨key, true⟩

/-- The content of the field in an object. -/
def Field.of? (f : Field) (members : List (String × Json)) : Option Json :=
  match Json.membersOf f.key members with
  | [] => if f.optional then some .null else none
  | [j] => some j
  | _ => none

/-- The contents of the fields of a record, in their order. -/
def Json.record? (fields : List Field) : Json → Option (List Json)
  | .obj members => fields.mapM (·.of? members)
  | .arr items => if items.length = fields.length then some items else none
  | _ => none

/-- What may be missing. -/
def Json.option? {α : Type} (read : Json → Option α) : Json → Option (Option α)
  | .null => some none
  | j => (read j).map some

/-- One of a set of names, written as a string or as the key of a member without content. -/
def Json.named? {α : Type} (ofName? : String → Option α) (depth : Nat) : Json → Option α
  | .str s => ofName? s
  | .obj [(s, .null)] => if depth = 0 then none else ofName? s
  | _ => none

/-! ## Expressions -/

def Expr.ofJson? : Nat → Json → Option Expr
  | depth + 1, .obj [(tag, content)] =>
    match tag, content, depth with
    | "Literal", .str raw, _ => some (.lit .unknown raw)
    | "Var", .str name, _ => some (.var .unknown name)
    | "Length", .str name, _ => some (.length .unknown name)
    | "Pop", .str name, _ => some (.pop .unknown name)
    | "ArrayLiteral", .arr items, depth + 1 =>
      (items.mapM (Expr.ofJson? depth)).map (.arrayOf .unknown)
    | "Binary", j, depth + 1 =>
      match j.record? [.required "op", .required "left", .required "right"] with
      | some [op, left, right] => do
        let op ← op.named? BinaryOp.ofName? depth
        let left ← Expr.ofJson? depth left
        let right ← Expr.ofJson? depth right
        some (.binary .unknown op left right)
      | _ => none
    | "Unary", j, depth + 1 =>
      match j.record? [.required "op", .required "operand"] with
      | some [op, operand] => do
        let op ← op.named? UnaryOp.ofName? depth
        let operand ← Expr.ofJson? depth operand
        some (.unary .unknown op operand)
      | _ => none
    | "Step", j, depth + 1 =>
      match j.record? [.required "name", .required "op", .required "fixity"] with
      | some [name, op, fixity] => do
        let name ← name.string?
        let op ← op.named? StepOp.ofName? depth
        let fixity ← fixity.named? Fixity.ofName? depth
        some (.step .unknown name op fixity)
      | _ => none
    | "ArrayNew", j, depth + 1 =>
      match j.record? [.required "elem_ty", .required "size"] with
      | some [elem, size] => do
        let elem ← elem.string?
        let size ← Expr.ofJson? depth size
        some (.newArray .unknown elem size)
      | _ => none
    | "Index", j, depth + 1 =>
      match j.record? [.required "name", .required "index"] with
      | some [name, idx] => do
        let name ← name.string?
        let idx ← Expr.ofJson? depth idx
        some (.index .unknown name idx)
      | _ => none
    | _, _, _ => none
  | _, _ => none

/-! ## Actions -/

def DisplayItem.ofJson? : Nat → Json → Option DisplayItem
  | depth + 1, .obj [(tag, content)] =>
    match tag, content with
    | "Expr", j => (Expr.ofJson? depth j).map .expr
    | "Variable", .str name => some (.named name)
    | "Literal", .str raw => some (.literal raw)
    | _, _ => none
  | _, _ => none

/-- The items of an array, each read with one level less. -/
def Json.list? {α : Type} (read : Nat → Json → Option α) : Nat → Json → Option (List α)
  | depth + 1, .arr items => items.mapM (read depth)
  | _, _ => none

/-- The action with the given name whose record has these contents. -/
def Action.ofRecord? (depth : Nat) (tag : String) (j : Json) : Option Action :=
  match tag with
  | "VarDecl" =>
    match j.record? [.required "ty", .required "name", .maybe "init"] with
    | some [ty, name, init] => do
      some (.declare (← ty.string?) (← name.string?) (← init.option? (Expr.ofJson? depth)))
    | _ => none
  | "Assign" =>
    match j.record? [.required "name", .required "op", .required "value"] with
    | some [name, op, value] => do
      some (.assign (← name.string?) (← op.named? AssignOp.ofName? depth)
        (← Expr.ofJson? depth value))
    | _ => none
  | "Display" =>
    match j.record? [.maybe "item", .required "newline"] with
    | some [item, newline] => do
      some (.display (← item.option? (DisplayItem.ofJson? depth)) (← newline.bool?))
    | _ => none
  | "MultiDisplay" =>
    match j.record? [.required "items", .required "newline"] with
    | some [items, newline] => do
      some (.displayAll (← items.list? DisplayItem.ofJson? depth) (← newline.bool?))
    | _ => none
  | "Input" =>
    match j.record? [.required "name"] with
    | some [name] => do some (.input (← name.string?))
    | _ => none
  | "ArrayDecl" =>
    match j.record? [.required "elem_ty", .required "name", .maybe "init"] with
    | some [elem, name, init] => do
      some (.declareArray (← elem.string?) (← name.string?) (← init.option? (Expr.ofJson? depth)))
    | _ => none
  | "ArrayAssign" =>
    match j.record? [.required "name", .required "value"] with
    | some [name, value] => do
      some (.assignArray (← name.string?) (← Expr.ofJson? depth value))
    | _ => none
  | "ElementAssign" =>
    match j.record? [.required "name", .required "index", .required "op", .required "value"] with
    | some [name, idx, op, value] => do
      some (.assignElement (← name.string?) (← Expr.ofJson? depth idx)
        (← op.named? AssignOp.ofName? depth) (← Expr.ofJson? depth value))
    | _ => none
  | "ElementInput" =>
    match j.record? [.required "name", .required "index"] with
    | some [name, idx] => do
      some (.inputElement (← name.string?) (← Expr.ofJson? depth idx))
    | _ => none
  | "Push" =>
    match j.record? [.required "name", .required "value"] with
    | some [name, value] => do some (.push (← name.string?) (← Expr.ofJson? depth value))
    | _ => none
  | "Set" =>
    match j.record? [.required "name", .required "index", .required "value"] with
    | some [name, idx, value] => do
      some (.set (← name.string?) (← Expr.ofJson? depth idx) (← Expr.ofJson? depth value))
    | _ => none
  | _ => none

/-- The action with the given name and content. -/
def Action.ofContent? (depth : Nat) (tag : String) (content : Json) : Option Action :=
  match tag, depth with
  | "Expr", depth => (Expr.ofJson? depth content).map .evaluate
  | tag, depth + 1 => Action.ofRecord? depth tag content
  | _, 0 => none

/-! ## Statements -/

/-- A line: a natural number below `2 ^ 32`, written with digits only. -/
def Line.ofJson? : Json → Option Line
  | .num written =>
    let n := Numeric.digitsValue written
    if written.all Char.isDigit && n < Nat.pow 2 32 then some (UInt32.ofNat n) else none
  | _ => none

/-- What a statement is and its line. The line may be missing from an object or an array. -/
def Json.statement? : Json → Option (Json × Option Line)
  | .arr [kind] => some (kind, none)
  | j =>
    match j.record? [.required "kind", .maybe "line"] with
    | some [kind, line] => do some (kind, ← line.option? Line.ofJson?)
    | _ => none

mutual
def Stmt.ofJson? : Nat → Json → Option Stmt
  | depth + 1, j => do
    let (kind, line) ← j.statement?
    Stmt.ofKind? line depth kind
  | 0, _ => none

/-- The statement on a line that is written by its kind. -/
def Stmt.ofKind? (line : Option Line) : Nat → Json → Option Stmt
  | _, .str name => (Jump.ofName? name).map (.jump line)
  | depth + 1, .obj [(tag, content)] =>
    match Jump.ofName? tag, content with
    | some j, .null => some (.jump line j)
    | some _, _ => none
    | none, _ =>
      match tag, depth with
      | "If", depth + 1 =>
        match content.record?
            [.required "cond", .required "body", .required "else_ifs", .maybe "else_body"] with
        | some [cond, body, elseIfs, otherwise] => do
          let cond ← Expr.ofJson? depth cond
          let body ← Stmt.body? depth body
          let elseIfs ← Stmt.arms? "cond" depth elseIfs
          let otherwise ← otherwise.option? (Stmt.body? depth)
          some (.branch line cond body elseIfs otherwise)
        | _ => none
      | "Loop", depth + 1 =>
        match content.record?
            [.maybe "init", .required "cond", .maybe "update", .required "body"] with
        | some [init, cond, update, body] => do
          let init ← init.option? (Stmt.ofJson? depth)
          let cond ← Expr.ofJson? depth cond
          let update ← update.option? (Stmt.ofJson? depth)
          let body ← Stmt.body? depth body
          some (.loop line init cond update body)
        | _ => none
      | "DoWhile", depth + 1 =>
        match content.record? [.required "body", .required "cond"] with
        | some [body, cond] => do
          let body ← Stmt.body? depth body
          let cond ← Expr.ofJson? depth cond
          some (.doWhile line body cond)
        | _ => none
      | "Switch", depth + 1 =>
        match content.record? [.required "scrutinee", .required "cases", .maybe "default"] with
        | some [scrutinee, cases, fallback] => do
          let scrutinee ← Expr.ofJson? depth scrutinee
          let cases ← Stmt.arms? "value" depth cases
          let fallback ← fallback.option? (Stmt.body? depth)
          some (.switch line scrutinee cases fallback)
        | _ => none
      | tag, depth => (Action.ofContent? depth tag content).map (.action line)
  | _, _ => none

def Stmt.body? : Nat → Json → Option (List Stmt)
  | depth + 1, .arr items => items.mapM (Stmt.ofJson? depth)
  | _, _ => none

/-- The conditions or case values of an array, under the given key, with their bodies. -/
def Stmt.arms? (key : String) : Nat → Json → Option (List (Expr × List Stmt))
  | depth + 1, .arr items => items.mapM (Stmt.arm? key depth)
  | _, _ => none

/-- A condition or case value, under the given key, with its body. -/
def Stmt.arm? (key : String) : Nat → Json → Option (Expr × List Stmt)
  | depth + 1, j =>
    match j.record? [.required key, .required "body"] with
    | some [e, body] => do
      let e ← Expr.ofJson? depth e
      let body ← Stmt.body? depth body
      some (e, body)
    | _ => none
  | 0, _ => none
end

/-- The program that a JSON value writes, within the given nesting. -/
def Program.ofJsonWithin? : Nat → Json → Option Program
  | depth + 1, j =>
    match j.record? [.required "stmts"] with
    | some [stmts] => (Stmt.body? depth stmts).map Program.mk
    | _ => none
  | 0, _ => none

/-- How many arrays and objects a written program may nest. -/
def maxNesting : Nat := 127

def Program.ofJson? (j : Json) : Option Program := Program.ofJsonWithin? maxNesting j

def Program.parse? (s : String) : Option Program := (Json.parse? s).bind Program.ofJson?

end Primer
