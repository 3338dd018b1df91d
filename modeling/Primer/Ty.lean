import Primer.Text.Blank

/-!
# Types

The four primitive types, the arrays over them, and the tag of an expression whose type could not
be determined. An array holds primitives only, so that arrays do not nest.
-/

namespace Primer

/-- The type of a single value. -/
inductive Primitive where
  | number
  | letter
  | sentence
  | logic
deriving DecidableEq

namespace Primitive

/-- Every primitive type, in the order of their listing. -/
def all : List Primitive := [.number, .letter, .sentence, .logic]

def text : Primitive → String
  | .number => "NUMBER"
  | .letter => "LETTER"
  | .sentence => "SENTENCE"
  | .logic => "LOGIC"

/-- The type that a declared type name stands for, in any case and with white space around it. -/
def ofName? (name : String) : Option Primitive :=
  all.find? fun p => Text.sameKeyword p.text (Text.trim name)

end Primitive

/-- The type of an expression or of a declared name. -/
inductive Ty where
  | scalar (p : Primitive)
  | array (elem : Primitive)
  | unknown
deriving DecidableEq

namespace Ty

abbrev number : Ty := scalar .number

abbrev logic : Ty := scalar .logic

/-- The type as diagnostics and messages write it. -/
def text : Ty → String
  | .scalar p => p.text
  | .array p => "ARRAY:" ++ p.text
  | .unknown => "UNKNOWN"

/-- The type that a declared type name stands for; only primitives can be named. -/
def ofName (name : String) : Ty :=
  match Primitive.ofName? name with
  | some p => .scalar p
  | none => .unknown

def primitive? : Ty → Option Primitive
  | .scalar p => some p
  | _ => none

def element? : Ty → Option Primitive
  | .array p => some p
  | _ => none

def isArray : Ty → Bool
  | .array _ => true
  | _ => false

/-- Whether the type could not be determined. -/
def isUnknown : Ty → Bool
  | .unknown => true
  | _ => false

/-! ## Compatibility -/

/-- Whether a value of type `source` may flow into a place of type `target`: the same type, or a
letter where a number or a sentence is expected. -/
def accepts (target source : Ty) : Bool :=
  target == source
    || match target, source with
      | .scalar .number, .scalar .letter => true
      | .scalar .sentence, .scalar .letter => true
      | _, _ => false

/-- Whether values of the two types may be compared for equality: one type accepts the other. -/
def comparable (left right : Ty) : Bool := left.accepts right || right.accepts left

end Ty

end Primer
