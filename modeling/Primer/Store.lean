import Primer.Value.Array

/-!
# The store

The names of a run with their declared types and values. There is one flat set of names: a
declaration that was executed stays visible for the rest of the run, and executing it again resets
the name.
-/

namespace Primer

/-- A declared type and the value at present. -/
structure Binding where
  ty : Ty
  value : Value

/-- The bound names; no name stands twice. -/
structure Store where
  bindings : List (String × Binding)

namespace Store

def empty : Store := ⟨[]⟩

def size (s : Store) : Nat := s.bindings.length

def find? (s : Store) (name : String) : Option Binding := s.bindings.lookup name

def contains (s : Store) (name : String) : Bool := (s.find? name).isSome

/-- Binds a name in a list of bindings, in the place of its old binding. -/
def bindIn (name : String) (b : Binding) : List (String × Binding) → List (String × Binding)
  | [] => [(name, b)]
  | e :: rest => if e.1 == name then (name, b) :: rest else e :: bindIn name b rest

/-- Binds a name, whether it is bound or not. -/
def declare (s : Store) (name : String) (ty : Ty) (value : Value) : Store :=
  ⟨bindIn name ⟨ty, value⟩ s.bindings⟩

def binding (s : Store) (name : String) : Except Fault Binding :=
  match s.find? name with
  | some b => .ok b
  | none => .error (.undefinedVariable name)

def get (s : Store) (name : String) : Except Fault Value := (s.binding name).map (·.value)

/-- The declared type of a name that is no array. -/
def declaredPrimitive (s : Store) (name : String) : Except Fault Primitive := do
  let b ← s.binding name
  match b.ty.primitive? with
  | some p => return p
  | none => throw (.typeMismatch "scalar variable" b.ty.text)

/-- Gives a bound name another value as it is. -/
def put (s : Store) (name : String) (value : Value) : Except Fault Store :=
  (s.binding name).map fun b => s.declare name b.ty value

/-- Gives a bound name that is no array another value, fitted to its declared type. -/
def assign (s : Store) (name : String) (value : Value) : Except Fault Store := do
  let p ← s.declaredPrimitive name
  let v ← value.coerce p
  s.put name (.scalar v)

def array (s : Store) (name : String) : Except Fault ArrayValue := do
  match ← s.get name with
  | .array a => return a
  | .scalar _ => throw (.notAnArray name)

/-- Changes the array of a name in its place. What the change leaves stays, also if it fails. -/
def modifyArray {α : Type} (name : String) (edit : ArrayValue.Edit α) : EStateM Fault Store α :=
  fun s =>
    match s.find? name with
    | none => .error (.undefinedVariable name) s
    | some ⟨_, .scalar _⟩ => .error (.notAnArray name) s
    | some ⟨ty, .array a⟩ =>
      match edit a with
      | .ok w a => .ok w (s.declare name ty (.array a))
      | .error fault a => .error fault (s.declare name ty (.array a))

/-- Takes the last element of the array of a name. -/
def popArray (name : String) : EStateM Fault Store Scalar := modifyArray name ArrayValue.pop

end Store

end Primer
