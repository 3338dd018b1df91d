import Primer.Value.Convert

/-!
# Arrays

An array grows by a push and shrinks by a pop, in its place. Every element is fitted to the element
type before it is stored. An index counts from zero and must be a whole number.
-/

namespace Primer

/-- The result of a change for a caller that does not go on from the state behind a fault: the state that
the change makes, or the fault alone. -/
instance {σ : Type} : Coe (EStateM.Result Fault σ Unit) (Except Fault σ) where
  coe
    | .ok _ s => .ok s
    | .error fault _ => .error fault

/-- The result of a change that has a value too. -/
instance {σ α : Type} : Coe (EStateM.Result Fault σ α) (Except Fault (α × σ)) where
  coe
    | .ok a s => .ok (a, s)
    | .error fault _ => .error fault

namespace ArrayValue

/-- The largest size that can be asked for. -/
def maxSize : Nat := 0x7FFFFFFF

/-- An array of the given size, filled with the default of its element type. -/
def ofSize (elem : Primitive) (size : Float) : Except Fault ArrayValue :=
  if size < 0.0 || !Numeric.isWhole size then .error (.invalidArraySize size)
  else if maxSize < Numeric.wholePart size then .error (.arrayTooLarge size)
  else .ok ⟨elem, Array.replicate (Numeric.wholePart size) (Scalar.default elem)⟩

/-- The array of the values, each fitted to the element type. -/
def ofValues (elem : Primitive) (values : List Value) : Except Fault ArrayValue :=
  (values.mapM (Value.coerceElement elem)).map fun items => ⟨elem, items.toArray⟩

/-- The position that an index stands for. -/
def position (a : ArrayValue) (index : Float) : Except Fault Nat :=
  if !Numeric.isWhole index then .error (.nonIntegerIndex index)
  else if index < 0.0 || a.size ≤ Numeric.wholePart index then .error (.indexOutOfBounds index)
  else .ok (Numeric.wholePart index)

def get (a : ArrayValue) (index : Float) : Except Fault Scalar :=
  match a.position index with
  | .error fault => .error fault
  | .ok i =>
    match a.items[i]? with
    | some v => .ok v
    | none => .error (.indexOutOfBounds index)

/-- A change of an array in its place: it may end in a fault, and leaves an array either way. -/
abbrev Edit := EStateM Fault ArrayValue

/-- Replaces the element at an index. -/
def set (index : Float) (v : Value) : Edit Unit := do
  let a ← getThe ArrayValue
  let i ← MonadExcept.ofExcept (a.position index)
  let v ← MonadExcept.ofExcept (v.coerceElement a.elem)
  modify fun a => { a with items := a.items.setIfInBounds i v }

/-- Appends an element. -/
def push (v : Value) : Edit Unit := do
  let a ← getThe ArrayValue
  let v ← MonadExcept.ofExcept (v.coerceElement a.elem)
  modify fun a => { a with items := a.items.push v }

/-- Takes the last element, if there is one. -/
def pop : Edit Scalar := do
  let a ← getThe ArrayValue
  modify fun a => { a with items := a.items.pop }
  match a.items.back? with
  | some v => return v
  | none => throw .emptyArray

/-- The array with its elements fitted to another element type. -/
def retype (a : ArrayValue) (elem : Primitive) : Except Fault ArrayValue :=
  if elem = a.elem then .ok a else ofValues elem (a.items.toList.map .scalar)

end ArrayValue

end Primer
