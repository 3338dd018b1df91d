/-!
# JSON values

A number is kept as it was written, since `1`, `1.0` and `1e0` are told apart. Members keep their
order, and a key may stand more than once. Half of a surrogate pair may be written as an escape but
is no character: a string with one has no text, and can only be passed over.
-/

namespace Primer

inductive Json where
  | null
  | bool (b : Bool)
  /-- A number as it was written. -/
  | num (written : List Char)
  | str (s : String)
  | arr (items : List Json)
  | obj (members : List (String × Json))
  /-- A string without a text, or an object with such a key. -/
  | garbled

namespace Json

def ofNat (n : Nat) : Json := .num (Nat.toDigits 10 n)

def string? : Json → Option String
  | .str s => some s
  | _ => none

def bool? : Json → Option Bool
  | .bool b => some b
  | _ => none

def items? : Json → Option (List Json)
  | .arr items => some items
  | _ => none

def membersOf (key : String) (members : List (String × Json)) : List Json :=
  (members.filter (·.1 == key)).map (·.2)

/-- The last member with a key. -/
def get? (j : Json) (key : String) : Option Json :=
  match j with
  | .obj members => (membersOf key members).getLast?
  | _ => none

end Json

end Primer
