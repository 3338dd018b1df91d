import Primer.Json.Basic
import Primer.Numeric.Decimal

/-!
# Reading JSON

The strict grammar: no comments, no trailing commas, no leading zeros, no raw controls in strings,
and nothing but white space after the value.
-/

namespace Primer.Json

/-! ## Strings -/

def hexValue? (c : Char) : Option Nat :=
  if '0' ≤ c ∧ c ≤ '9' then some (c.toNat - '0'.toNat)
  else if 'a' ≤ c ∧ c ≤ 'f' then some (c.toNat - 'a'.toNat + 10)
  else if 'A' ≤ c ∧ c ≤ 'F' then some (c.toNat - 'A'.toNat + 10)
  else none

def hex4? (a b c d : Char) : Option Nat :=
  match hexValue? a, hexValue? b, hexValue? c, hexValue? d with
  | some a, some b, some c, some d => some (((a * 16 + b) * 16 + c) * 16 + d)
  | _, _, _, _ => none

/-- The character behind a backslash, the code point form apart. -/
def unescape? : Char → Option Char
  | '"' => some '"'
  | '\\' => some '\\'
  | '/' => some '/'
  | 'b' => some (Char.ofNat 0x08)
  | 'f' => some (Char.ofNat 0x0C)
  | 'n' => some '\n'
  | 'r' => some '\r'
  | 't' => some '\t'
  | _ => none

/-- A piece of a written string: a character, or half of a surrogate pair. -/
inductive Piece where
  | char (c : Char)
  | half (n : Nat)

/-- The piece that is written by its code. -/
def Piece.ofCode (n : Nat) : Piece :=
  if 0xD800 ≤ n ∧ n < 0xE000 then half n else char (Char.ofNat n)

/-- Puts a piece in front of those that were read after it. -/
def before (p : Piece) : Option (List Piece × List Char) → Option (List Piece × List Char)
  | some (ps, rest) => some (p :: ps, rest)
  | none => none

/-- The pieces of a string after its opening quote, and what follows its closing one. -/
def pieces? : List Char → Option (List Piece × List Char)
  | [] => none
  | '"' :: rest => some ([], rest)
  | '\\' :: 'u' :: a :: b :: c :: d :: rest =>
    match hex4? a b c d with
    | some n => before (.ofCode n) (pieces? rest)
    | none => none
  | '\\' :: c :: rest =>
    match unescape? c with
    | some c => before (.char c) (pieces? rest)
    | none => none
  | c :: rest => if c == '\\' || c.toNat < 0x20 then none else before (.char c) (pieces? rest)

def pairChar (high low : Nat) : Char :=
  Char.ofNat (0x10000 + (high - 0xD800) * 0x400 + (low - 0xDC00))

/-- The text of the pieces, if every half is part of a pair. -/
def textOf? : List Piece → Option (List Char)
  | [] => some []
  | .char c :: rest => (textOf? rest).map (c :: ·)
  | .half high :: .half low :: rest =>
    if high < 0xDC00 ∧ 0xDC00 ≤ low then (textOf? rest).map (pairChar high low :: ·) else none
  | .half _ :: _ => none

/-- The string of the pieces. -/
def ofPieces (ps : List Piece) : Json :=
  match textOf? ps with
  | some cs => .str (String.ofList cs)
  | none => .garbled

/-! ## Numbers -/

/-- The digits after a mark, at least one of them. -/
def digitsAfter? (mark : List Char) (cs : List Char) : Option (List Char × List Char) :=
  let (digits, rest) := Numeric.spanDigits cs
  if digits.isEmpty then none else some (mark ++ digits, rest)

def fraction? : List Char → Option (List Char × List Char)
  | '.' :: rest => digitsAfter? ['.'] rest
  | cs => some ([], cs)

def exponent? : List Char → Option (List Char × List Char)
  | mark :: rest =>
    if mark == 'e' || mark == 'E' then
      match rest with
      | '+' :: rest => digitsAfter? [mark, '+'] rest
      | '-' :: rest => digitsAfter? [mark, '-'] rest
      | _ => digitsAfter? [mark] rest
    else some ([], mark :: rest)
  | [] => some ([], [])

def unsigned? (cs : List Char) : Option (List Char × List Char) :=
  let (whole, rest) := Numeric.spanDigits cs
  if whole.isEmpty || (whole.length ≠ 1 && whole.head? == some '0') then none
  else match fraction? rest with
    | none => none
    | some (fraction, rest) =>
      match exponent? rest with
      | none => none
      | some (exponent, rest) => some (whole ++ fraction ++ exponent, rest)

/-- A number as it is written. -/
def number? : List Char → Option (Json × List Char)
  | '-' :: rest => (unsigned? rest).map fun (cs, rest) => (.num ('-' :: cs), rest)
  | cs => (unsigned? cs).map fun (cs, rest) => (.num cs, rest)

/-! ## Values -/

/-- Whether a character may stand between the parts of a value. -/
def isSpace (c : Char) : Bool := c == ' ' || c == '\t' || c == '\n' || c == '\r'

/-- The text after its white space. -/
def skipSpace (cs : List Char) : List Char := cs.dropWhile isSpace

/-- Puts a member in front of those after it, if all of the keys have a text. -/
def addMember (key : List Piece) (j : Json) (members : Option (List (String × Json))) :
    Option (List (String × Json)) :=
  match textOf? key, members with
  | some key, some members => some ((String.ofList key, j) :: members)
  | _, _ => none

/-- An object with the given members, if all of their keys have a text. -/
def ofMembers : Option (List (String × Json)) → Json
  | some members => .obj members
  | none => .garbled

mutual
/-- A value and what follows it. Each step deeper into the text takes one unit of `fuel`. -/
def value? : Nat → List Char → Option (Json × List Char)
  | 0, _ => none
  | fuel + 1, cs =>
    match skipSpace cs with
    | 'n' :: 'u' :: 'l' :: 'l' :: rest => some (.null, rest)
    | 't' :: 'r' :: 'u' :: 'e' :: rest => some (.bool true, rest)
    | 'f' :: 'a' :: 'l' :: 's' :: 'e' :: rest => some (.bool false, rest)
    | '"' :: rest => (pieces? rest).map fun (ps, rest) => (ofPieces ps, rest)
    | '[' :: rest =>
      match skipSpace rest with
      | ']' :: rest => some (.arr [], rest)
      | _ => (readItems? fuel rest).map fun (items, rest) => (.arr items, rest)
    | '{' :: rest =>
      match skipSpace rest with
      | '}' :: rest => some (.obj [], rest)
      | _ => (readMembers? fuel rest).map fun (members, rest) => (ofMembers members, rest)
    | cs => number? cs

/-- The items of an array, at least one, and what follows its bracket. -/
def readItems? : Nat → List Char → Option (List Json × List Char)
  | 0, _ => none
  | fuel + 1, cs =>
    match value? fuel cs with
    | none => none
    | some (j, rest) =>
      match skipSpace rest with
      | ',' :: rest => (readItems? fuel rest).map fun (items, rest) => (j :: items, rest)
      | ']' :: rest => some ([j], rest)
      | _ => none

/-- The members of an object, at least one, and what follows its brace. -/
def readMembers? : Nat → List Char → Option (Option (List (String × Json)) × List Char)
  | 0, _ => none
  | fuel + 1, cs =>
    match skipSpace cs with
    | '"' :: rest =>
      match pieces? rest with
      | none => none
      | some (key, rest) =>
        match skipSpace rest with
        | ':' :: rest =>
          match value? fuel rest with
          | none => none
          | some (j, rest) =>
            match skipSpace rest with
            | ',' :: rest =>
              (readMembers? fuel rest).map fun (members, rest) => (addMember key j members, rest)
            | '}' :: rest => some (addMember key j (some []), rest)
            | _ => none
        | _ => none
    | _ => none
end

/-- The value that a text holds, if it holds one and nothing else. -/
def parse? (s : String) : Option Json :=
  let cs := s.toList
  match value? (2 * cs.length + 2) cs with
  | some (j, rest) => if (skipSpace rest).isEmpty then some j else none
  | none => none

end Primer.Json
