import Primer.Ty

/-!
# Literals

A literal is kept as it was written, quotes included, and is classified by its surface form. A
literal is `true` or `false` in any case, a numeral, one character between single quotes, or a text
between double quotes.
-/

namespace Primer

/-- Why a text is no literal. -/
inductive LiteralFault where
  | invalid
  | mismatchedSingle
  | mismatchedDouble
  | letterTooLong
  | emptyLetter
deriving DecidableEq

namespace Literal

/-- At least one ASCII digit and nothing else. -/
def isDigits (cs : List Char) : Bool := !cs.isEmpty && cs.all Char.isDigit

/-- Digits, and perhaps a point with digits after it. -/
def isUnsignedNumeral (cs : List Char) : Bool :=
  match cs.dropWhile (· != '.') with
  | [] => isDigits cs
  | _ :: fraction => isDigits (cs.takeWhile (· != '.')) && isDigits fraction

/-- A numeral: an optional minus sign, digits, and perhaps a point with digits after it. -/
def isNumeralChars : List Char → Bool
  | '-' :: rest => isUnsignedNumeral rest
  | cs => isUnsignedNumeral cs

/-- Whether a text is a numeral as it stands. -/
def isNumeral (s : String) : Bool := isNumeralChars s.toList

/-- Whether a text is one of the two truth values, in any case. -/
def truth? (s : String) : Option Bool :=
  if Text.sameKeyword s "true" then some true
  else if Text.sameKeyword s "false" then some false
  else none

/-- The text without its last character, if that is the given one. -/
def dropLast? (quote : Char) (cs : List Char) : Option (List Char) :=
  match cs.getLast? with
  | some c => if c == quote then some cs.dropLast else none
  | none => none

/-- The text between two quotes. -/
def between? (quote : Char) : List Char → Option (List Char)
  | [] => none
  | c :: rest => if c == quote then dropLast? quote rest else none

/-- The type of a quoted literal, given without white space around it. -/
def classifyQuoted : List Char → Except LiteralFault Ty
  | '\'' :: rest =>
    match dropLast? '\'' rest with
    | none => .error .mismatchedSingle
    | some [] => .error .emptyLetter
    | some [_] => .ok (.scalar .letter)
    | some _ => .error .letterTooLong
  | '"' :: rest =>
    match dropLast? '"' rest with
    | none => .error .mismatchedDouble
    | some _ => .ok (.scalar .sentence)
  | _ => .error .invalid

/-- The type of a literal, or why it is none. White space around it does not count. -/
def classify (raw : String) : Except LiteralFault Ty :=
  let body := Text.trim raw
  if (truth? body).isSome then .ok .logic
  else if isNumeral body then .ok .number
  else classifyQuoted body.toList

/-- The type of a literal; unknown if it is none. -/
def infer (raw : String) : Ty :=
  match classify raw with
  | .ok ty => ty
  | .error _ => .unknown

/-- The text inside one pair of equal quotes, white space around them dropped; the double quote is
tried first. A text without such a pair stays as it is, white space apart. -/
def unquote (raw : String) : String :=
  let cs := (Text.trim raw).toList
  match between? '"' cs with
  | some inner => String.ofList inner
  | none =>
    match between? '\'' cs with
    | some inner => String.ofList inner
    | none => String.ofList cs

end Literal

end Primer
