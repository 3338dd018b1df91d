import Primer.Json.Basic

/-!
# The text of a JSON value

Values are written without white space. Inside a string the quote, the backslash and the controls
are escaped, and every other character stands for itself.
-/

namespace Primer.Json

def hexDigit (n : Nat) : Char := (Nat.toDigits 16 (n % 16)).headD '0'

def escapeChar (c : Char) : List Char :=
  match c with
  | '"' => ['\\', '"']
  | '\\' => ['\\', '\\']
  | '\n' => ['\\', 'n']
  | '\r' => ['\\', 'r']
  | '\t' => ['\\', 't']
  | _ =>
    if c.toNat == 0x08 then ['\\', 'b']
    else if c.toNat == 0x0C then ['\\', 'f']
    else if c.toNat < 0x20 then
      ['\\', 'u', '0', '0', hexDigit (c.toNat / 16), hexDigit c.toNat]
    else [c]

/-- A string between its quotes. -/
def renderString (s : String) : List Char := '"' :: s.toList.flatMap escapeChar ++ ['"']

/-- A string that holds half of a surrogate pair. -/
def unpaired : List Char := "\"\\ud800\"".toList

mutual
def renderChars : Json → List Char
  | .null => ['n', 'u', 'l', 'l']
  | .bool true => ['t', 'r', 'u', 'e']
  | .bool false => ['f', 'a', 'l', 's', 'e']
  | .num written => written
  | .str s => renderString s
  | .arr items => '[' :: renderItems items
  | .obj members => '{' :: renderMembers members
  | .garbled => unpaired

def renderItems : List Json → List Char
  | [] => [']']
  | [j] => renderChars j ++ [']']
  | j :: rest => renderChars j ++ ',' :: renderItems rest

def renderMembers : List (String × Json) → List Char
  | [] => ['}']
  | [(key, j)] => renderString key ++ ':' :: renderChars j ++ ['}']
  | (key, j) :: rest => renderString key ++ ':' :: renderChars j ++ ',' :: renderMembers rest
end

def render (j : Json) : String := String.ofList (renderChars j)

end Primer.Json
