import Primer.Text.Ranges

/-!
# White space

Texts are trimmed of the characters with the property White_Space. Keywords are compared without
regard to the case of ASCII letters.
-/

namespace Primer.Text

/-- The code points with the property White_Space. -/
def blankRanges : Ranges :=
  [(0x09, 0x0D), (0x20, 0x20), (0x85, 0x85), (0xA0, 0xA0), (0x1680, 0x1680), (0x2000, 0x200A),
    (0x2028, 0x2029), (0x202F, 0x202F), (0x205F, 0x205F), (0x3000, 0x3000)]

def isBlank (c : Char) : Bool := blankRanges.holds c

/-- The characters between the first and the last that are not blank. -/
def trimChars (cs : List Char) : List Char :=
  ((cs.dropWhile isBlank).reverse.dropWhile isBlank).reverse

/-- The text without its leading and trailing white space. -/
def trim (s : String) : String := String.ofList (trimChars s.toList)

/-- Equality of texts up to the case of ASCII letters. -/
def sameKeyword (a b : String) : Bool :=
  a.toList.map Char.toLower == b.toList.map Char.toLower

end Primer.Text
