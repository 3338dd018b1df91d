import Primer.Text.Alphabetic
import Primer.Text.Numeral

/-!
# Names

A name starts with a letter and goes on with letters, digits of any script and underscores.
-/

namespace Primer.Identifier

/-- Whether a character may stand inside a name. -/
def continues (c : Char) : Bool := Text.isAlphabetic c || Text.isNumeral c || c == '_'

/-- Whether a text can name a variable or an array. -/
def isValid (name : String) : Bool :=
  match name.toList with
  | [] => false
  | c :: rest => Text.isAlphabetic c && rest.all continues

end Primer.Identifier
