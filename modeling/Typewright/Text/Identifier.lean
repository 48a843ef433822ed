import Typewright.Text.LetterCase
import Typewright.Text.Property.IdentifierContinue
import Typewright.Text.Property.IdentifierStart

/-! The characters of identifiers: a letter or an underscore first, then letters, digits, underscores
and marks. -/
namespace Typewright.Text

def isIdentifierStart (c : Char) : Bool :=
  c == '_' || (if isAscii c then c.isAlpha else wideIdentifierStart.contains c)

def isIdentifierContinue (c : Char) : Bool :=
  c == '_' || (if isAscii c then c.isAlphanum else wideIdentifierContinue.contains c)

end Typewright.Text
