import SyntaxTree.Text.Alphabetic
import SyntaxTree.Text.Numeric

/-!
# Letters and numerals
-/

namespace SyntaxTree
namespace Text

/-- Whether a character is a letter or stands for a number. -/
def isAlphanumeric (character : Char) : Bool :=
  isAlphabetic character || isNumeric character

end Text
end SyntaxTree
