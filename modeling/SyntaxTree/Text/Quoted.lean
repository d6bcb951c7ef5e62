import SyntaxTree.Text.Unprintable

/-!
# Quoted text

Text between double quotes, in which every character that cannot be shown is
written as an escape.
-/

namespace SyntaxTree
namespace Text

/-- Escape of a character by its code point. -/
def codeEscape (character : Char) : String :=
  "\\u\x7b" ++ String.ofList (Nat.toDigits 16 character.toNat) ++ "\x7d"

/-- How a character is written between double quotes. -/
def escape (character : Char) : String :=
  match character with
  | '\x00' => "\\0"
  | '\t' => "\\t"
  | '\n' => "\\n"
  | '\r' => "\\r"
  | '"' => "\\\""
  | '\\' => "\\\\"
  | other => if isUnprintable other then codeEscape other else String.singleton other

/-- The text between double quotes with its characters escaped. -/
def quoted (text : String) : String :=
  "\"" ++ String.join (text.toList.map escape) ++ "\""

end Text
end SyntaxTree
