import SyntaxTree.Text.Utf8

/-!
# Source text from octets

A source file is a sequence of octets.  Each ill-formed octet sequence becomes
one blank in the text and is reported with the line on which it stands.
-/

namespace SyntaxTree
namespace Source

open Text

/-- An ill-formed octet sequence on a line. -/
structure IllFormed where
  line : Nat
  octets : List UInt8
deriving DecidableEq, Repr

namespace IllFormed

/-- Two upper-case hexadecimal digits of an octet behind `0x`. -/
def octetText (octet : UInt8) : String :=
  let digits := (Nat.toDigits 16 octet.toNat).map Char.toUpper
  "0x" ++ String.ofList (List.replicate (2 - digits.length) '0' ++ digits)

/-- Wording of the report. -/
def message (illFormed : IllFormed) : String :=
  "Invalid UTF-8 sequence " ++ " ".intercalate (illFormed.octets.map octetText)

end IllFormed

/-- A decoded text with the reports made while decoding. -/
structure DecodedText where
  characters : Array Char
  illFormed : Array IllFormed
  /-- Line on which the next character stands. -/
  line : Nat

namespace DecodedText

/-- The empty text. -/
def empty : DecodedText := ⟨#[], #[], 1⟩

/-- Adds one piece to the text. -/
def push (decoded : DecodedText) : Utf8.Piece → DecodedText
  | .character value =>
    { decoded with
      characters := decoded.characters.push value
      line := if value = '\n' then decoded.line + 1 else decoded.line }
  | .illFormed octets =>
    { decoded with
      characters := decoded.characters.push ' '
      illFormed := decoded.illFormed.push ⟨decoded.line, octets⟩ }

end DecodedText

/-- Decodes the octets of a source file. -/
def decode (octets : List UInt8) : DecodedText :=
  (Utf8.decode octets).foldl DecodedText.push DecodedText.empty

end Source
end SyntaxTree
