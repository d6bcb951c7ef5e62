/-!
# Separated text

Cutting a text at a separator, into lines or at a count of octets, and white
space at its ends.
-/

namespace SyntaxTree
namespace Text

/-- Cuts characters at every separator.  There is one part more than there are
separators, and parts may be empty. -/
def cutAt (separator : Char) : List Char → List (List Char)
  | [] => [[]]
  | character :: rest =>
    if character = separator then
      [] :: cutAt separator rest
    else
      match cutAt separator rest with
      | [] => [[character]]
      | part :: parts => (character :: part) :: parts

/-- Parts of a text between the separators. -/
def parts (separator : Char) (text : String) : List String :=
  (cutAt separator text.toList).map String.ofList

/-- Number of octets that characters take. -/
def octetCount : List Char → Nat
  | [] => 0
  | character :: rest => character.utf8Size + octetCount rest

/-- Drops characters that take a number of octets together.  There are none if
that many octets end inside a character or behind the last one. -/
def dropOctets? : Nat → List Char → Option (List Char)
  | 0, characters => some characters
  | _ + 1, [] => none
  | count + 1, character :: rest =>
    if character.utf8Size ≤ count + 1 then
      dropOctets? (count + 1 - character.utf8Size) rest
    else
      none

/-- The part of a text between two counts of octets, if both end a character. -/
def between? (text : String) (start stop : Nat) : Option String := do
  let rest ← dropOctets? start text.toList
  let behind ← dropOctets? stop text.toList
  return String.ofList (rest.take (rest.length - behind.length))

/-- Lines of a text behind which a line break is written.  A line break is a
line feed, also with a carriage return in front of it. -/
def lines (text : String) : List String :=
  (cutAt '\n' text.toList).map fun line =>
    String.ofList (if line.getLast? = some '\r' then line.dropLast else line)

/-- Whether a character is white space. -/
def isWhiteSpace (character : Char) : Bool :=
  let code := character.toNat
  (0x9 ≤ code && code ≤ 0xd) || (0x2000 ≤ code && code ≤ 0x200a) ||
    [0x20, 0x85, 0xa0, 0x1680, 0x2028, 0x2029, 0x202f, 0x205f, 0x3000].contains code

/-- The text without white space at its ends. -/
def trimmed (text : String) : String :=
  let front := text.toList.dropWhile isWhiteSpace
  String.ofList (front.reverse.dropWhile isWhiteSpace).reverse

end Text
end SyntaxTree
