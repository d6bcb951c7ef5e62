import SyntaxTree.Number.Numeral
import SyntaxTree.Token.Reading

/-!
# Number literals

A number literal starts with a digit.  It is hexadecimal after `0x`, a
floating-point literal if a fraction or an exponent follows its digits, and
otherwise octal or decimal.  Each reader takes the characters behind the first
digit and returns those that belong to the literal with what they are read as.
-/

namespace SyntaxTree
namespace Literal

open Number

/-- Whether a character can stand inside a word. -/
def isWordCharacter (character : Char) : Bool :=
  character.isAlphanum || character == '_'

/-- Whether a character opens an exponent. -/
def isExponentLetter (character : Char) : Bool :=
  character == 'e' || character == 'E'

/-- Whether a fraction or an exponent starts here, so that the digits before it
belong to a floating-point literal. -/
def startsFloat : List Char → Bool
  | '.' :: next :: _ => isDecimalDigit next || isExponentLetter next
  | next :: _ => isExponentLetter next
  | [] => false

/-- Integer token of a numeral that fits into thirty-two bits.  Values from
`2 ^ 31` on denote the congruent negative number. -/
def integerReading
    (form : NumberForm)
    (radix : Nat)
    (text digits : List Char) : Reading :=
  match numeral? radix digits with
  | some value =>
    if value < UInt32.size then
      .token (.integer value.toUInt32.toInt32)
    else
      .error (.illegalNumber form text)
  | none => .error (.illegalNumber form text)

/-- The point and the digits of a fraction, if one starts here. -/
def fraction : List Char → List Char
  | '.' :: following => '.' :: following.takeWhile isDecimalDigit
  | _ => []

/-- The parts of an exponent. -/
structure Exponent where
  /-- The letter as it stands in the source. -/
  letter : Char
  /-- The sign as it stands in the source, which may be missing. -/
  sign : List Char
  /-- The digits, which may be missing. -/
  digits : List Char
deriving DecidableEq, Repr

namespace Exponent

/-- The sign character in front, if there is one. -/
def leadingSign : List Char → List Char
  | '+' :: _ => ['+']
  | '-' :: _ => ['-']
  | _ => []

/-- The exponent that starts here, if one does. -/
def read? : List Char → Option Exponent
  | letter :: following =>
    if isExponentLetter letter then
      let sign := leadingSign following
      some ⟨letter, sign, (following.drop sign.length).takeWhile isDecimalDigit⟩
    else
      none
  | [] => none

/-- Source text of an exponent. -/
def text (exponent : Exponent) : List Char :=
  exponent.letter :: (exponent.sign ++ exponent.digits)

/-- Power of ten that an exponent denotes. -/
def value (exponent : Exponent) : Int :=
  if exponent.sign = ['-'] then
    -(decimalValue exponent.digits : Int)
  else
    decimalValue exponent.digits

end Exponent

/-- Number denoted by whole digits, a fraction and a power of ten. -/
def floatValue (whole fraction : List Char) (exponent : Int) : Binary32 :=
  let places := fraction.drop 1
  Binary32.ofDecimal (decimalValue (whole ++ places)) (exponent - places.length)

/-- Reads a floating-point literal whose whole digits are `first :: digits`.

An exponent without digits makes the literal illegal, together with the word
characters behind it; the report writes its exponent letter in lower case.  Any
other text read here is a decimal number: digits, perhaps a fraction, perhaps a
complete exponent.  It always has a value, infinite or zero where it is out of
range, so there is no case in which its conversion fails. -/
def readFloat (first : Char) (digits following : List Char) : List Char × Reading :=
  let whole := first :: digits
  let fractionText := fraction following
  let afterFraction := following.drop fractionText.length
  match Exponent.read? afterFraction with
  | none =>
    (digits ++ fractionText, .token (.real (floatValue whole fractionText 0)))
  | some exponent =>
    if exponent.digits.isEmpty then
      let word := (afterFraction.drop exponent.text.length).takeWhile isWordCharacter
      (digits ++ fractionText ++ exponent.text ++ word,
        .error (.illegalNumber .floatingPoint
          (whole ++ fractionText ++ 'e' :: exponent.sign ++ word)))
    else
      (digits ++ fractionText ++ exponent.text,
        .token (.real (floatValue whole fractionText exponent.value)))

/-- Reads an integer literal whose leading digits are `first :: digits`.  Word
characters glued to the digits make the whole word illegal. -/
def readInteger (first : Char) (digits following : List Char) : List Char × Reading :=
  let glued := following.takeWhile isWordCharacter
  if glued.isEmpty then
    if first = '0' ∧ digits ≠ [] then
      (digits, integerReading .octal 8 (first :: digits) digits)
    else
      (digits, integerReading .decimal 10 (first :: digits) (first :: digits))
  else
    (digits ++ glued, .error (.illegalNumber .plain (first :: (digits ++ glued))))

/-- Reads the literal that starts with `first` and is not hexadecimal. -/
def readDecimal (first : Char) (rest : List Char) : List Char × Reading :=
  let digits := rest.takeWhile isDecimalDigit
  let following := rest.dropWhile isDecimalDigit
  if startsFloat following then
    readFloat first digits following
  else
    readInteger first digits following

/-- Reads the hexadecimal literal whose marker is `0` and the given letter. -/
def readHexadecimal (letter : Char) (rest : List Char) : List Char × Reading :=
  let word := rest.takeWhile isWordCharacter
  (letter :: word, integerReading .hexadecimal 16 ('0' :: letter :: word) word)

/-- Reads the number literal that starts with the digit `first`. -/
def read (first : Char) (rest : List Char) : List Char × Reading :=
  match rest with
  | letter :: following =>
    if first = '0' ∧ (letter = 'x' ∨ letter = 'X') then
      readHexadecimal letter following
    else
      readDecimal first rest
  | [] => readDecimal first rest

end Literal
end SyntaxTree
