/-!
# Numerals

A numeral is a non-empty run of digits in some radix up to sixteen.  Letters
stand for the digits from ten on, in either case.
-/

namespace SyntaxTree
namespace Number

/-- Whether a character is one of the ten decimal digits. -/
def isDecimalDigit (character : Char) : Bool :=
  '0' ≤ character && character ≤ '9'

/-- Value of a digit in radix sixteen, if the character is one. -/
def hexadecimalValue? (character : Char) : Option Nat :=
  if '0' ≤ character && character ≤ '9' then
    some (character.toNat - '0'.toNat)
  else if 'a' ≤ character && character ≤ 'f' then
    some (character.toNat - 'a'.toNat + 10)
  else if 'A' ≤ character && character ≤ 'F' then
    some (character.toNat - 'A'.toNat + 10)
  else
    none

/-- Value of a digit in the given radix, if the character is one. -/
def digitValue? (radix : Nat) (character : Char) : Option Nat :=
  (hexadecimalValue? character).filter (· < radix)

/-- Appends the digits to a value already read, most significant first. -/
def appendDigits? (radix : Nat) : Nat → List Char → Option Nat
  | value, [] => some value
  | value, digit :: digits =>
    match digitValue? radix digit with
    | some digitValue => appendDigits? radix (value * radix + digitValue) digits
    | none => none

/-- Value of a numeral; `none` if it is empty or holds a character that is no
digit of the radix. -/
def numeral? (radix : Nat) : List Char → Option Nat
  | [] => none
  | digits => appendDigits? radix 0 digits

/-- Value of a run of decimal digits, zero for the empty run. -/
def decimalValue (digits : List Char) : Nat :=
  digits.foldl (fun value digit => value * 10 + (digit.toNat - '0'.toNat)) 0

end Number
end SyntaxTree
