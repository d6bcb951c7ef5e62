import SyntaxTree.Pattern.Check

/-!
# Values of fields

A filter can ask for the value of a field: a number or a pattern that the
written value has to match.
-/

namespace SyntaxTree
namespace Log
namespace FieldValue

/-- Whether a text is empty or an exponent. -/
def isExponent : List Char → Bool
  | [] => true
  | letter :: rest =>
    let digits := match rest with
      | '+' :: digits => digits
      | '-' :: digits => digits
      | digits => digits
    (letter = 'e' || letter = 'E') && !digits.isEmpty && digits.all Char.isDigit

/-- Whether a text is a decimal with an optional point and an optional exponent. -/
def isDecimal (text : List Char) : Bool :=
  let whole := text.takeWhile Char.isDigit
  let rest := text.drop whole.length
  match rest with
  | '.' :: rest =>
    let fraction := rest.takeWhile Char.isDigit
    !(whole ++ fraction).isEmpty && isExponent (rest.drop fraction.length)
  | _ => !whole.isEmpty && isExponent rest

/-- Whether a text is a number, which has an optional sign. -/
def isNumber (text : String) : Bool :=
  let unsigned := match text.toList with
    | '+' :: rest => rest
    | '-' :: rest => rest
    | rest => rest
  let name := String.ofList (unsigned.map Char.toLower)
  ["inf", "infinity", "nan"].contains name || isDecimal unsigned

/-- Why a value cannot be asked for, if it cannot.  What is no number is a
pattern. -/
def refusal? (value : String) : Option Pattern.Refusal :=
  if isNumber value then none else Pattern.refusal? value

end FieldValue
end Log
end SyntaxTree
