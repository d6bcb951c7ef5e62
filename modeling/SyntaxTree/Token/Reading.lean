import SyntaxTree.Token.Basic

/-!
# Readings of a lexeme

A lexeme is read as trivia, as a token or as a lexical error.  A lexical error
names its cause; the wording of all causes is one function.
-/

namespace SyntaxTree

/-- Notations in which a number can be illegal. -/
inductive NumberForm where
  | plain
  | decimal
  | octal
  | hexadecimal
  | floatingPoint
deriving DecidableEq, Repr

/-- Name of a number form in front of the word `number`. -/
def NumberForm.adjective : NumberForm → String
  | .plain => ""
  | .decimal => "decimal "
  | .octal => "octal "
  | .hexadecimal => "hexadecimal "
  | .floatingPoint => "floating point "

/-- Why a lexeme is no token. -/
inductive LexicalError where
  | unterminatedComment
  | strayCharacter (character : Char)
  | illegalNumber (form : NumberForm) (text : List Char)
deriving DecidableEq, Repr

/-- Wording of a lexical error. -/
def LexicalError.message : LexicalError → String
  | .unterminatedComment => "Unterminated block comment"
  | .strayCharacter character => "Mysterious character '" ++ String.singleton character ++ "'"
  | .illegalNumber form text =>
    "Illegal " ++ form.adjective ++ "number '" ++ String.ofList text ++ "'"

/-- What a lexeme was read as. -/
inductive Reading where
  | trivia
  | token (found : Token)
  | error (cause : LexicalError)
deriving DecidableEq

namespace Reading

/-- The token of a reading, if it is one. -/
def token? : Reading → Option Token
  | .token found => some found
  | _ => none

/-- The lexical error of a reading, if it is one. -/
def error? : Reading → Option LexicalError
  | .error cause => some cause
  | _ => none

end Reading
end SyntaxTree
