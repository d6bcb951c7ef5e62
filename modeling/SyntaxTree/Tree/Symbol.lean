import SyntaxTree.Number.Fixed

/-!
# Symbols at the nodes of a tree

A symbol is a grammar symbol or a token as it stands at one node: a name, a
kind, a source line and a payload.  The kind decides which payloads a symbol
may carry.
-/

namespace SyntaxTree

open Number

/-- What a node stands for. -/
inductive Kind where
  /-- A grammar symbol that derives at least one token. -/
  | nonTerminal
  /-- A grammar symbol that derived the empty text. -/
  | epsilon
  /-- An identifier token. -/
  | identifier
  /-- A type token. -/
  | typeName
  /-- An integer literal. -/
  | integer
  /-- A floating-point literal. -/
  | real
  /-- Any other token. -/
  | token
deriving DecidableEq, Repr

/-- Value attached to a node. -/
inductive Payload where
  | unset
  | integer (value : Int32)
  | real (value : Binary32)
  | text (value : String)
deriving DecidableEq

namespace Payload

/-- Name of the variant of a payload. -/
def variant : Payload → String
  | .unset => "unset"
  | .integer _ => "int"
  | .real _ => "float"
  | .text _ => "text"

/-- Whether no value was set. -/
def isUnset : Payload → Bool
  | .unset => true
  | _ => false

/-- Text of a payload in a dump; floating-point values have six places. -/
def shown : Payload → String
  | .unset => ""
  | .integer value => toString value.toInt
  | .real value => value.fixed 6
  | .text value => value

/-- Equality of payloads, in which floating-point values compare as numbers. -/
def equals : Payload → Payload → Bool
  | .unset, .unset => true
  | .integer left, .integer right => left == right
  | .real left, .real right => left.equals right
  | .text left, .text right => left == right
  | _, _ => false

end Payload

namespace Kind

/-- Name of a kind in reports. -/
def tag : Kind → String
  | .nonTerminal => "NonTerminal"
  | .epsilon => "EpsilonNonTerminal"
  | .identifier => "IdentifierLeaf"
  | .typeName => "TypeLeaf"
  | .integer => "IntLiteralLeaf"
  | .real => "FloatLiteralLeaf"
  | .token => "NoValueLeaf"

/-- Whether a kind stands for a token rather than a grammar symbol. -/
def isLeaf : Kind → Bool
  | .nonTerminal | .epsilon => false
  | _ => true

/-- Whether a node of this kind is shown with a value behind its name. -/
def carriesValue : Kind → Bool
  | .identifier | .typeName | .integer | .real => true
  | _ => false

/-- Whether a node of this kind may carry the payload. -/
def accepts : Kind → Payload → Bool
  | _, .unset => true
  | .integer, .integer _ => true
  | .real, .real _ => true
  | .identifier, .text _ => true
  | .typeName, .text _ => true
  | _, _ => false

end Kind

/-- A grammar symbol or token as it stands at one node. -/
structure Symbol where
  name : String
  kind : Kind
  line : Nat
  payload : Payload := .unset
deriving DecidableEq

namespace Symbol

/-- Equality of symbols, in which floating-point payloads compare as numbers. -/
def equals (left right : Symbol) : Bool :=
  left.name == right.name && left.kind == right.kind && left.line == right.line &&
    left.payload.equals right.payload

/-- Whether the kind of the symbol accepts its payload. -/
def Accepted (symbol : Symbol) : Prop :=
  symbol.kind.accepts symbol.payload = true

instance (symbol : Symbol) : Decidable symbol.Accepted :=
  inferInstanceAs (Decidable (_ = true))

/-- A symbol without a payload is accepted whatever its kind. -/
theorem accepted_of_unset
    {symbol : Symbol}
    (payloadUnset : symbol.payload = .unset) :
    symbol.Accepted := by
  unfold Accepted
  rw [payloadUnset]
  cases symbol.kind <;> rfl

end Symbol
end SyntaxTree
