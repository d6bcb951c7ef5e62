/-!
# Positions in a source text

A position is a line and a column, both counted from one.  Columns count
characters, and a newline ends its line.
-/

namespace SyntaxTree
namespace Source

/-- A line and a column, both counted from one. -/
structure Position where
  line : Nat
  column : Nat
deriving DecidableEq, Repr, Inhabited

namespace Position

/-- Where every text starts. -/
def start : Position := ⟨1, 1⟩

/-- Position behind one character. -/
def advance (position : Position) (character : Char) : Position :=
  if character = '\n' then
    ⟨position.line + 1, 1⟩
  else
    ⟨position.line, position.column + 1⟩

/-- Position behind a text. -/
def after (position : Position) (text : List Char) : Position :=
  text.foldl advance position

@[simp] theorem after_nil (position : Position) :
    position.after [] = position :=
  rfl

@[simp] theorem after_cons
    (position : Position)
    (character : Char)
    (text : List Char) :
    position.after (character :: text) = (position.advance character).after text :=
  rfl

@[simp] theorem after_append
    (position : Position)
    (text following : List Char) :
    position.after (text ++ following) = (position.after text).after following :=
  List.foldl_append

end Position

/-- Something found at a position. -/
structure Located (α : Type) where
  value : α
  position : Position
deriving DecidableEq, Repr

namespace Located

/-- Replaces what was found and keeps its position, or drops both. -/
def filterMap
    (choose : α → Option β)
    (located : Located α) : Option (Located β) :=
  (choose located.value).map fun value => ⟨value, located.position⟩

end Located
end Source
end SyntaxTree
