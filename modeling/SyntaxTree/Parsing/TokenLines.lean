import SyntaxTree.Parsing.Outcome
import SyntaxTree.Source.Decoding
import SyntaxTree.Token.Segment
import SyntaxTree.Tree.Edit

/-!
# Trees of token lines

A parser that recognises tokens only.  The tree has one subtree for every line
that holds tokens, and below it the tokens of that line in their order.
-/

namespace SyntaxTree
namespace TokenLines

open Log Source

/-- Tokens of a text with their positions. -/
def tokens (segments : List (Located Segment)) : List (Located Token) :=
  segments.filterMap (·.filterMap (·.reading.token?))

/-- Lexical errors of a text with their positions. -/
def errors (segments : List (Located Segment)) : List (Located LexicalError) :=
  segments.filterMap (·.filterMap (·.reading.error?))

/-- Leaf of a token. -/
def leaf (token : Located Token) : Tree :=
  let line := token.position.line
  match token.value with
  | .integer value => .integer value line
  | .real value => .real value line
  | .identifier name => .identifier name line
  | .typeName type => .typeName type.spelling line
  | other => .token other.label line

/-- Whether two tokens stand on one line. -/
def sameLine (left right : Located Token) : Bool :=
  left.position.line == right.position.line

/-- Maximal runs of tokens that stand on one line. -/
def groups (tokens : List (Located Token)) : List (List (Located Token)) :=
  tokens.splitBy sameLine

/-- Line on which a run of tokens stands. -/
def lineOf : List (Located Token) → Nat
  | [] => 1
  | first :: _ => first.position.line

/-- Subtree of the tokens of one line. -/
def lineTree (group : List (Located Token)) : Logged Tree :=
  (Tree.nonTerminal "TokenLine" (lineOf group)).appendAll (group.map leaf)

/-- Tree of all tokens, the empty symbol if there are none. -/
def tree (tokens : List (Located Token)) : Logged Tree :=
  if tokens.isEmpty then
    ⟨.epsilon "Program" 1, []⟩
  else
    let lines := (groups tokens).map lineTree
    let root := (Tree.nonTerminal "Program" (lineOf tokens)).appendAll (lines.map (·.value))
    ⟨root.value,
      (lines.zip root.events).flatMap fun (line, appended) => line.events ++ [appended]⟩

/-- Diagnostic of a lexical error. -/
def diagnostic (error : Located LexicalError) : Diagnostic :=
  ⟨.lexical, error.position.line, error.value.message⟩

/-- Parses a text of which some errors are already known. -/
def parseText (known : List Diagnostic) (text : List Char) : Logged Outcome :=
  let segments := Segment.locate .start (Segment.cut text)
  let tokens := tokens segments
  let diagnostics := Diagnostic.sortByLine (known ++ (errors segments).map diagnostic)
  let tree := tree tokens
  ⟨⟨some tree.value, diagnostics⟩,
    tree.events ++ [.textParsed tokens.length diagnostics.length]⟩

/-- Parses a text. -/
def parseSource (source : String) : Logged Outcome :=
  parseText [] source.toList

/-- Parses octets; ill-formed sequences are counted and read as blanks. -/
def parseOctets (octets : List UInt8) : Logged Outcome :=
  let decoded := Source.decode octets
  let known := decoded.illFormed.toList.map fun illFormed =>
    (⟨.lexical, illFormed.line, illFormed.message⟩ : Diagnostic)
  parseText known decoded.characters.toList

/-- The parser that reads its input and parses the octets. -/
def parser : Parser := fun chunks =>
  match Chunk.readAll chunks with
  | .error message => ⟨.error (.unreadable message), []⟩
  | .ok octets =>
    let outcome := parseOctets octets
    ⟨.ok outcome.value, outcome.events⟩

end TokenLines
end SyntaxTree
