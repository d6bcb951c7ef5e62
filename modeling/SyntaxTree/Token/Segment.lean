import SyntaxTree.Source.Position
import SyntaxTree.Token.Literal

/-!
# Segments of a source text

A source text is cut into consecutive segments.  Each segment is a non-empty
lexeme with what it is read as: trivia, one token or one lexical error.  An
error never stops the cut, so one pass finds every error of the text.
-/

namespace SyntaxTree

open Source

/-- A lexeme with what it is read as. -/
structure Segment where
  lexeme : List Char
  reading : Reading
deriving DecidableEq

namespace Segment

/-- Whether a character separates lexemes. -/
def isBlank (character : Char) : Bool :=
  character == ' ' || character == '\t' || character == '\r' || character == '\n'

/-- Whether a character can open a word. -/
def isWordStart (character : Char) : Bool :=
  character.isAlpha || character == '_'

/-- The rest of a line with the newline that ends it. -/
def restOfLine (text : List Char) : List Char :=
  text.takeWhile (· != '\n') ++ (text.dropWhile (· != '\n')).take 1

/-- The characters up to the end of a block comment, behind those already
passed, which are kept in reverse. -/
def untilCommentEnd (passed : List Char) : List Char → Option (List Char)
  | [] => none
  | '*' :: '/' :: _ => some ('/' :: '*' :: passed).reverse
  | character :: rest => untilCommentEnd (character :: passed) rest

/-- Reads what starts with a slash: a comment or the division mark. -/
def readSlash : List Char → List Char × Reading
  | '/' :: rest => ('/' :: restOfLine rest, .trivia)
  | '*' :: rest =>
    match untilCommentEnd [] rest with
    | some body => ('*' :: body, .trivia)
    | none => ('*' :: rest, .error .unterminatedComment)
  | _ => ([], .token (.mark .slash))

/-- Reads a mark that an equality sign behind it turns into a relation. -/
def readBeforeEqual (joined alone : Token) : List Char → List Char × Reading
  | '=' :: _ => (['='], .token joined)
  | _ => ([], .token alone)

/-- Reads a mark that is only legal twice in a row. -/
def readTwice (first : Char) (mark : Mark) : List Char → List Char × Reading
  | next :: _ =>
    if next = first then
      ([next], .token (.mark mark))
    else
      ([], .error (.strayCharacter first))
  | [] => ([], .error (.strayCharacter first))

/-- Reads the segment that starts with a character that is neither blank nor a
word character. -/
def readMark (first : Char) (rest : List Char) : List Char × Reading :=
  match first with
  | '/' => readSlash rest
  | '>' => readBeforeEqual (.relation .greaterEqual) (.relation .greater) rest
  | '<' => readBeforeEqual (.relation .lessEqual) (.relation .less) rest
  | '=' => readBeforeEqual (.relation .equal) (.mark .assign) rest
  | '!' => readBeforeEqual (.relation .notEqual) (.mark .negation) rest
  | '&' => readTwice '&' .conjunction rest
  | '|' => readTwice '|' .disjunction rest
  | '+' => ([], .token (.mark .plus))
  | '-' => ([], .token (.mark .minus))
  | '*' => ([], .token (.mark .star))
  | '.' => ([], .token (.mark .dot))
  | ';' => ([], .token (.mark .semicolon))
  | ',' => ([], .token (.mark .comma))
  | '(' => ([], .token (.mark .leftParenthesis))
  | ')' => ([], .token (.mark .rightParenthesis))
  | '[' => ([], .token (.mark .leftBracket))
  | ']' => ([], .token (.mark .rightBracket))
  | '\x7b' => ([], .token (.mark .leftBrace))
  | '\x7d' => ([], .token (.mark .rightBrace))
  | stray => ([], .error (.strayCharacter stray))

/-- Reads the segment that starts with `first`: the characters of its lexeme
behind the first one, and what the lexeme is read as. -/
def read (first : Char) (rest : List Char) : List Char × Reading :=
  if isBlank first then
    ([], .trivia)
  else if Number.isDecimalDigit first then
    Literal.read first rest
  else if isWordStart first then
    let word := rest.takeWhile Literal.isWordCharacter
    (word, .token (Token.ofWord (String.ofList (first :: word))))
  else
    readMark first rest

/-- Cuts a text into segments behind those already cut. -/
def cutFrom (segments : Array Segment) : List Char → Array Segment
  | [] => segments
  | first :: rest =>
    let (tail, reading) := read first rest
    cutFrom (segments.push ⟨first :: tail, reading⟩) (rest.drop tail.length)
termination_by text => text.length
decreasing_by
  simp only [List.length_drop, List.length_cons]
  omega

/-- Cuts a text into its segments. -/
def cut (text : List Char) : List Segment :=
  (cutFrom #[] text).toList

/-- The position behind the segments met so far, and where each of them starts. -/
abbrev Locating := Position × Array (Located Segment)

/-- Notes where the next segment starts and moves behind it. -/
def locateNext (state : Locating) (segment : Segment) : Locating :=
  (state.1.after segment.lexeme, state.2.push ⟨segment, state.1⟩)

/-- Finds where each segment starts when the first one starts at `position`. -/
def locate (position : Position) (segments : List Segment) : List (Located Segment) :=
  (segments.foldl locateNext (position, #[])).2.toList

/-- Segments already cut stay in front of the others. -/
theorem cutFrom_eq_append
    (segments : Array Segment) :
    (text : List Char) → cutFrom segments text = segments ++ cutFrom #[] text
  | [] => by simp [cutFrom]
  | first :: rest => by
    rw [cutFrom, cutFrom]
    dsimp only
    rw [cutFrom_eq_append (segments.push _), cutFrom_eq_append (Array.push #[] _)]
    simp
termination_by text => text.length

@[simp] theorem cut_nil : cut [] = [] := by
  simp [cut, cutFrom]

/-- The first segment is read off the start of the text, the others off what
its lexeme leaves. -/
theorem cut_cons (first : Char) (rest : List Char) :
    cut (first :: rest) =
      ⟨first :: (read first rest).1, (read first rest).2⟩ ::
        cut (rest.drop (read first rest).1.length) := by
  rw [cut, cutFrom]
  dsimp only
  rw [cutFrom_eq_append]
  simp [cut]

/-- Segments already located stay in front of the others. -/
theorem foldl_locateNext
    (position : Position)
    (located : Array (Located Segment))
    (segments : List Segment) :
    (segments.foldl locateNext (position, located)).2 =
      located ++ (segments.foldl locateNext (position, #[])).2 := by
  induction segments generalizing position located with
  | nil => simp
  | cons segment segments inductionHypothesis =>
    rw [List.foldl_cons, List.foldl_cons, locateNext, locateNext,
      inductionHypothesis _ (located.push _), inductionHypothesis _ (Array.push #[] _)]
    simp

@[simp] theorem locate_nil (position : Position) : locate position [] = [] :=
  rfl

/-- The first segment starts at the given position, the next one behind it. -/
theorem locate_cons
    (position : Position)
    (segment : Segment)
    (segments : List Segment) :
    locate position (segment :: segments) =
      ⟨segment, position⟩ :: locate (position.after segment.lexeme) segments := by
  rw [locate, List.foldl_cons, locateNext, foldl_locateNext]
  simp [locate]

end Segment
end SyntaxTree
