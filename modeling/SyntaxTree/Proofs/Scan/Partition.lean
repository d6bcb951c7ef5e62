import Mathlib.Data.List.Perm.Basic
import SyntaxTree.Parsing.TokenLines
import SyntaxTree.Proofs.Lexeme.Reading
import SyntaxTree.Proofs.Source.Position

/-!
# The partition of a source text

A scan finds the segments of a source text with their positions.  Its segments
follow each other without gap or overlap, each is a lexeme in front of the rest
of the text, and its position is the one that counting gives.  So no two
segments share a position.
-/

namespace SyntaxTree
namespace Segment

open Source

/-- Segments of a text that starts at a position. -/
def scanFrom (position : Position) (text : List Char) : List (Located Segment) :=
  locate position (cut text)

/-- Segments of a source text. -/
def scan (text : List Char) : List (Located Segment) :=
  scanFrom .start text

/-- Text that located segments cover. -/
def covered (segments : List (Located Segment)) : List Char :=
  segments.flatMap (·.value.lexeme)

@[simp] theorem scanFrom_nil (position : Position) : scanFrom position [] = [] := by
  simp [scanFrom]

@[simp] theorem covered_nil : covered [] = [] :=
  rfl

@[simp] theorem covered_cons (segment : Located Segment) (segments : List (Located Segment)) :
    covered (segment :: segments) = segment.value.lexeme ++ covered segments :=
  List.flatMap_cons

@[simp] theorem covered_append (left right : List (Located Segment)) :
    covered (left ++ right) = covered left ++ covered right :=
  List.flatMap_append

/-- A scan finds the lexeme in front and goes on behind it. -/
theorem Lexeme.scanFrom_append
    {lexeme following : List Char}
    {reading : Reading}
    (described : Lexeme lexeme reading following)
    (position : Position) :
    scanFrom position (lexeme ++ following) =
      ⟨⟨lexeme, reading⟩, position⟩ :: scanFrom (position.after lexeme) following := by
  rw [scanFrom, described.cut_append, locate_cons, scanFrom]

/-- The segments of a text cover it without gap or overlap. -/
@[simp] theorem covered_scanFrom (position : Position) (text : List Char) :
    covered (scanFrom position text) = text := by
  induction text using lexeme_induction generalizing position with
  | empty => simp
  | step lexeme reading following described inductionHypothesis =>
      rw [described.scanFrom_append, covered_cons, inductionHypothesis]

/-- Wherever the segments of a text are split, the segment there is a lexeme at
the position reached so far, and the scan goes on behind it. -/
theorem scanFrom_split
    {position : Position}
    {text : List Char}
    {before after : List (Located Segment)}
    {segment : Located Segment}
    (split : scanFrom position text = before ++ segment :: after) :
    ∃ following,
      Lexeme segment.value.lexeme segment.value.reading following ∧
        segment.position = position.after (covered before) ∧
        after = scanFrom (segment.position.after segment.value.lexeme) following := by
  induction text using lexeme_induction generalizing position before with
  | empty => simp at split
  | step lexeme reading following described inductionHypothesis =>
      rw [described.scanFrom_append] at split
      cases before with
      | nil =>
          rw [List.nil_append, List.cons.injEq] at split
          obtain ⟨rfl, rfl⟩ := split
          exact ⟨following, described, rfl, rfl⟩
      | cons earlier before =>
          rw [List.cons_append, List.cons.injEq] at split
          obtain ⟨rfl, split⟩ := split
          obtain ⟨rest, isLexeme, positioned, continued⟩ := inductionHypothesis split
          refine ⟨rest, isLexeme, ?_, continued⟩
          rw [positioned, covered_cons, Position.after_append]

/-- A segment with the right class and position between the segments before and
after it. -/
structure StandsBetween
    (before : List (Located Segment))
    (segment : Located Segment)
    (after : List (Located Segment)) : Prop where
  nonempty : segment.value.lexeme ≠ []
  /-- The lexeme is of the class of its reading, and the rest of the text does
  not lengthen it. -/
  lexeme : Lexeme segment.value.lexeme segment.value.reading (covered after)
  /-- Trivia is a blank or a comment, and only at the end of the text may a line
  comment lack its newline. -/
  trivia : segment.value.reading = .trivia →
    (∃ piece : Trivia, segment.value.lexeme = piece.text) ∨
      after = [] ∧ ∃ body, '\n' ∉ body ∧ segment.value.lexeme = '/' :: '/' :: body
  /-- Only the last segment can be a block comment without an end. -/
  unterminated : segment.value.reading = .error .unterminatedComment →
    after = [] ∧ ∃ body, Unclosed body ∧ segment.value.lexeme = '/' :: '*' :: body
  position : segment.position = Position.behind (covered before)

/-- Each lexeme read as trivia is a blank or a comment. -/
theorem Lexeme.of_trivia
    {lexeme following : List Char}
    (described : Lexeme lexeme .trivia following) :
    (∃ piece : Trivia, lexeme = piece.text) ∨
      following = [] ∧ ∃ body, '\n' ∉ body ∧ lexeme = '/' :: '/' :: body := by
  generalize isTrivia : Reading.trivia = reading at described
  cases described with
  | trivia piece => exact Or.inl ⟨piece, rfl⟩
  | lastLine oneLine => exact Or.inr ⟨rfl, _, oneLine, rfl⟩
  | number isDigit number =>
      subst isTrivia
      cases number.isNumberReading
  | _ => contradiction

/-- A lexeme read as an unterminated comment is an open block comment that
nothing follows. -/
theorem Lexeme.of_unterminated
    {lexeme following : List Char}
    (described : Lexeme lexeme (.error .unterminatedComment) following) :
    following = [] ∧ ∃ body, Unclosed body ∧ lexeme = '/' :: '*' :: body := by
  generalize isOpen : Reading.error .unterminatedComment = reading at described
  cases described with
  | unterminated unclosed => exact ⟨rfl, _, unclosed, rfl⟩
  | number isDigit number =>
      subst isOpen
      cases number.isNumberReading
  | _ => simp at isOpen

/-- Every segment of a source text has its class and its position. -/
theorem standsBetween_of_scan
    {text : List Char}
    {before after : List (Located Segment)}
    {segment : Located Segment}
    (split : scan text = before ++ segment :: after) :
    StandsBetween before segment after := by
  obtain ⟨following, described, positioned, rfl⟩ := scanFrom_split split
  have noneAfter : following = [] →
      scanFrom (segment.position.after segment.value.lexeme) following = [] := by
    rintro rfl
    exact scanFrom_nil _
  constructor
  · exact described.ne_nil
  · rwa [covered_scanFrom]
  · intro isTrivia
    rw [isTrivia] at described
    exact described.of_trivia.imp id (And.imp_left noneAfter)
  · intro isOpen
    rw [isOpen] at described
    exact described.of_unterminated.imp noneAfter id
  · rw [positioned, Position.after_start]

/-! ## Distinct positions -/

/-- No segment starts before the text does. -/
theorem position_of_mem_scanFrom
    {position : Position}
    {text : List Char}
    {segment : Located Segment}
    (member : segment ∈ scanFrom position text) :
    segment.position = position ∨ position.Before segment.position := by
  obtain ⟨before, after, split⟩ := List.append_of_mem member
  obtain ⟨-, -, positioned, -⟩ := scanFrom_split split
  rw [positioned]
  by_cases first : covered before = []
  · exact Or.inl (by rw [first, Position.after_nil])
  · exact Or.inr (Position.before_after position first)

/-- Each segment starts before those behind it. -/
theorem pairwise_before_scanFrom (position : Position) (text : List Char) :
    (scanFrom position text).Pairwise fun left right => left.position.Before right.position := by
  induction text using lexeme_induction generalizing position with
  | empty => simp
  | step lexeme reading following described inductionHypothesis =>
      rw [described.scanFrom_append, List.pairwise_cons]
      refine ⟨?_, inductionHypothesis _⟩
      intro segment member
      have forward : position.Before (position.after lexeme) :=
        Position.before_after position described.ne_nil
      rcases position_of_mem_scanFrom member with equal | before
      · rwa [equal]
      · exact forward.trans before

/-- A text has at most as many segments as characters. -/
theorem length_scanFrom_le (position : Position) (text : List Char) :
    (scanFrom position text).length ≤ text.length := by
  induction text using lexeme_induction generalizing position with
  | empty => simp
  | step lexeme reading following described inductionHypothesis =>
      have nonempty := List.length_pos_iff.mpr described.ne_nil
      have shorter := inductionHypothesis (position.after lexeme)
      rw [described.scanFrom_append, List.length_cons, List.length_append]
      omega

/-! ## Tokens and errors of a scan -/

/-- What is chosen from the readings of segments, with its positions. -/
def found (choose : Reading → Option β) (segments : List (Located Segment)) : List (Located β) :=
  segments.filterMap (·.filterMap (choose ·.reading))

theorem found_cons_of_none
    {choose : Reading → Option β}
    {segment : Located Segment}
    (absent : choose segment.value.reading = none)
    (segments : List (Located Segment)) :
    found choose (segment :: segments) = found choose segments := by
  apply List.filterMap_cons_none
  rw [Located.filterMap, absent, Option.map_none]

theorem found_cons_of_some
    {choose : Reading → Option β}
    {segment : Located Segment}
    {value : β}
    (present : choose segment.value.reading = some value)
    (segments : List (Located Segment)) :
    found choose (segment :: segments) = ⟨value, segment.position⟩ :: found choose segments := by
  apply List.filterMap_cons_some
  rw [Located.filterMap, present, Option.map_some]

/-- What is found is, in its order, what the chosen segments are read as. -/
theorem map_found
    {choose : Reading → Option β}
    {read : β → Reading}
    (chosen : ∀ reading value, choose reading = some value → reading = read value)
    (segments : List (Located Segment)) :
    (found choose segments).map (fun located => (read located.value, located.position)) =
      (segments.filter fun segment => (choose segment.value.reading).isSome).map
        fun segment => (segment.value.reading, segment.position) := by
  induction segments with
  | nil => rfl
  | cons segment segments inductionHypothesis =>
      cases choice : choose segment.value.reading with
      | none =>
          rw [found_cons_of_none choice, List.filter_cons_of_neg (by simp [choice]),
            inductionHypothesis]
      | some value =>
          rw [found_cons_of_some choice, List.filter_cons_of_pos (by simp [choice]),
            List.map_cons, List.map_cons, inductionHypothesis, chosen _ _ choice]

/-- Whether a segment is the lexeme of a token. -/
def isToken (segment : Located Segment) : Bool :=
  segment.value.reading.token?.isSome

/-- Whether a segment is the lexeme of an error. -/
def isError (segment : Located Segment) : Bool :=
  segment.value.reading.error?.isSome

theorem eq_token_of_token?
    (reading : Reading)
    (token : Token)
    (isToken : reading.token? = some token) :
    reading = .token token := by
  cases reading with
  | token other => exact congrArg Reading.token (Option.some_inj.mp isToken)
  | _ => contradiction

theorem eq_error_of_error?
    (reading : Reading)
    (cause : LexicalError)
    (isError : reading.error? = some cause) :
    reading = .error cause := by
  cases reading with
  | error other => exact congrArg Reading.error (Option.some_inj.mp isError)
  | _ => contradiction

/-- Every error of a text is what one of its segments is read as. -/
theorem exists_split_of_mem_errors
    {segments : List (Located Segment)}
    {error : Located LexicalError}
    (member : error ∈ TokenLines.errors segments) :
    ∃ before lexeme after,
      segments = before ++ ⟨⟨lexeme, .error error.value⟩, error.position⟩ :: after := by
  obtain ⟨⟨⟨lexeme, reading⟩, position⟩, segmentMember, chosen⟩ := List.mem_filterMap.mp member
  obtain ⟨cause, isCause, rfl⟩ := Option.map_eq_some_iff.mp chosen
  obtain rfl := eq_error_of_error? reading cause isCause
  obtain ⟨before, after, split⟩ := List.append_of_mem segmentMember
  exact ⟨before, lexeme, after, split⟩

/-- The tokens are, one by one, what the segments of tokens are read as. -/
theorem map_tokens (segments : List (Located Segment)) :
    (TokenLines.tokens segments).map (fun token => (Reading.token token.value, token.position)) =
      (segments.filter isToken).map fun segment => (segment.value.reading, segment.position) :=
  map_found eq_token_of_token? segments

/-- The errors are, one by one, what the segments of errors are read as. -/
theorem map_errors (segments : List (Located Segment)) :
    (TokenLines.errors segments).map (fun error => (Reading.error error.value, error.position)) =
      (segments.filter isError).map fun segment => (segment.value.reading, segment.position) :=
  map_found eq_error_of_error? segments

/-- What is found in a scan is the reading of a lexeme. -/
theorem lexeme_of_mem_found
    {choose : Reading → Option β}
    {read : β → Reading}
    (chosen : ∀ reading value, choose reading = some value → reading = read value)
    {position : Position}
    {text : List Char}
    {located : Located β}
    (member : located ∈ found choose (scanFrom position text)) :
    ∃ lexeme following, Lexeme lexeme (read located.value) following := by
  have pair : (read located.value, located.position) ∈
      (found choose (scanFrom position text)).map
        fun located => (read located.value, located.position) :=
    List.mem_map.mpr ⟨located, member, rfl⟩
  rw [map_found chosen] at pair
  obtain ⟨segment, filtered, equal⟩ := List.mem_map.mp pair
  obtain ⟨before, after, split⟩ := List.append_of_mem (List.mem_filter.mp filtered).1
  obtain ⟨following, described, -⟩ := scanFrom_split split
  rw [(Prod.mk.inj equal).1] at described
  exact ⟨_, following, described⟩

/-- A token that a scan finds is the reading of a lexeme. -/
theorem lexeme_of_mem_tokens
    {position : Position}
    {text : List Char}
    {token : Located Token}
    (member : token ∈ TokenLines.tokens (scanFrom position text)) :
    ∃ lexeme following, Lexeme lexeme (.token token.value) following :=
  lexeme_of_mem_found eq_token_of_token? member

/-- Tokens and errors together stand at positions of different segments. -/
theorem positions_subperm (segments : List (Located Segment)) :
    ((TokenLines.tokens segments).map (·.position) ++
      (TokenLines.errors segments).map (·.position)).Subperm (segments.map (·.position)) := by
  have tokenPositions := congrArg (List.map Prod.snd) (map_tokens segments)
  have errorPositions := congrArg (List.map Prod.snd) (map_errors segments)
  simp only [List.map_map, Function.comp_def] at tokenPositions errorPositions
  rw [tokenPositions, errorPositions, ← List.map_append]
  have disjoint :
      (segments.filter isError).Sublist (segments.filter fun segment => !isToken segment) := by
    apply List.monotone_filter_right
    rintro ⟨⟨lexeme, reading⟩, position⟩ error
    cases reading with
    | error cause => rfl
    | _ => contradiction
  have sublist := (List.Sublist.refl (segments.filter isToken)).append disjoint
  have perm := List.filter_append_perm isToken segments
  exact (sublist.map _).subperm.trans (perm.map _).subperm

/-- Scanning a source cuts its characters into consecutive non-empty segments.
Each of them is trivia, the lexeme of one token or the lexeme of one error, and
tokens and errors come in the order of their segments and at positions found by
counting. -/
theorem scan_partition (source : String) :
    let segments := scan source.toList
    let tokens := TokenLines.tokens segments
    let errors := TokenLines.errors segments
    covered segments = source.toList ∧
      (∀ before segment after,
        segments = before ++ segment :: after → StandsBetween before segment after) ∧
      tokens.map (fun token => (Reading.token token.value, token.position)) =
        (segments.filter isToken).map (fun segment => (segment.value.reading, segment.position)) ∧
      errors.map (fun error => (Reading.error error.value, error.position)) =
        (segments.filter isError).map (fun segment => (segment.value.reading, segment.position)) ∧
      (tokens.map (·.position) ++ errors.map (·.position)).Nodup ∧
      tokens.length + errors.length ≤ source.length := by
  intro segments tokens errors
  have subperm := positions_subperm segments
  have distinct : (segments.map (·.position)).Nodup := by
    rw [List.Nodup, List.pairwise_map]
    exact (pairwise_before_scanFrom .start source.toList).imp Position.Before.ne
  refine ⟨covered_scanFrom _ _, fun _ _ _ => standsBetween_of_scan, map_tokens segments,
    map_errors segments, ?_, ?_⟩
  · obtain ⟨positions, perm, sublist⟩ := subperm
    exact perm.nodup_iff.mp (distinct.sublist sublist)
  · have count := subperm.length_le
    have bound := length_scanFrom_le .start source.toList
    simp only [List.length_append, List.length_map] at count
    rw [String.length_toList] at bound
    exact Nat.le_trans count bound

/-- The last of these segments is an open block comment on the second line. -/
theorem scan_partition_openComment :
    scan "x&\n/*".toList =
        [⟨⟨['x'], .token (.identifier "x")⟩, ⟨1, 1⟩⟩,
          ⟨⟨['&'], .error (.strayCharacter '&')⟩, ⟨1, 2⟩⟩,
          ⟨⟨['\n'], .trivia⟩, ⟨1, 3⟩⟩,
          ⟨⟨['/', '*'], .error .unterminatedComment⟩, ⟨2, 1⟩⟩] ∧
      StandsBetween
        [⟨⟨['x'], .token (.identifier "x")⟩, ⟨1, 1⟩⟩,
          ⟨⟨['&'], .error (.strayCharacter '&')⟩, ⟨1, 2⟩⟩,
          ⟨⟨['\n'], .trivia⟩, ⟨1, 3⟩⟩]
        ⟨⟨['/', '*'], .error .unterminatedComment⟩, ⟨2, 1⟩⟩ [] := by
  have scanned : scan "x&\n/*".toList =
      [⟨⟨['x'], .token (.identifier "x")⟩, ⟨1, 1⟩⟩,
        ⟨⟨['&'], .error (.strayCharacter '&')⟩, ⟨1, 2⟩⟩,
        ⟨⟨['\n'], .trivia⟩, ⟨1, 3⟩⟩] ++
        [⟨⟨['/', '*'], .error .unterminatedComment⟩, ⟨2, 1⟩⟩] := by
    decide +kernel
  exact ⟨scanned, (scan_partition "x&\n/*").2.1 _ _ _ scanned⟩

end Segment
end SyntaxTree
