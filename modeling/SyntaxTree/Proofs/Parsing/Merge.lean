import SyntaxTree.Proofs.Parsing.Decoding

/-!
# Diagnostics of octets in one list

Octets are reported on twice: once while they are decoded, and once more while
their text is scanned.  Decoding counts newline octets and scanning counts newline
characters, yet both count the same lines, because no ill-formed sequence holds a
newline and the blank in its place is none.  The two lists are merged by lines.
-/

namespace SyntaxTree

namespace Diagnostic

/-- Two lists of diagnostics in one list, in the order of their lines. -/
structure Merge (first second merged : List Diagnostic) : Prop where
  sorted : Sorted merged
  perm : merged.Perm (first ++ second)
  /-- On each line stand the diagnostics of the first list before those of the
  second one, both in their order. -/
  onLine : ∀ line, onLine line merged = onLine line first ++ onLine line second

/-- Two lists are merged in exactly one way: by sorting one behind the other. -/
theorem merge_iff (first second merged : List Diagnostic) :
    Merge first second merged ↔ merged = sortByLine (first ++ second) := by
  have onLine_sorted : ∀ line, onLine line (sortByLine (first ++ second)) =
      onLine line first ++ onLine line second := by
    intro line
    rw [onLine_sortByLine, onLine_append]
  constructor
  · intro merge
    apply merge.sorted.eq_of_onLine (sorted_sortByLine _)
    intro line
    rw [merge.onLine, onLine_sorted]
  · rintro rfl
    exact ⟨sorted_sortByLine _, perm_sortByLine _, onLine_sorted⟩

end Diagnostic

namespace Text
namespace Utf8

/-- Whether a piece stands for an ill-formed sequence. -/
def Piece.isIllFormed : Piece → Bool
  | .character _ => false
  | .illFormed _ => true

end Utf8
end Text

namespace TokenLines

open Source
open Segment (covered isError)
open Text.Utf8 hiding decode

/-! ## One numbering of lines -/

/-- The text of the first pieces of a cut has the newlines of their octets. -/
theorem count_newline_pieceText
    {octets : List UInt8}
    {front behind : List Piece}
    (cut : Cut octets (front ++ behind)) :
    (front.map pieceText).count '\n' = (front.flatMap Piece.octets).count 0x0a := by
  induction front generalizing octets with
  | nil => rfl
  | cons piece front inductionHypothesis =>
      rw [List.map_cons, List.count_cons, List.flatMap_cons, List.count_append, Nat.add_comm]
      cases cut with
      | character value cut =>
          rw [inductionHypothesis cut, Piece.octets, count_newline_encoding]
          simp [pieceText]
      | illFormed isIllFormed cut =>
          rw [inductionHypothesis cut, Piece.octets, isIllFormed.count_newline]
          rfl

/-- Text that stands between others is made of pieces that stand between others. -/
theorem exists_pieces_of_text
    {pieces : List Piece}
    {before lexeme after : List Char}
    (text : pieces.map pieceText = before ++ (lexeme ++ after)) :
    ∃ front own behind, pieces = front ++ (own ++ behind) ∧
      front.map pieceText = before ∧ own.map pieceText = lexeme := by
  obtain ⟨front, rest, rfl, isFront, isRest⟩ := List.map_eq_append_iff.mp text
  obtain ⟨own, behind, rfl, isOwn, -⟩ := List.map_eq_append_iff.mp isRest
  exact ⟨front, own, behind, rfl, isFront, isOwn⟩

/-! ## Both lists in the order of their causes -/

theorem pieceDiagnostics_append (before : List UInt8) (front behind : List Piece) :
    pieceDiagnostics before (front ++ behind) =
      pieceDiagnostics before front ++
        pieceDiagnostics (before ++ front.flatMap Piece.octets) behind := by
  induction front generalizing before with
  | nil => simp [pieceDiagnostics]
  | cons piece front inductionHypothesis =>
      cases piece with
      | character value =>
          rw [List.cons_append, pieceDiagnostics, inductionHypothesis, pieceDiagnostics,
            List.flatMap_cons, Piece.octets, List.append_assoc]
      | illFormed sequence =>
          rw [List.cons_append, pieceDiagnostics, inductionHypothesis, pieceDiagnostics,
            List.flatMap_cons, Piece.octets, List.append_assoc, List.cons_append]

@[simp] theorem length_pieceDiagnostics (before : List UInt8) (pieces : List Piece) :
    (pieceDiagnostics before pieces).length = pieces.countP Piece.isIllFormed := by
  induction pieces generalizing before with
  | nil => rfl
  | cons piece pieces inductionHypothesis =>
      cases piece with
      | character value =>
          rw [pieceDiagnostics, inductionHypothesis, List.countP_cons_of_neg Bool.false_ne_true]
      | illFormed sequence =>
          rw [pieceDiagnostics, List.length_cons, inductionHypothesis,
            List.countP_cons_of_pos rfl]

/-- An ill-formed piece has the diagnostic that follows those of the pieces before it. -/
theorem getElem?_pieceDiagnostics
    (before sequence : List UInt8)
    (front behind : List Piece) :
    (pieceDiagnostics before (front ++ .illFormed sequence :: behind))[
        front.countP Piece.isIllFormed]? =
      some (sequenceDiagnostic (before ++ front.flatMap Piece.octets) sequence) := by
  rw [pieceDiagnostics_append, pieceDiagnostics, ← length_pieceDiagnostics before front,
    List.getElem?_append_right (Nat.le_refl _), Nat.sub_self, List.getElem?_cons_zero]

theorem length_errors (segments : List (Located Segment)) :
    (errors segments).length = segments.countP isError := by
  have lengths := congrArg List.length (Segment.map_errors segments)
  rwa [List.length_map, List.length_map, ← List.countP_eq_length_filter] at lengths

/-- A segment that is read as an error has the error that follows those of the
segments before it. -/
theorem getElem?_errors
    (before after : List (Located Segment))
    (lexeme : List Char)
    (cause : LexicalError)
    (position : Position) :
    (errors (before ++ ⟨⟨lexeme, .error cause⟩, position⟩ :: after))[before.countP isError]? =
      some ⟨cause, position⟩ := by
  have apart : errors (before ++ ⟨⟨lexeme, .error cause⟩, position⟩ :: after) =
      errors before ++ ⟨cause, position⟩ :: errors after := by
    have present : (Reading.error cause).error? = some cause := rfl
    change Segment.found _ _ = _
    rw [Segment.found_append, Segment.found_cons_of_some present]
    rfl
  rw [apart, ← length_errors, List.getElem?_append_right (Nat.le_refl _), Nat.sub_self,
    List.getElem?_cons_zero]

/-- A segment that is read as an error is made of pieces of the octets, and its
diagnostic stands on the line that the newline octets before these pieces give. -/
theorem exists_pieces_of_error
    {octets : List UInt8}
    {pieces : List Piece}
    (cut : Cut octets pieces)
    {before after : List (Located Segment)}
    {lexeme : List Char}
    {cause : LexicalError}
    {position : Position}
    (split : segments octets = before ++ ⟨⟨lexeme, .error cause⟩, position⟩ :: after) :
    ∃ front own behind, pieces = front ++ (own ++ behind) ∧
      front.map pieceText = covered before ∧
      own.map pieceText = lexeme ∧
      (scanningDiagnostics octets)[before.countP isError]? =
        some ⟨.lexical, 1 + (front.flatMap Piece.octets).count 0x0a, cause.message⟩ := by
  have text : pieces.map pieceText = covered before ++ (lexeme ++ covered after) := by
    have whole : covered (segments octets) = (decode octets).characters.toList :=
      Segment.covered_scanFrom _ _
    rwa [split, Segment.covered_append, Segment.covered_cons, (parseOctets_of_cut cut).1,
      eq_comm] at whole
  obtain ⟨front, own, behind, rfl, isFront, isOwn⟩ := exists_pieces_of_text text
  refine ⟨front, own, behind, rfl, isFront, isOwn, ?_⟩
  have positioned : position = Position.behind (covered before) :=
    (Segment.standsBetween_of_scan split).position
  have line : position.line = 1 + (front.flatMap Piece.octets).count 0x0a := by
    rw [positioned, ← isFront, ← count_newline_pieceText cut]
    rfl
  rw [scanningDiagnostics, split, List.getElem?_map, getElem?_errors, Option.map_some, diagnostic,
    line]

/-- The diagnostics of octets are those of decoding and those of scanning, merged by
lines, and as many as there are ill-formed sequences and lexical errors.  Each
ill-formed sequence and each lexical error has its own diagnostic, in their order,
and this stands on the line that the newline octets before the sequence or before
the octets of the lexeme give. -/
theorem diagnostics_merge (octets : List UInt8) :
    let outcome := (parseOctets octets).value
    let pieces := Text.Utf8.decode octets
    pieces.flatMap Piece.octets = octets ∧
      Diagnostic.Merge (decodingDiagnostics octets) (scanningDiagnostics octets)
        outcome.diagnostics ∧
      (decodingDiagnostics octets).length = pieces.countP Piece.isIllFormed ∧
      (scanningDiagnostics octets).length = (segments octets).countP isError ∧
      outcome.errorCount =
        (decode octets).illFormed.size + (errors (segments octets)).length ∧
      (∀ front sequence behind, pieces = front ++ .illFormed sequence :: behind →
        (decodingDiagnostics octets)[front.countP Piece.isIllFormed]? =
          some (sequenceDiagnostic (front.flatMap Piece.octets) sequence)) ∧
      (∀ before lexeme cause position after,
        segments octets = before ++ ⟨⟨lexeme, .error cause⟩, position⟩ :: after →
        ∃ front own behind, pieces = front ++ (own ++ behind) ∧
          front.map pieceText = covered before ∧
          own.map pieceText = lexeme ∧
          (scanningDiagnostics octets)[before.countP isError]? =
            some ⟨.lexical, 1 + (front.flatMap Piece.octets).count 0x0a, cause.message⟩) := by
  intro outcome pieces
  have cut : Cut octets pieces := (cut_iff octets pieces).mpr rfl
  have decoding : decodingDiagnostics octets = pieceDiagnostics [] pieces :=
    (parseOctets_of_cut cut).2.1
  have merge : Diagnostic.Merge (decodingDiagnostics octets) (scanningDiagnostics octets)
      outcome.diagnostics :=
    (Diagnostic.merge_iff _ _ _).mpr rfl
  refine ⟨cut.flatMap_octets, merge, ?_, ?_, ?count, ?sequences, fun _ _ _ _ _ split =>
    exists_pieces_of_error cut split⟩
  · rw [decoding, length_pieceDiagnostics]
  · rw [scanningDiagnostics, List.length_map, length_errors]
  case count =>
    rw [Outcome.errorCount, merge.perm.length_eq, List.length_append, decodingDiagnostics,
      scanningDiagnostics, List.length_map, List.length_map, Array.length_toList]
  case sequences =>
    intro front sequence behind split
    rw [decoding, split, getElem?_pieceDiagnostics, List.nil_append]

/-- The sequence is reported before both characters around it, on their line. -/
theorem diagnostics_merge_betweenCharacters :
    let outcome := (parseOctets [0x26, 0x0a, 0x26, 0xff, 0x26]).value
    outcome.errorCount = 4 ∧
      Diagnostic.onLine 2 outcome.diagnostics =
        [⟨.lexical, 2, "Invalid UTF-8 sequence 0xFF"⟩,
          ⟨.lexical, 2, "Mysterious character '&'"⟩,
          ⟨.lexical, 2, "Mysterious character '&'"⟩] := by
  obtain ⟨-, merge, -, -, count, -, -⟩ := diagnostics_merge [0x26, 0x0a, 0x26, 0xff, 0x26]
  dsimp only
  rw [count, merge.onLine]
  decide +kernel

end TokenLines
end SyntaxTree
