import SyntaxTree.Proofs.Text.Utf8
import SyntaxTree.Source.Decoding

/-!
# Decoded texts one below the other

Octets on both sides of a newline are decoded apart.  The text of the whole is
made of the two texts, and reports on the lower one move down by the lines of
the upper one.
-/

namespace SyntaxTree
namespace Source

open Text

namespace IllFormed

/-- The same report some lines further down. -/
def down (lines : Nat) (illFormed : IllFormed) : IllFormed :=
  ⟨illFormed.line + lines, illFormed.octets⟩

@[simp] theorem line_down (lines : Nat) (illFormed : IllFormed) :
    (illFormed.down lines).line = illFormed.line + lines :=
  rfl

end IllFormed

namespace DecodedText

/-- A text that goes on where another one ends. -/
def append (upper lower : DecodedText) : DecodedText :=
  ⟨upper.characters ++ lower.characters,
    upper.illFormed ++ lower.illFormed.map (IllFormed.down (upper.line - 1)),
    lower.line + (upper.line - 1)⟩

/-- A piece is added to the lower of two texts. -/
theorem push_append (upper lower : DecodedText) (piece : Utf8.Piece) :
    (upper.append lower).push piece = upper.append (lower.push piece) := by
  cases piece with
  | character value =>
      by_cases newline : value = '\n'
      · simp [push, append, newline, Nat.add_right_comm]
      · simp [push, append, newline]
  | illFormed octets => simp [push, append, IllFormed.down]

theorem foldl_push_append (upper lower : DecodedText) (pieces : List Utf8.Piece) :
    pieces.foldl push (upper.append lower) = upper.append (pieces.foldl push lower) := by
  induction pieces generalizing lower with
  | nil => rfl
  | cons piece pieces inductionHypothesis =>
      rw [List.foldl_cons, push_append, inductionHypothesis, List.foldl_cons]

theorem append_empty
    {upper : DecodedText}
    (positive : 0 < upper.line) :
    upper.append empty = upper := by
  have line : 1 + (upper.line - 1) = upper.line := by omega
  simp [append, empty, line]

/-! ## Lines -/

/-- The line of a text counts its newlines, and reports stand on its lines. -/
structure CountsLines (decoded : DecodedText) : Prop where
  line : decoded.line = 1 + decoded.characters.toList.count '\n'
  reports : ∀ report ∈ decoded.illFormed, 1 ≤ report.line ∧ report.line ≤ decoded.line

theorem countsLines_empty : empty.CountsLines :=
  ⟨rfl, by simp [empty]⟩

/-- Adding a piece keeps the lines counted. -/
theorem CountsLines.push
    {decoded : DecodedText}
    (counts : decoded.CountsLines)
    (piece : Utf8.Piece) :
    (decoded.push piece).CountsLines := by
  obtain ⟨line, reports⟩ := counts
  cases piece with
  | character value =>
      by_cases newline : value = '\n'
      · refine ⟨by simp [DecodedText.push, newline, line, Nat.add_assoc], ?_⟩
        intro report member
        have within := reports report member
        simp only [DecodedText.push, newline, if_true]
        omega
      · refine ⟨by simp [DecodedText.push, newline, line], ?_⟩
        simpa [DecodedText.push, newline] using reports
  | illFormed octets =>
      refine ⟨by simp [DecodedText.push, line], ?_⟩
      intro report member
      rcases Array.mem_push.mp member with earlier | rfl
      · exact reports report earlier
      · exact ⟨by dsimp only; omega, Nat.le_refl _⟩

theorem CountsLines.foldl_push
    {decoded : DecodedText}
    (counts : decoded.CountsLines)
    (pieces : List Utf8.Piece) :
    (pieces.foldl DecodedText.push decoded).CountsLines := by
  induction pieces generalizing decoded with
  | nil => exact counts
  | cons piece pieces inductionHypothesis => exact inductionHypothesis (counts.push piece)

theorem line_foldl_push (decoded : DecodedText) (pieces : List Utf8.Piece) :
    (pieces.foldl push decoded).line = decoded.line + pieces.count (.character '\n') := by
  induction pieces generalizing decoded with
  | nil => rfl
  | cons piece pieces inductionHypothesis =>
      rw [List.foldl_cons, inductionHypothesis, List.count_cons]
      cases piece with
      | character value =>
          by_cases newline : value = '\n'
          · simp [push, newline, Nat.add_assoc, Nat.add_comm]
          · simp [push, newline]
      | illFormed octets => simp [push]

end DecodedText

/-- Behind decoded octets stands the line that their newlines give. -/
theorem line_decode (octets : List UInt8) : (decode octets).line = 1 + octets.count 0x0a := by
  rw [decode, DecodedText.line_foldl_push, Utf8.count_newline_decode]
  rfl

theorem countsLines_decode (octets : List UInt8) : (decode octets).CountsLines :=
  DecodedText.countsLines_empty.foldl_push (Utf8.decode octets)

/-- Decoding neither adds nor loses a newline. -/
theorem count_newline_decode (octets : List UInt8) :
    (decode octets).characters.toList.count '\n' = octets.count 0x0a := by
  have counts := (countsLines_decode octets).line
  have line := line_decode octets
  omega

/-- Reports stand on the lines that the octets have. -/
theorem line_of_mem_illFormed
    {octets : List UInt8}
    {report : IllFormed}
    (member : report ∈ (decode octets).illFormed) :
    1 ≤ report.line ∧ report.line ≤ 1 + octets.count 0x0a := by
  rw [← line_decode]
  exact (countsLines_decode octets).reports report member

/-- Octets behind a newline are decoded on their own. -/
theorem decode_append_newline (left right : List UInt8) :
    decode (left ++ 0x0a :: right) =
      ((decode left).push (.character '\n')).append (decode right) := by
  have positive : 0 < ((decode left).push (.character '\n')).line := by simp [DecodedText.push]
  rw [decode, Utf8.decode_append_newline, List.foldl_append, List.foldl_cons]
  change List.foldl _ ((decode left).push (.character '\n')) _ = _
  rw [← DecodedText.append_empty positive, DecodedText.foldl_push_append,
    DecodedText.append_empty positive]
  rfl

theorem characters_decode_append_newline (left right : List UInt8) :
    (decode (left ++ 0x0a :: right)).characters.toList =
      (decode left).characters.toList ++ '\n' :: (decode right).characters.toList := by
  simp [decode_append_newline, DecodedText.append, DecodedText.push]

/-- Reports on octets behind a newline move down by the lines before it. -/
theorem illFormed_decode_append_newline (left right : List UInt8) :
    (decode (left ++ 0x0a :: right)).illFormed.toList =
      (decode left).illFormed.toList ++
        (decode right).illFormed.toList.map (IllFormed.down (1 + left.count 0x0a)) := by
  simp [decode_append_newline, DecodedText.append, DecodedText.push, line_decode]

end Source
end SyntaxTree
