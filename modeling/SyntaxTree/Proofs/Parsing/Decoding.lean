import SyntaxTree.Proofs.Parsing.Seam
import SyntaxTree.Proofs.Text.Pieces

/-!
# Text and diagnostics of octets

The text of octets has one character for every piece that the octets are cut
into, a blank for each ill-formed one.  This blank comes with a diagnostic, which
names the octets and stands on the line that the newline octets before them give.
-/

namespace SyntaxTree
namespace TokenLines

open Source
open Text.Utf8 hiding decode
open String (utf8EncodeChar)

/-! ## Names of octets -/

/-- A hexadecimal digit in upper case. -/
def hexadecimalDigit (digit : Fin 16) : Char :=
  ['0', '1', '2', '3', '4', '5', '6', '7', '8', '9', 'A', 'B', 'C', 'D', 'E', 'F'].get digit

/-- Both hexadecimal digits of an octet behind `0x`. -/
def octetName (octet : UInt8) : String :=
  let high := hexadecimalDigit (Fin.ofNat 16 (octet.toNat / 16))
  let low := hexadecimalDigit (Fin.ofNat 16 octet.toNat)
  "0x" ++ String.ofList [high, low]

theorem octetText_eq_octetName (octet : UInt8) : IllFormed.octetText octet = octetName octet := by
  have digits : ∀ code : Fin 256,
      List.replicate (2 - ((Nat.toDigits 16 code).map Char.toUpper).length) '0' ++
          (Nat.toDigits 16 code).map Char.toUpper =
        [hexadecimalDigit (Fin.ofNat 16 (code / 16)), hexadecimalDigit (Fin.ofNat 16 code)] := by
    decide +kernel
  exact congrArg (fun text => "0x" ++ String.ofList text) (digits octet.toFin)

/-! ## Pieces on their lines -/

/-- The character that a piece is read as. -/
def pieceText : Piece → Char
  | .character value => value
  | .illFormed _ => ' '

/-- Diagnostic of an ill-formed sequence behind other octets. -/
def sequenceDiagnostic (before sequence : List UInt8) : Diagnostic :=
  ⟨.lexical, 1 + before.count 0x0a,
    "Invalid UTF-8 sequence " ++ " ".intercalate (sequence.map octetName)⟩

theorem illFormedDiagnostic_eq (before sequence : List UInt8) :
    illFormedDiagnostic ⟨1 + before.count 0x0a, sequence⟩ = sequenceDiagnostic before sequence := by
  have names : IllFormed.octetText = octetName := funext octetText_eq_octetName
  unfold illFormedDiagnostic IllFormed.message sequenceDiagnostic
  rw [names]

/-- Diagnostics of the ill-formed pieces behind other octets, in their order. -/
def pieceDiagnostics (before : List UInt8) : List Piece → List Diagnostic
  | [] => []
  | .character value :: pieces => pieceDiagnostics (before ++ utf8EncodeChar value) pieces
  | .illFormed octets :: pieces =>
    sequenceDiagnostic before octets :: pieceDiagnostics (before ++ octets) pieces

theorem characters_foldl_push (decoded : DecodedText) (pieces : List Piece) :
    (pieces.foldl DecodedText.push decoded).characters.toList =
      decoded.characters.toList ++ pieces.map pieceText := by
  induction pieces generalizing decoded with
  | nil => simp
  | cons piece pieces inductionHypothesis =>
      rw [List.foldl_cons, inductionHypothesis]
      cases piece <;> simp [DecodedText.push, pieceText]

/-- The line of a decoded text counts the newline octets that were decoded, so its
reports become the diagnostics of the pieces. -/
theorem illFormed_foldl_push
    {octets : List UInt8}
    {pieces : List Piece}
    (cut : Cut octets pieces)
    (before : List UInt8)
    {decoded : DecodedText}
    (line : decoded.line = 1 + before.count 0x0a) :
    (pieces.foldl DecodedText.push decoded).illFormed.toList.map illFormedDiagnostic =
      decoded.illFormed.toList.map illFormedDiagnostic ++ pieceDiagnostics before pieces := by
  induction cut generalizing before decoded with
  | nil => simp [pieceDiagnostics]
  | character value cut inductionHypothesis =>
      have next : (decoded.push (.character value)).line =
          1 + (before ++ utf8EncodeChar value).count 0x0a := by
        rw [List.count_append, count_newline_encoding, DecodedText.push]
        dsimp only
        split_ifs <;> omega
      rw [List.foldl_cons, inductionHypothesis _ next]
      rfl
  | @illFormed sequence following pieces isIllFormed cut inductionHypothesis =>
      have next : (decoded.push (.illFormed sequence)).line =
          1 + (before ++ sequence).count 0x0a := by
        rw [List.count_append, isIllFormed.count_newline]
        exact line
      rw [List.foldl_cons, inductionHypothesis _ next, pieceDiagnostics,
        ← illFormedDiagnostic_eq before sequence, ← line]
      simp [DecodedText.push]

/-- The pieces of octets tell everything that is parsed. -/
theorem parseOctets_of_cut
    {octets : List UInt8}
    {pieces : List Piece}
    (cut : Cut octets pieces) :
    (decode octets).characters.toList = pieces.map pieceText ∧
      decodingDiagnostics octets = pieceDiagnostics [] pieces ∧
      parseOctets octets = parseText (pieceDiagnostics [] pieces) (pieces.map pieceText) := by
  have decoded : decode octets = pieces.foldl DecodedText.push .empty := by
    rw [decode, (cut_iff octets pieces).mp cut]
  have text : (decode octets).characters.toList = pieces.map pieceText := by
    rw [decoded, characters_foldl_push]
    rfl
  have diagnostics : decodingDiagnostics octets = pieceDiagnostics [] pieces := by
    rw [decodingDiagnostics, decoded, illFormed_foldl_push cut [] rfl]
    rfl
  refine ⟨text, diagnostics, ?_⟩
  rw [← text, ← diagnostics]
  rfl

/-- ASCII octets are read as their characters, in their order. -/
theorem sublist_pieceText
    {octets : List UInt8}
    {pieces : List Piece}
    (cut : Cut octets pieces) :
    (asciiCharacters octets).Sublist (pieces.map pieceText) := by
  induction cut with
  | nil => exact List.nil_sublist _
  | character value cut inductionHypothesis =>
      rw [asciiCharacters_append, List.map_cons, ← List.singleton_append]
      exact (asciiCharacters_encoding value).append inductionHypothesis
  | illFormed isIllFormed cut inductionHypothesis =>
      have noneLeft := asciiCharacters_of_high fun octet member => isIllFormed.not_ascii member
      rw [asciiCharacters_append, noneLeft, List.nil_append]
      exact inductionHypothesis.cons _

/-- Octets of every kind are cut in exactly one way into characters and ill-formed
sequences.  The text has a blank for each of the sequences, and each of them has a
diagnostic on its line that names its octets.  The sequences have at most three
octets, none of them ASCII, and take all octets that remain if a character could
still be finished behind these. -/
theorem decode_eq_pieces (octets : List UInt8) :
    ∃ pieces : List Piece,
      (∀ others, Cut octets others ↔ others = pieces) ∧
      pieces.flatMap Piece.octets = octets ∧
      pieces.length ≤ octets.length ∧
      (decode octets).characters.toList = pieces.map pieceText ∧
      decodingDiagnostics octets = pieceDiagnostics [] pieces ∧
      parseOctets octets = parseText (pieceDiagnostics [] pieces) (pieces.map pieceText) ∧
      (∀ before sequence behind, pieces = before ++ .illFormed sequence :: behind →
        1 ≤ sequence.length ∧ sequence.length ≤ 3 ∧
          (∀ octet ∈ sequence, 0x80 ≤ octet.toNat) ∧
          (Opens (sequence ++ behind.flatMap Piece.octets) → behind = [])) ∧
      (asciiCharacters octets).Sublist (decode octets).characters.toList ∧
      (decode octets).characters.toList.count '\n' = octets.count 0x0a := by
  have cut : Cut octets (Text.Utf8.decode octets) := (cut_iff octets _).mpr rfl
  obtain ⟨text, diagnostics, parsed⟩ := parseOctets_of_cut cut
  refine ⟨Text.Utf8.decode octets, fun others => ?unique, cut.flatMap_octets, cut.length_le, text,
    diagnostics, parsed, fun before sequence behind split => ?sequences, ?ascii,
    count_newline_decode octets⟩
  case unique => rw [cut_iff, eq_comm]
  case sequences =>
    rw [split] at cut
    obtain ⟨isIllFormed, rest⟩ := cut.of_append.isIllFormed
    refine ⟨List.length_pos_iff.mpr isIllFormed.nonempty, isIllFormed.length_le,
      fun octet => isIllFormed.not_ascii, fun opens => ?_⟩
    have shorter := rest.length_le
    rw [isIllFormed.following_eq_nil opens] at shorter
    exact List.length_eq_zero_iff.mp (Nat.le_zero.mp shorter)
  case ascii =>
    rw [text]
    exact sublist_pieceText cut

end TokenLines
end SyntaxTree
