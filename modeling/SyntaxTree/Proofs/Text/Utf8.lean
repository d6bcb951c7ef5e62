import SyntaxTree.Proofs.Text.Pieces

/-!
# Newlines in decoded octets

An ASCII octet, such as a newline, is part of no longer character, so decoding can
be cut behind it: what stands before and behind is decoded as if it stood alone.
No other octets decode to a newline.
-/

namespace SyntaxTree
namespace Text
namespace Utf8

open String (utf8EncodeChar)

/-! ## Cuts around ASCII octets -/

/-- What opens a character in front of an ASCII octet does not reach that far. -/
theorem Opens.prefix_of_ascii
    {front whole behind : List UInt8}
    {octet : UInt8}
    (opens : Opens front)
    (isFront : front <+: whole ++ octet :: behind)
    (nonempty : whole ≠ [])
    (ascii : octet.toNat < 0x80) :
    front <+: whole := by
  by_cases within : front.length ≤ whole.length
  · exact List.prefix_of_prefix_length_le isFront (List.prefix_append _ _) within
  · obtain ⟨character, opened⟩ := opens
    have reaches : whole ++ [octet] <+: front := by
      refine List.prefix_of_prefix_length_le ?_ isFront ?_
      · exact (List.prefix_append_right_inj whole).mpr (List.prefix_append [octet] behind)
      · rw [List.length_append, List.length_singleton]
        omega
    have member : octet ∈ utf8EncodeChar character :=
      opened.subset (reaches.subset (by simp))
    have short := opened.length_le
    rw [eq_singleton_of_low member ascii, List.length_singleton] at short
    have positive := List.length_pos_iff.mpr nonempty
    omega

/-- An ill-formed sequence stays so with an ASCII octet somewhere behind it. -/
theorem IsIllFormed.append_ascii
    {octets following : List UInt8}
    (isIllFormed : IsIllFormed octets following)
    {octet : UInt8}
    (ascii : octet.toNat < 0x80)
    (behind : List UInt8) :
    IsIllFormed octets (following ++ octet :: behind) := by
  have nonempty : octets ++ following ≠ [] :=
    List.append_ne_nil_of_left_ne_nil isIllFormed.nonempty following
  have within : ∀ front, front <+: octets ++ (following ++ octet :: behind) → Opens front →
      front <+: octets ++ following := by
    intro front isFront opens
    rw [← List.append_assoc] at isFront
    exact opens.prefix_of_ascii isFront nonempty ascii
  refine ⟨isIllFormed.nonempty, fun character encoded => ?_, isIllFormed.opens,
    fun front isFront opens => isIllFormed.longest front (within front isFront opens) opens⟩
  exact isIllFormed.noCharacter character (within _ encoded ⟨character, List.prefix_refl _⟩)

/-- Cuts on both sides of an ASCII octet are a cut of the whole. -/
theorem Cut.append_ascii
    {left right : List UInt8}
    {pieces others : List Piece}
    (cut : Cut left pieces)
    (otherCut : Cut right others)
    {octet : UInt8}
    (ascii : octet.toNat < 0x80) :
    Cut (left ++ octet :: right) (pieces ++ .character (Char.ofNat octet.toNat) :: others) := by
  induction cut with
  | nil =>
      have cut := Cut.character (Char.ofNat octet.toNat) otherCut
      rwa [utf8EncodeChar_ascii ascii] at cut
  | character value cut inductionHypothesis =>
      rw [List.append_assoc]
      exact .character value inductionHypothesis
  | illFormed isIllFormed cut inductionHypothesis =>
      rw [List.append_assoc]
      exact .illFormed (isIllFormed.append_ascii ascii right) inductionHypothesis

/-- Octets are decoded apart before and behind an ASCII octet. -/
theorem decode_append_ascii
    (left right : List UInt8)
    {octet : UInt8}
    (ascii : octet < 0x80) :
    decode (left ++ octet :: right) =
      decode left ++ .character (Char.ofNat octet.toNat) :: decode right := by
  have leftCut := (cut_iff left _).mpr rfl
  have rightCut := (cut_iff right _).mpr rfl
  exact (cut_iff _ _).mp (leftCut.append_ascii rightCut (UInt8.lt_iff_toNat_lt.mp ascii))

/-- Octets are decoded apart before and behind a newline. -/
theorem decode_append_newline (left right : List UInt8) :
    decode (left ++ 0x0a :: right) = decode left ++ .character '\n' :: decode right :=
  decode_append_ascii left right (by decide)

/-! ## Counting newlines -/

/-- A newline octet is in no encoding but the one of the newline. -/
theorem count_newline_encoding (character : Char) :
    (utf8EncodeChar character).count 0x0a = if character = '\n' then 1 else 0 := by
  split_ifs with newline
  · rw [newline]
    decide
  · rw [List.count_eq_zero]
    intro member
    have encoded := eq_singleton_of_low member (by decide)
    exact newline (character_unique (List.prefix_refl _) (by rw [encoded]; decide))

/-- Ill-formed sequences have no newline octet. -/
theorem IsIllFormed.count_newline
    {octets following : List UInt8}
    (isIllFormed : IsIllFormed octets following) :
    octets.count 0x0a = 0 := by
  rw [List.count_eq_zero]
  intro member
  exact absurd (isIllFormed.not_ascii member) (by decide)

/-- Pieces have as many newlines as there are newline octets. -/
theorem Cut.count_newline
    {octets : List UInt8}
    {pieces : List Piece}
    (cut : Cut octets pieces) :
    pieces.count (.character '\n') = octets.count 0x0a := by
  induction cut with
  | nil => rfl
  | character value cut inductionHypothesis =>
      rw [List.count_append, count_newline_encoding, List.count_cons, inductionHypothesis,
        Nat.add_comm]
      simp
  | illFormed isIllFormed cut inductionHypothesis =>
      rw [List.count_append, isIllFormed.count_newline, List.count_cons, inductionHypothesis]
      simp

/-- A text has as many newlines as newline octets. -/
theorem count_newline_decode (octets : List UInt8) :
    (decode octets).count (.character '\n') = octets.count 0x0a :=
  ((cut_iff octets _).mpr rfl).count_newline

end Utf8
end Text
end SyntaxTree
