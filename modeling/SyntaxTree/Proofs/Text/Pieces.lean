import SyntaxTree.Proofs.Text.Encoding

/-!
# Pieces of octets

This module says which pieces octets are cut into without decoding them one by
one: wherever the encoding of a character stands, the character is a piece, and
elsewhere the longest sequence with which some encoding starts is ill-formed, or
a single octet if there is no such sequence.  There is exactly one such cut, and
decoding finds it.
-/

namespace SyntaxTree
namespace Text
namespace Utf8

open String (utf8EncodeChar)

/-! ## Encodings as prefixes -/

/-- Octets in front of those that open a character open it as well. -/
theorem Opens.of_prefix
    {front octets : List UInt8}
    (opens : Opens octets)
    (isFront : front <+: octets) :
    Opens front := by
  obtain ⟨character, opened⟩ := opens
  exact ⟨character, isFront.trans opened⟩

/-- At most one character is encoded at the front of octets. -/
theorem character_unique
    {left right : Char}
    {octets : List UInt8}
    (leftFront : utf8EncodeChar left <+: octets)
    (rightFront : utf8EncodeChar right <+: octets) :
    left = right := by
  have decoded : ∀ character, utf8EncodeChar character <+: octets →
      octets.toByteArray.utf8DecodeChar? 0 = some character := by
    rintro character ⟨behind, rfl⟩
    rw [List.toByteArray_append]
    exact ByteArray.utf8DecodeChar?_utf8EncodeChar_append
  exact Option.some_inj.mp ((decoded left leftFront).symm.trans (decoded right rightFront))

/-- An ASCII octet is the encoding of its character. -/
theorem utf8EncodeChar_ascii
    {octet : UInt8}
    (ascii : octet.toNat < 0x80) :
    utf8EncodeChar (Char.ofNat octet.toNat) = [octet] := by
  have valid : octet.toNat.isValidChar := .inl (by omega)
  have isCode : (Char.ofNat octet.toNat).toNat = octet.toNat := by
    rw [Char.ofNat, dif_pos valid]
    rfl
  obtain ⟨-, encoded⟩ | ⟨count, wide, -⟩ := encoding_cases (Char.ofNat octet.toNat)
  · rw [encoded, isCode, UInt8.ofNat_toNat]
  · rw [isCode] at wide
    unfold IsWide at wide
    omega

theorem high_of_mem_continuation
    {count code : Nat}
    {octet : UInt8}
    (member : octet ∈ continuation count code) :
    0x80 ≤ octet.toNat := by
  induction count with
  | zero => simp [continuation] at member
  | succ count inductionHypothesis =>
      rw [continuation, List.mem_cons] at member
      obtain rfl | member := member
      · rw [UInt8.toNat_ofNat']
        omega
      · exact inductionHypothesis member

/-- An ASCII octet is in no encoding but its own. -/
theorem eq_singleton_of_low
    {character : Char}
    {octet : UInt8}
    (member : octet ∈ utf8EncodeChar character)
    (ascii : octet.toNat < 0x80) :
    utf8EncodeChar character = [octet] := by
  obtain ⟨-, encoded⟩ | ⟨count, wide, encoded⟩ := encoding_cases character
  · rw [encoded] at member ⊢
    rw [List.mem_singleton.mp member]
  · rw [encoded, List.mem_cons] at member
    obtain rfl | member := member
    · obtain ⟨isLead, -⟩ := wide.lead
      unfold IsLead at isLead
      omega
    · have high := high_of_mem_continuation member
      omega

/-! ## Ill-formed sequences -/

/-- Octets that are not well formed in front of others. -/
structure IsIllFormed (octets following : List UInt8) : Prop where
  nonempty : octets ≠ []
  /-- No character is encoded here. -/
  noCharacter : ∀ character, ¬ utf8EncodeChar character <+: octets ++ following
  /-- Some encoding starts with the octets, unless they are a single one. -/
  opens : Opens octets ∨ octets.length = 1
  /-- No encoding starts with more of the octets that stand here. -/
  longest : ∀ front, front <+: octets ++ following → Opens front → front.length ≤ octets.length

namespace IsIllFormed

variable
  {octets following : List UInt8}
  (isIllFormed : IsIllFormed octets following)
include isIllFormed

/-- Ill-formed sequences have at most three octets, as the fourth would complete
the character. -/
theorem length_le : octets.length ≤ 3 := by
  obtain ⟨character, opened⟩ | single := isIllFormed.opens
  · have size : (utf8EncodeChar character).length ≤ 4 := by
      rw [String.length_utf8EncodeChar]
      exact Char.utf8Size_le_four character
    have shorter : octets.length < (utf8EncodeChar character).length := by
      refine Nat.lt_of_le_of_ne opened.length_le fun same => ?_
      refine isIllFormed.noCharacter character ?_
      rw [← opened.eq_of_length same]
      exact List.prefix_append octets following
    omega
  · omega

/-- No ASCII octet is in an ill-formed sequence. -/
theorem not_ascii
    {octet : UInt8}
    (member : octet ∈ octets) :
    0x80 ≤ octet.toNat := by
  by_contra ascii
  rw [Nat.not_le] at ascii
  have alone : octets = [octet] := by
    obtain ⟨character, opened⟩ | single := isIllFormed.opens
    · have encoded := eq_singleton_of_low (opened.subset member) ascii
      rw [encoded] at opened
      have positive := List.length_pos_iff.mpr isIllFormed.nonempty
      exact opened.eq_of_length_le positive
    · obtain ⟨only, rfl⟩ := List.length_eq_one_iff.mp single
      rw [List.mem_singleton.mp member]
  refine isIllFormed.noCharacter (Char.ofNat octet.toNat) ?_
  rw [utf8EncodeChar_ascii ascii, alone]
  exact List.prefix_append [octet] following

/-- A character that the end of the octets breaks off takes all that remain. -/
theorem following_eq_nil (opens : Opens (octets ++ following)) : following = [] := by
  have longest := isIllFormed.longest _ (List.prefix_refl _) opens
  rw [List.length_append] at longest
  exact List.length_eq_zero_iff.mp (by omega)

/-- An ill-formed sequence is as long as any other at the same place. -/
theorem length_le_length
    {others behind : List UInt8}
    (other : IsIllFormed others behind)
    (same : octets ++ following = others ++ behind) :
    octets.length ≤ others.length := by
  obtain opens | single := isIllFormed.opens
  · refine other.longest octets ?_ opens
    rw [← same]
    exact List.prefix_append octets following
  · rw [single]
    exact List.length_pos_iff.mpr other.nonempty

end IsIllFormed

/-- An octet with which no encoding starts is ill-formed. -/
theorem isIllFormed_singleton
    {octet : UInt8}
    (closed : ¬ Opens [octet])
    (following : List UInt8) :
    IsIllFormed [octet] following := by
  have empty : ∀ front, front <+: [octet] ++ following → Opens front → front = [] := by
    intro front isFront opens
    obtain _ | ⟨first, rest⟩ := front
    · rfl
    · obtain ⟨rfl, -⟩ := List.cons_prefix_cons.mp isFront
      exact absurd (opens.of_prefix (List.prefix_append [first] rest)) closed
  refine ⟨List.cons_ne_nil _ _, fun character encoded => ?_, .inr rfl, fun front isFront opens =>
    ?_⟩
  · exact String.utf8EncodeChar_ne_nil (empty _ encoded ⟨character, List.prefix_refl _⟩)
  · rw [empty front isFront opens]
    exact Nat.zero_le 1

/-- The octets of a character that is not gone on with are ill-formed. -/
theorem Unfinished.Faithful.isIllFormed
    {unfinished : Unfinished}
    (faithful : unfinished.Faithful)
    {following : List UInt8}
    (broken : ∀ octet ∈ following.head?, ¬ (unfinished.low ≤ octet ∧ octet ≤ unfinished.high)) :
    IsIllFormed unfinished.seen following := by
  obtain ⟨whole, longer⟩ := (faithful.opens_iff unfinished.low).mpr
    ⟨UInt8.le_refl _, UInt8.le_iff_toNat_le.mpr faithful.ordered⟩
  have opened : unfinished.seen <+: utf8EncodeChar whole := (List.prefix_append _ _).trans longer
  have longest : ∀ front, front <+: unfinished.seen ++ following → Opens front →
      front.length ≤ unfinished.seen.length := by
    intro front isFront opens
    by_contra beyond
    obtain ⟨more, rfl⟩ := List.prefix_of_prefix_length_le (List.prefix_append _ following) isFront
      (by omega)
    obtain _ | ⟨octet, more⟩ := more
    · simp at beyond
    · obtain ⟨rest, rfl⟩ := (List.prefix_append_right_inj _).mp isFront
      refine broken octet rfl ((faithful.opens_iff octet).mp (opens.of_prefix ?_))
      rw [List.prefix_append_right_inj]
      exact List.prefix_append [octet] more
  refine ⟨?nonempty, ?noCharacter, .inl ⟨whole, opened⟩, longest⟩
  case nonempty =>
    intro empty
    have letter : Opens (unfinished.seen ++ [0x61]) := ⟨'a', by rw [empty]; decide⟩
    have low := faithful.low
    have fits := UInt8.le_iff_toNat_le.mp ((faithful.opens_iff 0x61).mp letter).1
    simp only [UInt8.reduceToNat] at fits
    omega
  case noCharacter =>
    intro character encoded
    have within : (utf8EncodeChar character).length ≤ unfinished.seen.length :=
      longest _ encoded ⟨character, List.prefix_refl _⟩
    have front : utf8EncodeChar character <+: unfinished.seen :=
      List.prefix_of_prefix_length_le encoded (List.prefix_append _ following) within
    have same := character_unique (front.trans opened) (List.prefix_refl _)
    have lengths := longer.length_le
    rw [← same, List.length_append, List.length_singleton] at lengths
    omega

/-! ## The cut of octets -/

/-- A cut of octets into the characters and the ill-formed sequences that stand in
them. -/
inductive Cut : List UInt8 → List Piece → Prop
  | nil : Cut [] []
  | character
      {following : List UInt8}
      {pieces : List Piece}
      (value : Char)
      (cut : Cut following pieces) :
      Cut (utf8EncodeChar value ++ following) (.character value :: pieces)
  | illFormed
      {octets following : List UInt8}
      {pieces : List Piece}
      (isIllFormed : IsIllFormed octets following)
      (cut : Cut following pieces) :
      Cut (octets ++ following) (.illFormed octets :: pieces)

/-- Octets are cut in one way only. -/
theorem Cut.unique
    {octets : List UInt8}
    {pieces others : List Piece}
    (cut : Cut octets pieces)
    (otherCut : Cut octets others) :
    others = pieces := by
  induction cut generalizing others with
  | nil =>
      generalize same : [] = octets at otherCut
      cases otherCut with
      | nil => rfl
      | character value cut =>
          exact absurd (List.append_eq_nil_iff.mp same.symm).1 String.utf8EncodeChar_ne_nil
      | illFormed isIllFormed cut =>
          exact absurd (List.append_eq_nil_iff.mp same.symm).1 isIllFormed.nonempty
  | @character following pieces value cut inductionHypothesis =>
      generalize same : utf8EncodeChar value ++ following = octets at otherCut
      cases otherCut with
      | nil => exact absurd (List.append_eq_nil_iff.mp same).1 String.utf8EncodeChar_ne_nil
      | @character behind others other otherCut =>
          obtain rfl : value = other :=
            character_unique (List.prefix_append _ following) (same ▸ List.prefix_append _ behind)
          rw [List.append_cancel_left same] at inductionHypothesis
          rw [inductionHypothesis otherCut]
      | illFormed isIllFormed otherCut =>
          exact absurd (same ▸ List.prefix_append _ following) (isIllFormed.noCharacter value)
  | @illFormed sequence following pieces isIllFormed cut inductionHypothesis =>
      generalize same : sequence ++ following = octets at otherCut
      cases otherCut with
      | nil => exact absurd (List.append_eq_nil_iff.mp same).1 isIllFormed.nonempty
      | @character behind others other otherCut =>
          exact absurd (same ▸ List.prefix_append _ behind) (isIllFormed.noCharacter other)
      | @illFormed other behind others otherIllFormed otherCut =>
          have lengths : sequence.length = other.length := Nat.le_antisymm
            (isIllFormed.length_le_length otherIllFormed same)
            (otherIllFormed.length_le_length isIllFormed same.symm)
          obtain ⟨rfl, rfl⟩ := List.append_inj same lengths
          rw [inductionHypothesis otherCut]

/-! ## Decoding finds the cut -/

namespace Decoder

/-- The same decoder with more pieces in front. -/
def prepend (pieces : Array Piece) (decoder : Decoder) : Decoder :=
  ⟨pieces ++ decoder.pieces, decoder.unfinished⟩

theorem start_prepend (pieces : Array Piece) (decoder : Decoder) (octet : UInt8) :
    (decoder.prepend pieces).start octet = (decoder.start octet).prepend pieces := by
  obtain ⟨-, eq⟩ | ⟨-, -, eq⟩ | ⟨-, unfinished, -, -, eq⟩ := start_cases octet <;>
    simp only [eq, prepend, Array.append_push]

/-- What an octet adds does not depend on the pieces that are there. -/
theorem step_prepend (pieces : Array Piece) (decoder : Decoder) (octet : UInt8) :
    (decoder.prepend pieces).step octet = (decoder.step octet).prepend pieces := by
  obtain ⟨found, _ | unfinished⟩ := decoder
  · exact start_prepend pieces ⟨found, none⟩ octet
  · simp only [step, prepend]
    split_ifs
    · unfold resume
      dsimp only
      split_ifs <;> simp only [Array.append_push]
    · have abandoned : abandon ⟨pieces ++ found, some unfinished⟩ unfinished =
          (abandon ⟨found, some unfinished⟩ unfinished).prepend pieces := by
        simp [abandon, prepend]
      rw [abandoned, start_prepend]
      rfl

theorem foldl_step_prepend (pieces : Array Piece) (decoder : Decoder) (octets : List UInt8) :
    octets.foldl step (decoder.prepend pieces) = (octets.foldl step decoder).prepend pieces := by
  induction octets generalizing decoder with
  | nil => rfl
  | cons octet octets inductionHypothesis =>
      rw [List.foldl_cons, step_prepend, inductionHypothesis, List.foldl_cons]

theorem finish_prepend (pieces : Array Piece) (decoder : Decoder) :
    (decoder.prepend pieces).finish = pieces.toList ++ decoder.finish := by
  obtain ⟨found, _ | unfinished⟩ := decoder <;> simp [finish, prepend, abandon]

/-- A piece that is there already stands in front of those that follow. -/
theorem finish_foldl_singleton
    (piece : Piece)
    (unfinished : Option Unfinished)
    (octets : List UInt8) :
    (octets.foldl step ⟨#[piece], unfinished⟩).finish =
      piece :: (octets.foldl step ⟨#[], unfinished⟩).finish := by
  have added : (⟨#[piece], unfinished⟩ : Decoder) = prepend #[piece] ⟨#[], unfinished⟩ := by
    simp [prepend]
  rw [added, foldl_step_prepend, finish_prepend]
  rfl

/-- If a decoder cuts what follows, at the front of a piece and inside of one, it
cuts what follows an octet at the front of a piece. -/
theorem cut_start
    {octets : List UInt8}
    (atFront : Cut octets (decode octets))
    (inside : ∀ unfinished : Unfinished, unfinished.Faithful →
      Cut (unfinished.seen ++ octets) (octets.foldl step ⟨#[], some unfinished⟩).finish)
    (octet : UInt8) :
    Cut (octet :: octets) (octets.foldl step (empty.start octet)).finish := by
  obtain ⟨ascii, starts⟩ | ⟨-, closed, starts⟩ | ⟨-, unfinished, faithful, seen, starts⟩ :=
    start_cases octet
  · rw [starts, empty, Array.push_empty, finish_foldl_singleton]
    have cut := Cut.character (Char.ofNat octet.toNat) atFront
    rwa [utf8EncodeChar_ascii ascii] at cut
  · rw [starts, empty, Array.push_empty, finish_foldl_singleton]
    exact .illFormed (isIllFormed_singleton closed octets) atFront
  · rw [starts, empty]
    have cut := inside unfinished faithful
    rwa [seen] at cut

/-- A decoder cuts what follows, at the front of a piece and inside of one. -/
theorem cut_foldl (octets : List UInt8) :
    Cut octets (decode octets) ∧
      ∀ unfinished : Unfinished, unfinished.Faithful →
        Cut (unfinished.seen ++ octets)
          (octets.foldl step ⟨#[], some unfinished⟩).finish := by
  induction octets with
  | nil =>
      refine ⟨.nil, fun unfinished faithful => ?_⟩
      exact .illFormed (faithful.isIllFormed (by simp)) .nil
  | cons octet octets inductionHypothesis =>
      obtain ⟨atFront, inside⟩ := inductionHypothesis
      -- An octet that does not fit is read again at the front of a piece.
      have started := cut_start atFront inside octet
      refine ⟨started, fun unfinished faithful => ?_⟩
      rw [List.foldl_cons, step]
      dsimp only
      split_ifs with fits
      · unfold resume
        dsimp only
        split_ifs with last
        · rw [List.push_toArray, List.nil_append, finish_foldl_singleton]
          have cut := Cut.character
            (Char.ofNat (unfinished.code * 64 + (octet.toNat - 0x80))) atFront
          rwa [faithful.encoding_of_fits fits last, List.append_assoc] at cut
        · have cut := inside _ (faithful.resume fits last)
          rwa [List.append_assoc] at cut
      · have broken : (abandon ⟨#[], some unfinished⟩ unfinished).start octet =
            (empty.start octet).prepend #[.illFormed unfinished.seen] := by
          rw [← start_prepend]
          rfl
        rw [broken, foldl_step_prepend, finish_prepend]
        exact .illFormed (faithful.isIllFormed (by simpa using fits)) started

end Decoder

/-- Decoding cuts octets into their pieces. -/
theorem cut_iff (octets : List UInt8) (pieces : List Piece) :
    Cut octets pieces ↔ decode octets = pieces := by
  have cut := (Decoder.cut_foldl octets).1
  exact ⟨fun other => other.unique cut, fun same => same ▸ cut⟩

example :
    decode [0x63, 0xe2, 0x82, 0x0a, 0xff, 0xf0, 0x9f] =
      [.character 'c', .illFormed [0xe2, 0x82], .character '\n', .illFormed [0xff],
        .illFormed [0xf0, 0x9f]] := by
  decide

/-! ## What pieces are made of -/

/-- The octets that a piece stands for. -/
def Piece.octets : Piece → List UInt8
  | .character value => utf8EncodeChar value
  | .illFormed octets => octets

namespace Cut

variable
  {octets : List UInt8}
  {pieces : List Piece}
  (cut : Cut octets pieces)
include cut

/-- Pieces in their order are the octets. -/
theorem flatMap_octets : pieces.flatMap Piece.octets = octets := by
  induction cut with
  | nil => rfl
  | character value cut inductionHypothesis =>
      rw [List.flatMap_cons, inductionHypothesis]
      rfl
  | illFormed isIllFormed cut inductionHypothesis =>
      rw [List.flatMap_cons, inductionHypothesis]
      rfl

/-- Every piece takes at least one octet. -/
theorem length_le : pieces.length ≤ octets.length := by
  induction cut with
  | nil => exact Nat.le_refl 0
  | character value cut inductionHypothesis =>
      have positive := List.length_pos_iff.mpr (String.utf8EncodeChar_ne_nil (c := value))
      rw [List.length_append, List.length_cons]
      omega
  | illFormed isIllFormed cut inductionHypothesis =>
      have positive := List.length_pos_iff.mpr isIllFormed.nonempty
      rw [List.length_append, List.length_cons]
      omega

end Cut

/-- The last pieces of a cut are a cut of their octets. -/
theorem Cut.of_append
    {octets : List UInt8}
    {before behind : List Piece}
    (cut : Cut octets (before ++ behind)) :
    Cut (behind.flatMap Piece.octets) behind := by
  induction before generalizing octets with
  | nil =>
      rw [List.nil_append] at cut
      rwa [cut.flatMap_octets]
  | cons first before inductionHypothesis =>
      cases cut with
      | character value cut => exact inductionHypothesis cut
      | illFormed isIllFormed cut => exact inductionHypothesis cut

/-- The octets of an ill-formed piece are ill-formed in front of those that follow. -/
theorem Cut.isIllFormed
    {octets sequence : List UInt8}
    {pieces : List Piece}
    (cut : Cut octets (.illFormed sequence :: pieces)) :
    IsIllFormed sequence (pieces.flatMap Piece.octets) ∧
      Cut (pieces.flatMap Piece.octets) pieces := by
  cases cut with
  | illFormed isIllFormed cut =>
      rw [cut.flatMap_octets]
      exact ⟨isIllFormed, cut⟩

/-- Encoded characters are cut into these characters. -/
theorem cut_characters (characters : List Char) :
    Cut (characters.flatMap utf8EncodeChar) (characters.map .character) := by
  induction characters with
  | nil => exact .nil
  | cons character characters inductionHypothesis => exact .character character inductionHypothesis

/-- The characters of the ASCII octets. -/
def asciiCharacters (octets : List UInt8) : List Char :=
  (octets.filter (·.toNat < 0x80)).map fun octet => Char.ofNat octet.toNat

theorem asciiCharacters_append (left right : List UInt8) :
    asciiCharacters (left ++ right) = asciiCharacters left ++ asciiCharacters right := by
  rw [asciiCharacters, List.filter_append, List.map_append]
  rfl

theorem asciiCharacters_of_high
    {octets : List UInt8}
    (high : ∀ octet ∈ octets, 0x80 ≤ octet.toNat) :
    asciiCharacters octets = [] := by
  have noneLeft : octets.filter (·.toNat < 0x80) = [] := by
    rw [List.filter_eq_nil_iff]
    intro octet member
    have above := high octet member
    simp only [decide_eq_true_eq]
    omega
  rw [asciiCharacters, noneLeft, List.map_nil]

/-- The ASCII octets of an encoded character are the character. -/
theorem asciiCharacters_encoding (character : Char) :
    (asciiCharacters (utf8EncodeChar character)).Sublist [character] := by
  by_cases high : ∀ octet ∈ utf8EncodeChar character, 0x80 ≤ octet.toNat
  · rw [asciiCharacters_of_high high]
    exact List.nil_sublist _
  · push Not at high
    obtain ⟨octet, member, ascii⟩ := high
    have encoded := eq_singleton_of_low member ascii
    have front : utf8EncodeChar (Char.ofNat octet.toNat) <+: utf8EncodeChar character :=
      (utf8EncodeChar_ascii ascii).trans encoded.symm ▸ List.prefix_refl _
    have same := character_unique front (List.prefix_refl _)
    simp [encoded, asciiCharacters, ascii, same]

end Utf8
end Text
end SyntaxTree
