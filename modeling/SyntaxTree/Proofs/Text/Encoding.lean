import Mathlib.Tactic.Ring
import Mathlib.Tactic.SplitIfs
import SyntaxTree.Text.Utf8

/-!
# Encoded characters

The encoding of a character is a lead octet with its highest bits, followed by
octets with six bits each.  This module relates the state of a decoder inside a
character to the characters whose encoding starts with the octets seen so far: the
next octet is allowed exactly if some encoding goes on with it.
-/

namespace SyntaxTree
namespace Text
namespace Utf8

open String (utf8EncodeChar)

/-- The octets of a text are those of its characters. -/
theorem toList_toUTF8 (text : String) :
    text.toUTF8.data.toList = text.toList.flatMap utf8EncodeChar := by
  rw [String.toUTF8_eq_toByteArray, ← String.utf8Encode_toList, List.utf8Encode,
    List.toList_data_toByteArray]

/-! ## Octets of a character -/

/-- The octets behind the lead octet: the lowest `count` groups of six bits of a
code point, the highest of them first. -/
def continuation : (count code : Nat) → List UInt8
  | 0, _ => []
  | count + 1, code => UInt8.ofNat (0x80 + code / 64 ^ count % 64) :: continuation count code

theorem continuation_of_pos
    {count : Nat}
    (positive : 0 < count)
    (code : Nat) :
    continuation count code =
      UInt8.ofNat (0x80 + code / 64 ^ (count - 1) % 64) :: continuation (count - 1) code := by
  obtain ⟨count, rfl⟩ := Nat.exists_eq_succ_of_ne_zero (Nat.ne_of_gt positive)
  rfl

/-- Leaving out six bits less and then six more is leaving out all of them. -/
theorem div_pow_div
    {count : Nat}
    (positive : 0 < count)
    (code : Nat) :
    code / 64 ^ (count - 1) / 64 = code / 64 ^ count := by
  rw [Nat.div_div_eq_div_mul, ← Nat.pow_succ, Nat.succ_eq_add_one, Nat.sub_add_cancel positive]

/-- A code point that is encoded with as many octets behind a lead octet as
given. -/
def IsWide (count code : Nat) : Prop :=
  (count = 1 ∧ 0x80 ≤ code ∧ code < 0x800) ∨
    (count = 2 ∧ 0x800 ≤ code ∧ code < 0x10000 ∧ ¬ (0xd800 ≤ code ∧ code < 0xe000)) ∨
    (count = 3 ∧ 0x10000 ≤ code ∧ code < 0x110000)

/-- A lead octet with as many octets behind it as given. -/
def IsLead (count : Nat) (octet : UInt8) : Prop :=
  (count = 1 ∧ 0xc2 ≤ octet.toNat ∧ octet.toNat < 0xe0) ∨
    (count = 2 ∧ 0xe0 ≤ octet.toNat ∧ octet.toNat < 0xf0) ∨
    (count = 3 ∧ 0xf0 ≤ octet.toNat ∧ octet.toNat < 0xf5)

/-- What a lead octet adds to the highest bits of a code point. -/
def leadMark : (count : Nat) → Nat
  | 1 => 0xc0
  | 2 => 0xe0
  | _ => 0xf0

/-- Lead octet of a wide code point. -/
def lead (count code : Nat) : UInt8 :=
  UInt8.ofNat (leadMark count + code / 64 ^ count)

/-- Least octet behind a lead octet.  A smaller one would make the encoding longer
than needed. -/
def lowestAfter (octet : UInt8) : UInt8 :=
  if octet = 0xe0 then 0xa0 else if octet = 0xf0 then 0x90 else 0x80

/-- Greatest octet behind a lead octet.  A greater one would lead to surrogates or
behind the last code point. -/
def highestAfter (octet : UInt8) : UInt8 :=
  if octet = 0xed then 0x9f else if octet = 0xf4 then 0x8f else 0xbf

/-- A character is encoded as one ASCII octet, or as a lead octet with the
highest bits of its code point and continuation octets with the others. -/
theorem encoding_cases (character : Char) :
    (character.toNat < 0x80 ∧ utf8EncodeChar character = [UInt8.ofNat character.toNat]) ∨
      ∃ count, IsWide count character.toNat ∧
        utf8EncodeChar character =
          lead count character.toNat :: continuation count character.toNat := by
  have valid : character.toNat < 0xd800 ∨ 0xdfff < character.toNat ∧ character.toNat < 0x110000 :=
    character.valid
  have encoded : utf8EncodeChar character =
      let code := character.toNat
      if code ≤ 0x7f then [UInt8.ofNat code]
      else if code ≤ 0x7ff then
        [UInt8.ofNat (code / 64 % 0x20 + 0xc0), UInt8.ofNat (code % 0x40 + 0x80)]
      else if code ≤ 0xffff then
        [UInt8.ofNat (code / 4096 % 0x10 + 0xe0), UInt8.ofNat (code / 64 % 0x40 + 0x80),
          UInt8.ofNat (code % 0x40 + 0x80)]
      else
        [UInt8.ofNat (code / 262144 % 0x08 + 0xf0), UInt8.ofNat (code / 4096 % 0x40 + 0x80),
          UInt8.ofNat (code / 64 % 0x40 + 0x80), UInt8.ofNat (code % 0x40 + 0x80)] := rfl
  dsimp only at encoded
  split_ifs at encoded with one two three
  · exact .inl ⟨by omega, encoded⟩
  · refine .inr ⟨1, .inl ⟨rfl, by omega, by omega⟩, ?_⟩
    have bits : character.toNat / 64 % 0x20 = character.toNat / 64 ^ 1 := by omega
    rw [encoded, bits]
    simp [lead, leadMark, continuation, Nat.add_comm]
  · refine .inr ⟨2, .inr (.inl ⟨rfl, by omega, by omega, by omega⟩), ?_⟩
    have bits : character.toNat / 4096 % 0x10 = character.toNat / 64 ^ 2 := by omega
    rw [encoded, bits]
    simp [lead, leadMark, continuation, Nat.add_comm]
  · refine .inr ⟨3, .inr (.inr ⟨rfl, by omega, by omega⟩), ?_⟩
    have bits : character.toNat / 262144 % 0x08 = character.toNat / 64 ^ 3 := by omega
    rw [encoded, bits]
    simp [lead, leadMark, continuation, Nat.add_comm]

/-- The lead octet of a wide code point tells its highest bits, and its range the
number of octets behind it. -/
theorem IsWide.lead
    {count code : Nat}
    (wide : IsWide count code) :
    IsLead count (lead count code) ∧
      (lead count code).toNat = leadMark count + code / 64 ^ count := by
  have bits : (Utf8.lead count code).toNat = (leadMark count + code / 64 ^ count) % 256 :=
    UInt8.toNat_ofNat'
  rcases wide with ⟨rfl, _, _⟩ | ⟨rfl, _, _, _⟩ | ⟨rfl, _, _⟩ <;> simp only [leadMark] at bits ⊢ <;>
    unfold IsLead <;> omega

theorem IsWide.count_eq
    {count other code : Nat}
    (wide : IsWide count code)
    (otherWide : IsWide other code) :
    other = count := by
  unfold IsWide at wide otherWide
  omega

/-- Every wide code point is the one of a character. -/
theorem exists_character
    {count code : Nat}
    (wide : IsWide count code) :
    ∃ character : Char, character.toNat = code ∧
      utf8EncodeChar character = lead count code :: continuation count code := by
  have valid : code.isValidChar := by
    unfold IsWide at wide
    unfold Nat.isValidChar
    omega
  refine ⟨Char.ofNatAux code valid, rfl, ?_⟩
  obtain ⟨ascii, -⟩ | ⟨other, otherWide, encoded⟩ := encoding_cases (Char.ofNatAux code valid)
  · change code < 0x80 at ascii
    unfold IsWide at wide
    omega
  · rw [encoded, wide.count_eq otherWide]
    rfl

/-! ## Unfinished characters -/

/-- Octets with which the encoding of some character starts. -/
def Opens (octets : List UInt8) : Prop :=
  ∃ character, octets <+: utf8EncodeChar character

namespace Unfinished

/-- The code points that the next octet of an unfinished character leaves open: their
highest bits are those read so far, and the next octet is one of those allowed. -/
structure Covers (unfinished : Unfinished) (code : Nat) : Prop where
  read : code / 64 ^ (unfinished.missing - 1) / 64 = unfinished.code
  low : unfinished.low.toNat ≤ 0x80 + code / 64 ^ (unfinished.missing - 1) % 64
  high : 0x80 + code / 64 ^ (unfinished.missing - 1) % 64 ≤ unfinished.high.toNat

/-- An unfinished character stands for the characters whose encoding starts with
the octets seen, and for no others. -/
structure Faithful (unfinished : Unfinished) : Prop where
  missing : 0 < unfinished.missing
  low : 0x80 ≤ unfinished.low.toNat
  ordered : unfinished.low.toNat ≤ unfinished.high.toNat
  high : unfinished.high.toNat ≤ 0xbf
  covers : ∀ character, unfinished.seen <+: utf8EncodeChar character →
    unfinished.Covers character.toNat
  encodes : ∀ code, unfinished.Covers code → ∃ character : Char,
    character.toNat = code ∧
      utf8EncodeChar character = unfinished.seen ++ continuation unfinished.missing code

/-- A lead octet and the range of the octet behind it tell the wide code points
apart. -/
theorem isWide_iff_of_isLead
    {count : Nat}
    {octet : UInt8}
    (isLead : IsLead count octet)
    {code : Nat}
    (bits : code / 64 ^ (count - 1) / 64 = octet.toNat - leadMark count) :
    IsWide count code ↔
      (lowestAfter octet).toNat ≤ 0x80 + code / 64 ^ (count - 1) % 64 ∧
        0x80 + code / 64 ^ (count - 1) % 64 ≤ (highestAfter octet).toNat := by
  have low : (lowestAfter octet).toNat =
      if octet.toNat = 0xe0 then 0xa0 else if octet.toNat = 0xf0 then 0x90 else 0x80 := by
    simp only [lowestAfter, ← UInt8.toNat_inj, apply_ite UInt8.toNat, UInt8.reduceToNat]
  have high : (highestAfter octet).toNat =
      if octet.toNat = 0xed then 0x9f else if octet.toNat = 0xf4 then 0x8f else 0xbf := by
    simp only [highestAfter, ← UInt8.toNat_inj, apply_ite UInt8.toNat, UInt8.reduceToNat]
  rw [low, high]
  unfold IsWide
  rcases isLead with ⟨rfl, _, _⟩ | ⟨rfl, _, _⟩ | ⟨rfl, _, _⟩ <;> simp only [leadMark] at bits <;>
    split_ifs <;> omega

/-- The unfinished character behind a lead octet. -/
def ofLead (count : Nat) (octet : UInt8) : Unfinished :=
  ⟨[octet], octet.toNat - leadMark count, count, lowestAfter octet, highestAfter octet⟩

/-- A lead octet opens the characters whose highest bits it carries. -/
theorem faithful_ofLead
    {count : Nat}
    {octet : UInt8}
    (isLead : IsLead count octet) :
    (ofLead count octet).Faithful := by
  have positive : 0 < count := by
    unfold IsLead at isLead
    omega
  refine ⟨positive, ?low, ?ordered, ?high, ?covers, ?encodes⟩
  case low =>
    change 0x80 ≤ (lowestAfter octet).toNat
    unfold lowestAfter
    split_ifs <;> decide
  case ordered =>
    change (lowestAfter octet).toNat ≤ (highestAfter octet).toNat
    unfold lowestAfter highestAfter
    split_ifs <;> simp_all
  case high =>
    change (highestAfter octet).toNat ≤ 0xbf
    unfold highestAfter
    split_ifs <;> decide
  case covers =>
    intro character opened
    rw [ofLead, List.singleton_prefix_iff_head?_eq_some] at opened
    obtain ⟨ascii, encoded⟩ | ⟨other, wide, encoded⟩ := encoding_cases character
    · rw [encoded, List.head?_cons, Option.some_inj] at opened
      rw [← opened, IsLead, UInt8.toNat_ofNat'] at isLead
      omega
    · rw [encoded, List.head?_cons, Option.some_inj] at opened
      obtain ⟨otherLead, otherBits⟩ := wide.lead
      rw [opened] at otherLead otherBits
      have same : other = count := by
        unfold IsLead at isLead otherLead
        omega
      subst same
      have read : character.toNat / 64 ^ (other - 1) / 64 = octet.toNat - leadMark other := by
        rw [div_pow_div positive, otherBits, Nat.add_sub_cancel_left]
      obtain ⟨atLeast, atMost⟩ := (isWide_iff_of_isLead isLead read).mp wide
      exact ⟨read, atLeast, atMost⟩
  case encodes =>
    intro code covered
    have wide := (isWide_iff_of_isLead isLead covered.read).mpr ⟨covered.low, covered.high⟩
    obtain ⟨character, isCode, encoded⟩ := exists_character wide
    refine ⟨character, isCode, ?_⟩
    have read : code / 64 ^ count = octet.toNat - leadMark count := by
      rw [← div_pow_div positive]
      exact covered.read
    have marked : leadMark count ≤ octet.toNat := by
      rcases isLead with ⟨rfl, _, _⟩ | ⟨rfl, _, _⟩ | ⟨rfl, _, _⟩ <;> simp only [leadMark] <;> omega
    rw [encoded, lead, read, Nat.add_sub_cancel' marked, UInt8.ofNat_toNat]
    rfl

namespace Faithful

variable
  {unfinished : Unfinished}
  (faithful : unfinished.Faithful)
include faithful

/-- The characters whose encoding starts with the octets seen go on with the
octets that are missing. -/
theorem encoding_eq
    {character : Char}
    (opened : unfinished.seen <+: utf8EncodeChar character) :
    utf8EncodeChar character =
      unfinished.seen ++ continuation unfinished.missing character.toNat := by
  obtain ⟨same, isCode, encoded⟩ := faithful.encodes _ (faithful.covers character opened)
  rwa [Char.toNat_inj.mp isCode] at encoded

/-- The octet behind those seen carries the next six bits. -/
theorem next_eq
    {octet : UInt8}
    {character : Char}
    (opened : unfinished.seen ++ [octet] <+: utf8EncodeChar character) :
    octet.toNat = 0x80 + character.toNat / 64 ^ (unfinished.missing - 1) % 64 := by
  have seenOnly := (List.prefix_append unfinished.seen [octet]).trans opened
  rw [faithful.encoding_eq seenOnly, List.prefix_append_right_inj,
    continuation_of_pos faithful.missing, List.cons_prefix_cons] at opened
  rw [opened.1, UInt8.toNat_ofNat']
  omega

/-- The code points that a fitting octet leaves open are covered. -/
theorem covers_of_fits
    {octet : UInt8}
    (fits : unfinished.low ≤ octet ∧ octet ≤ unfinished.high)
    {code : Nat}
    (read : code / 64 ^ (unfinished.missing - 1) =
      unfinished.code * 64 + (octet.toNat - 0x80)) :
    unfinished.Covers code ∧
      UInt8.ofNat (0x80 + code / 64 ^ (unfinished.missing - 1) % 64) = octet := by
  obtain ⟨atLeast, atMost⟩ := fits
  rw [UInt8.le_iff_toNat_le] at atLeast atMost
  have low := faithful.low
  have high := faithful.high
  have bits : 0x80 + code / 64 ^ (unfinished.missing - 1) % 64 = octet.toNat := by omega
  refine ⟨⟨by omega, by omega, by omega⟩, ?_⟩
  rw [bits, UInt8.ofNat_toNat]

/-- The octets allowed next are those with which some encoding goes on. -/
theorem opens_iff (octet : UInt8) :
    Opens (unfinished.seen ++ [octet]) ↔ unfinished.low ≤ octet ∧ octet ≤ unfinished.high := by
  constructor
  · rintro ⟨character, opened⟩
    have covered := faithful.covers character ((List.prefix_append _ _).trans opened)
    rw [UInt8.le_iff_toNat_le, UInt8.le_iff_toNat_le, faithful.next_eq opened]
    exact ⟨covered.low, covered.high⟩
  · intro fits
    let code := (unfinished.code * 64 + (octet.toNat - 0x80)) * 64 ^ (unfinished.missing - 1)
    have read : code / 64 ^ (unfinished.missing - 1) =
        unfinished.code * 64 + (octet.toNat - 0x80) :=
      Nat.mul_div_cancel _ (Nat.pow_pos (by decide))
    obtain ⟨covered, next⟩ := faithful.covers_of_fits fits read
    obtain ⟨character, -, encoded⟩ := faithful.encodes code covered
    refine ⟨character, ?_⟩
    rw [encoded, continuation_of_pos faithful.missing, next, List.prefix_append_right_inj]
    exact List.prefix_append [octet] _

/-- A fitting octet completes a character of which one octet was missing. -/
theorem encoding_of_fits
    {octet : UInt8}
    (fits : unfinished.low ≤ octet ∧ octet ≤ unfinished.high)
    (last : unfinished.missing ≤ 1) :
    utf8EncodeChar (Char.ofNat (unfinished.code * 64 + (octet.toNat - 0x80))) =
      unfinished.seen ++ [octet] := by
  have one : unfinished.missing = 1 := Nat.le_antisymm last faithful.missing
  have read : (unfinished.code * 64 + (octet.toNat - 0x80)) / 64 ^ (unfinished.missing - 1) =
      unfinished.code * 64 + (octet.toNat - 0x80) := by
    rw [one, Nat.sub_self, Nat.pow_zero, Nat.div_one]
  obtain ⟨covered, next⟩ := faithful.covers_of_fits fits read
  obtain ⟨character, isCode, encoded⟩ := faithful.encodes _ covered
  rw [← isCode, Char.ofNat_toNat, encoded, continuation_of_pos faithful.missing, next, one]
  rfl

/-- A fitting octet leaves an unfinished character faithful. -/
theorem resume
    {octet : UInt8}
    (fits : unfinished.low ≤ octet ∧ octet ≤ unfinished.high)
    (notLast : ¬ unfinished.missing ≤ 1) :
    Faithful ⟨unfinished.seen ++ [octet], unfinished.code * 64 + (octet.toNat - 0x80),
      unfinished.missing - 1, 0x80, 0xbf⟩ := by
  have positive : 0 < unfinished.missing - 1 := by omega
  refine ⟨positive, Nat.le_refl 0x80, Nat.le_of_ble_eq_true rfl, Nat.le_refl 0xbf, ?covers,
    ?encodes⟩
  case covers =>
    intro character opened
    have covered := faithful.covers character ((List.prefix_append _ _).trans opened)
    have next := faithful.next_eq opened
    have read := covered.read
    refine ⟨?_, Nat.le_add_right _ _, ?_⟩
    · dsimp only
      rw [div_pow_div positive, next]
      omega
    · have small : ∀ bits, 0x80 + bits % 64 ≤ 0xbf := by omega
      exact small _
  case encodes =>
    intro code covered
    have read := covered.read
    dsimp only at read
    rw [div_pow_div positive] at read
    obtain ⟨before, next⟩ := faithful.covers_of_fits fits read
    obtain ⟨character, isCode, encoded⟩ := faithful.encodes code before
    refine ⟨character, isCode, ?_⟩
    rw [encoded, continuation_of_pos faithful.missing, next, List.append_assoc]
    rfl

end Faithful

end Unfinished

/-! ## Starting a character -/

/-- No encoding starts with an octet that is neither ASCII nor a lead octet. -/
theorem not_opens_singleton
    {octet : UInt8}
    (high : 0x80 ≤ octet.toNat)
    (noLead : ∀ count, ¬ IsLead count octet) :
    ¬ Opens [octet] := by
  rintro ⟨character, opened⟩
  rw [List.singleton_prefix_iff_head?_eq_some] at opened
  obtain ⟨ascii, encoded⟩ | ⟨count, wide, encoded⟩ := encoding_cases character
  · rw [encoded, List.head?_cons, Option.some_inj] at opened
    rw [← opened, UInt8.toNat_ofNat'] at high
    omega
  · rw [encoded, List.head?_cons, Option.some_inj] at opened
    exact noLead count (opened ▸ wide.lead.1)

namespace Decoder

theorem start_of_isLead
    {count : Nat}
    {octet : UInt8}
    (isLead : IsLead count octet)
    (decoder : Decoder) :
    decoder.start octet = ⟨decoder.pieces, some (.ofLead count octet)⟩ := by
  have below : ∀ bound : UInt8, octet < bound ↔ octet.toNat < bound.toNat :=
    fun _ => UInt8.lt_iff_toNat_lt
  have equal : ∀ other : UInt8, octet = other ↔ octet.toNat = other.toNat :=
    fun _ => UInt8.toNat_inj.symm
  simp only [start, Unfinished.ofLead, lowestAfter, highestAfter, below, equal, UInt8.reduceToNat]
  rcases isLead with ⟨rfl, atLeast, atMost⟩ | ⟨rfl, atLeast, atMost⟩ | ⟨rfl, atLeast, atMost⟩
  · rw [if_neg (by omega), if_neg (by omega), if_pos (by omega), if_neg (by omega),
      if_neg (by omega), if_neg (by omega), if_neg (by omega)]
    rfl
  · rw [if_neg (by omega), if_neg (by omega), if_neg (by omega)]
    by_cases least : octet.toNat = 0xe0
    · simp [least, leadMark]
    · by_cases surrogate : octet.toNat = 0xed
      · simp [surrogate, leadMark]
      · have notFour : octet.toNat ≠ 0xf0 ∧ octet.toNat ≠ 0xf4 := by omega
        simp [least, surrogate, atMost, notFour, leadMark]
  · rw [if_neg (by omega), if_neg (by omega), if_neg (by omega), if_neg (by omega),
      if_neg (by omega), if_neg (by omega)]
    by_cases least : octet.toNat = 0xf0
    · simp [least, leadMark]
    · by_cases greatest : octet.toNat = 0xf4
      · simp [greatest, leadMark]
      · have inner : octet.toNat < 0xf4 := by omega
        have notThree : octet.toNat ≠ 0xe0 ∧ octet.toNat ≠ 0xed := by omega
        simp [least, greatest, inner, notThree, leadMark]

/-- Everything that an octet can start: an ASCII character, an ill-formed
piece, or a longer character.  Which one it is depends on the octet alone. -/
theorem start_cases (octet : UInt8) :
    (octet.toNat < 0x80 ∧ ∀ decoder : Decoder, decoder.start octet =
      ⟨decoder.pieces.push (.character (Char.ofNat octet.toNat)), none⟩) ∨
    (0x80 ≤ octet.toNat ∧ ¬ Opens [octet] ∧ ∀ decoder : Decoder, decoder.start octet =
      ⟨decoder.pieces.push (.illFormed [octet]), none⟩) ∨
    (0x80 ≤ octet.toNat ∧ ∃ unfinished : Unfinished, unfinished.Faithful ∧
      unfinished.seen = [octet] ∧
      ∀ decoder : Decoder, decoder.start octet = ⟨decoder.pieces, some unfinished⟩) := by
  by_cases ascii : octet < 0x80
  · exact .inl ⟨UInt8.lt_iff_toNat_lt.mp ascii, fun _ => if_pos ascii⟩
  have high : 0x80 ≤ octet.toNat := UInt8.le_iff_toNat_le.mp (UInt8.not_lt.mp ascii)
  by_cases isLead : ∃ count, IsLead count octet
  · obtain ⟨count, isLead⟩ := isLead
    exact .inr (.inr ⟨high, _, Unfinished.faithful_ofLead isLead, rfl, start_of_isLead isLead⟩)
  · refine .inr (.inl ⟨high, not_opens_singleton high (not_exists.mp isLead), fun decoder => ?_⟩)
    have outside : octet.toNat < 0xc2 ∨ 0xf4 < octet.toNat := by
      have noLead := not_exists.mp isLead
      have one := noLead 1
      have two := noLead 2
      have three := noLead 3
      unfold IsLead at one two three
      omega
    have below : ∀ bound : UInt8, octet < bound ↔ octet.toNat < bound.toNat :=
      fun _ => UInt8.lt_iff_toNat_lt
    have equal : ∀ other : UInt8, octet = other ↔ octet.toNat = other.toNat :=
      fun _ => UInt8.toNat_inj.symm
    simp only [start, below, equal, UInt8.reduceToNat]
    rw [if_neg (by omega)]
    rcases outside with lone | beyond
    · rw [if_pos lone]
    · iterate 8 rw [if_neg (by omega)]

end Decoder

end Utf8
end Text
end SyntaxTree
