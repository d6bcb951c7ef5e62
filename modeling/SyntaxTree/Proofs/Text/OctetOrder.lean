import Mathlib.Data.String.Basic
import SyntaxTree.Proofs.Text.Encoding

/-!
# The order of octets

Texts are ordered character by character.  A greater character has a greater lead
octet, or the same lead octet and then, where the encodings first differ, a greater
continuation octet; so octet by octet the order of texts is the same.
-/

namespace SyntaxTree
namespace Text
namespace Utf8

open String (utf8EncodeChar)

/-- Of two code points with the same highest bits, the greater one has the greater
continuation octets. -/
theorem continuation_append_lt
    {count code other : Nat}
    (sameHighest : code / 64 ^ count = other / 64 ^ count)
    (less : code < other)
    (behind otherBehind : List UInt8) :
    continuation count code ++ behind < continuation count other ++ otherBehind := by
  induction count with
  | zero =>
      rw [Nat.pow_zero, Nat.div_one, Nat.div_one] at sameHighest
      omega
  | succ count inductionHypothesis =>
      rw [continuation, continuation, List.cons_append, List.cons_append, List.cons_lt_cons_iff]
      by_cases same : code / 64 ^ count = other / 64 ^ count
      · exact Or.inr ⟨by rw [same], inductionHypothesis same⟩
      · have higher : code / 64 ^ count < other / 64 ^ count :=
          Nat.lt_of_le_of_ne (Nat.div_le_div_right (Nat.le_of_lt less)) same
        rw [Nat.pow_succ, ← Nat.div_div_eq_div_mul, ← Nat.div_div_eq_div_mul] at sameHighest
        left
        rw [UInt8.lt_iff_toNat_lt, UInt8.toNat_ofNat', UInt8.toNat_ofNat']
        omega

/-- A greater character has greater octets, whatever follows. -/
theorem encoding_append_lt
    {character other : Char}
    (less : character < other)
    (behind otherBehind : List UInt8) :
    utf8EncodeChar character ++ behind < utf8EncodeChar other ++ otherBehind := by
  have codes : character.toNat < other.toNat := less
  obtain ⟨ascii, encoded⟩ | ⟨count, wide, encoded⟩ := encoding_cases character <;>
    obtain ⟨otherAscii, otherEncoded⟩ | ⟨otherCount, otherWide, otherEncoded⟩ :=
      encoding_cases other <;>
    rw [encoded, otherEncoded, List.cons_append, List.cons_append, List.cons_lt_cons_iff]
  · left
    rw [UInt8.lt_iff_toNat_lt, UInt8.toNat_ofNat', UInt8.toNat_ofNat']
    omega
  · left
    have isLead := otherWide.lead.1
    unfold IsLead at isLead
    rw [UInt8.lt_iff_toNat_lt, UInt8.toNat_ofNat']
    omega
  · unfold IsWide at wide
    omega
  · by_cases sameCount : count = otherCount
    · subst sameCount
      have bits := wide.lead.2
      have otherBits := otherWide.lead.2
      rcases Nat.lt_or_eq_of_le (Nat.div_le_div_right (Nat.le_of_lt codes)) with higher | same
      · left
        rw [UInt8.lt_iff_toNat_lt, bits, otherBits]
        exact Nat.add_lt_add_left higher _
      · right
        exact ⟨by rw [lead, lead, same], continuation_append_lt same codes behind otherBehind⟩
    · left
      have isLead := wide.lead.1
      have otherIsLead := otherWide.lead.1
      unfold IsWide at wide otherWide
      unfold IsLead at isLead otherIsLead
      rw [UInt8.lt_iff_toNat_lt]
      omega

theorem flatMap_encoding_lt
    {text other : List Char}
    (less : text < other) :
    text.flatMap utf8EncodeChar < other.flatMap utf8EncodeChar := by
  induction text generalizing other with
  | nil =>
      cases other with
      | nil => exact absurd less (List.not_lt_nil [])
      | cons first other =>
          rw [List.flatMap_nil, List.flatMap_cons]
          obtain ⟨-, encoded⟩ | ⟨count, -, encoded⟩ := encoding_cases first <;>
            rw [encoded] <;> exact List.nil_lt_cons _ _
  | cons character text inductionHypothesis =>
      cases other with
      | nil => exact absurd less (List.not_lt_nil _)
      | cons first other =>
          rw [List.flatMap_cons, List.flatMap_cons]
          rcases List.cons_lt_cons_iff.mp less with smaller | ⟨rfl, later⟩
          · exact encoding_append_lt smaller _ _
          · exact List.append_left_lt (inductionHypothesis later)

/-- The octets of texts are ordered as the texts are. -/
theorem toUTF8_lt_iff {left right : String} :
    left.toUTF8.data.toList < right.toUTF8.data.toList ↔ left < right := by
  rw [toList_toUTF8, toList_toUTF8, String.lt_iff_toList_lt]
  constructor
  · intro octetsLess
    rcases lt_trichotomy left.toList right.toList with less | same | greater
    · exact less
    · rw [same] at octetsLess
      exact absurd octetsLess (List.lt_irrefl _)
    · exact absurd octetsLess (List.lt_asymm (flatMap_encoding_lt greater))
  · exact flatMap_encoding_lt

end Utf8
end Text
end SyntaxTree
