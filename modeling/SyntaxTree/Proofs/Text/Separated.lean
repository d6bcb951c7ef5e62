import SyntaxTree.Text.Separated

/-!
# Texts of one line

A text without a newline is one line, and lines that are written one behind the
other, each with a newline at its end, are found again by cutting the text at
its newlines.
-/

namespace SyntaxTree
namespace Text

/-! ## Cutting -/

/-- A part ends at the first separator. -/
theorem cutAt_append
    {separator : Char}
    {part : List Char}
    (absent : separator ∉ part)
    (rest : List Char) :
    cutAt separator (part ++ separator :: rest) = part :: cutAt separator rest := by
  induction part with
  | nil => simp [cutAt]
  | cons character part inductionHypothesis =>
      rw [List.mem_cons, not_or] at absent
      rw [List.cons_append, cutAt, if_neg (Ne.symm absent.1), inductionHypothesis absent.2]

/-- Without a separator there is one part. -/
theorem cutAt_of_absent
    {separator : Char}
    {part : List Char}
    (absent : separator ∉ part) :
    cutAt separator part = [part] := by
  induction part with
  | nil => rfl
  | cons character part inductionHypothesis =>
      rw [List.mem_cons, not_or] at absent
      rw [cutAt, if_neg (Ne.symm absent.1), inductionHypothesis absent.2]

/-- Parts that are written with a separator behind each are found again. -/
theorem cutAt_flatMap
    {separator : Char}
    {parts : List (List Char)}
    (absent : ∀ part ∈ parts, separator ∉ part) :
    cutAt separator (parts.flatMap (· ++ [separator])) = parts ++ [[]] := by
  induction parts with
  | nil => rfl
  | cons part parts inductionHypothesis =>
      rw [List.forall_mem_cons] at absent
      rw [List.flatMap_cons, List.append_assoc, List.singleton_append, cutAt_append absent.1,
        inductionHypothesis absent.2, List.cons_append]

/-! ## Lines -/

/-- A text without a newline. -/
def OneLine (text : String) : Prop :=
  '\n' ∉ text.toList

instance (text : String) : Decidable (OneLine text) :=
  inferInstanceAs (Decidable (¬ _))

theorem oneLine_empty : OneLine "" := by
  decide

theorem oneLine_append {left right : String} :
    OneLine (left ++ right) ↔ OneLine left ∧ OneLine right := by
  simp only [OneLine, String.toList_append, List.mem_append, not_or]

theorem oneLine_ofList {characters : List Char} :
    OneLine (String.ofList characters) ↔ '\n' ∉ characters := by
  rw [OneLine, String.toList_ofList]

theorem oneLine_intercalate
    {separator : String}
    {parts : List String}
    (separatorOneLine : OneLine separator)
    (partsOneLine : ∀ part ∈ parts, OneLine part) :
    OneLine (separator.intercalate parts) := by
  induction parts with
  | nil =>
      rw [String.intercalate_nil]
      exact oneLine_empty
  | cons part parts inductionHypothesis =>
      rw [List.forall_mem_cons] at partsOneLine
      cases parts with
      | nil =>
          rw [String.intercalate_singleton]
          exact partsOneLine.1
      | cons next parts =>
          rw [String.intercalate_cons_cons, oneLine_append, oneLine_append]
          exact ⟨⟨partsOneLine.1, separatorOneLine⟩, inductionHypothesis partsOneLine.2⟩

/-- A newline is no digit. -/
theorem newline_not_mem_toDigits (number : Nat) : '\n' ∉ Nat.toDigits 10 number := by
  intro member
  have digit := Nat.isDigit_of_mem_toDigits (by decide) (by decide) member
  exact absurd digit (by decide)

@[simp] theorem oneLine_toString_nat (number : Nat) : OneLine (toString number) := by
  change '\n' ∉ number.repr.toList
  rw [Nat.toList_repr]
  exact newline_not_mem_toDigits number

@[simp] theorem oneLine_toString_int (number : Int) : OneLine (toString number) := by
  cases number with
  | ofNat magnitude => exact oneLine_toString_nat magnitude
  | negSucc magnitude =>
      exact oneLine_append.mpr ⟨by decide, oneLine_toString_nat (magnitude + 1)⟩

/-- A text without a newline is its only line, unless it ends in a carriage
return. -/
theorem lines_of_oneLine
    {text : String}
    (oneLine : OneLine text)
    (noReturn : text.toList.getLast? ≠ some '\r') :
    lines text = [text] := by
  rw [lines, cutAt_of_absent oneLine, List.map_singleton, if_neg noReturn, String.ofList_toList]

/-- Texts of one line are determined by what is written if each gets a newline
at its end. -/
theorem eq_of_join_newlines
    {left right : List String}
    (leftOneLine : ∀ line ∈ left, OneLine line)
    (rightOneLine : ∀ line ∈ right, OneLine line)
    (equal : String.join (left.map (· ++ "\n")) = String.join (right.map (· ++ "\n"))) :
    left = right := by
  have written : ∀ lines : List String, (String.join (lines.map (· ++ "\n"))).toList =
      (lines.map String.toList).flatMap (· ++ ['\n']) := by
    intro lines
    rw [String.toList_join, List.flatMap_map, List.flatMap_map]
    simp only [String.toList_append]
    rfl
  have absent : ∀ lines : List String, (∀ line ∈ lines, OneLine line) →
      ∀ part ∈ lines.map String.toList, '\n' ∉ part := by
    intro lines oneLine part member
    obtain ⟨line, lineMember, rfl⟩ := List.mem_map.mp member
    exact oneLine line lineMember
  have characters := congrArg (cutAt '\n' ∘ String.toList) equal
  dsimp only [Function.comp_apply] at characters
  rw [written, written, cutAt_flatMap (absent left leftOneLine),
    cutAt_flatMap (absent right rightOneLine)] at characters
  have parts := List.append_cancel_right characters
  exact (List.map_inj_right fun _ _ => String.toList_inj.mp).mp parts

end Text
end SyntaxTree
