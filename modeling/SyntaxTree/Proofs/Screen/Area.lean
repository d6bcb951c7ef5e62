import SyntaxTree.Screen.Area

/-!
# Where texts and frames end up

Writing over cells changes neither their number nor what the written styles leave
open.  A frame has its inside between its edges, and areas side by side have their
rows one behind the other.
-/

namespace SyntaxTree
namespace Screen

/-! ## Texts -/

/-- The printable characters of ASCII and of the Latin blocks behind it.  A terminal gives
each of them one cell and joins none of them with the next. -/
def takesOneCell (character : Char) : Bool :=
  let code := character.toNat
  (0x20 ≤ code && code < 0x7f) || (0xa1 ≤ code && code < 0x300 && code != 0xad)

/-- Every character of the text takes one cell. -/
def SingleWidth (text : String) : Prop :=
  ∀ character ∈ text.toList, takesOneCell character = true

namespace CellRow

@[simp] theorem length_blank (width : Nat) : (blank width).length = width :=
  List.length_replicate

@[simp] theorem length_overlay (cells : CellRow) (characters : List (Char × Style)) :
    (overlay cells characters).length = cells.length := by
  fun_induction overlay cells characters with
  | case1 => rfl
  | case2 cells => rfl
  | case3 cell cells character style characters inductionHypothesis =>
      rw [List.length_cons, List.length_cons, inductionHypothesis]

@[simp] theorem length_writeLeft (row : CellRow) (line : TextLine) :
    (writeLeft row line).length = row.length :=
  length_overlay row _

/-- What the styles of a text keep holds of all cells after writing if it held
before. -/
theorem forall_mem_overlay
    {property : Cell → Prop}
    {cells : CellRow}
    {characters : List (Char × Style)}
    (before : ∀ cell ∈ cells, property cell)
    (keeps : ∀ written ∈ characters, ∀ cell, property cell →
      property (written.2.paint { cell with character := written.1 })) :
    ∀ cell ∈ overlay cells characters, property cell := by
  fun_induction overlay cells characters with
  | case1 => exact before
  | case2 cells => exact before
  | case3 cell cells character style characters inductionHypothesis =>
      rw [List.forall_mem_cons] at before keeps ⊢
      exact ⟨keeps.1 cell before.1, inductionHypothesis before.2 keeps.2⟩

/-- What the styles of the spans keep holds of all cells of a row after writing. -/
theorem forall_mem_writeLeft
    {property : Cell → Prop}
    {row : CellRow}
    {line : TextLine}
    (before : ∀ cell ∈ row, property cell)
    (keeps : ∀ span ∈ line, ∀ character cell, property cell →
      property (span.style.paint { cell with character := character })) :
    ∀ cell ∈ writeLeft row line, property cell := by
  apply forall_mem_overlay before
  intro written member cell holds
  obtain ⟨span, isSpan, isWritten⟩ := List.mem_flatMap.mp member
  obtain ⟨character, -, rfl⟩ := List.mem_map.mp isWritten
  exact keeps span isSpan character cell holds

end CellRow

namespace Area

@[simp] theorem length_blank (width height : Nat) : (blank width height).length = height :=
  List.length_replicate

@[simp] theorem length_writeLines (rows : Area) (lines : List TextLine) :
    (writeLines rows lines).length = rows.length := by
  fun_induction writeLines rows lines with
  | case1 => rfl
  | case2 rows => rfl
  | case3 row rows line lines inductionHypothesis =>
      rw [List.length_cons, List.length_cons, inductionHypothesis]

/-- Rows of areas side by side stand one behind the other. -/
theorem getElem?_beside
    {left right : Area}
    {index : Nat}
    {row other : CellRow}
    (isLeft : left[index]? = some row)
    (isRight : right[index]? = some other) :
    (beside left right)[index]? = some (row ++ other) := by
  rw [beside, List.getElem?_zipWith, isLeft, isRight]

end Area

/-! ## Frames -/

namespace Border

variable (border : Border)

/-- Between the side edges stands the row of the inside. -/
theorem inside_side
    {width : Nat}
    {inside : CellRow}
    (fits : inside.length = width - 2)
    (rest : CellRow) :
    ((border.side width inside ++ rest).drop 1).take (width - 2) = inside := by
  match width with
  | 0 | 1 =>
      obtain rfl : inside = [] := List.eq_nil_of_length_eq_zero fits
      rfl
  | inner + 2 =>
      rw [Nat.add_sub_cancel] at fits ⊢
      simp only [side, edge, Nat.add_sub_cancel, List.take_of_length_le (Nat.le_of_eq fits),
        List.append_assoc, List.take_succ_cons, List.take_zero, List.singleton_append]
      exact List.take_left' fits

/-- Below the upper edge stand the rows of the inside. -/
theorem getElem?_surround
    {width height index : Nat}
    {inside : Area}
    {row : CellRow}
    (isRow : inside[index]? = some row)
    (within : index < height - 2) :
    (border.surround width height inside)[index + 1]? = some (border.side width row) := by
  match height with
  | 0 | 1 => contradiction
  | inner + 2 =>
      rw [Nat.add_sub_cancel] at within
      have isThere : ((inside.take inner).map (border.side width))[index]? =
          some (border.side width row) := by
        rw [List.getElem?_map, List.getElem?_take_of_lt within, isRow]
        rfl
      rw [surround, List.getElem?_cons_succ,
        List.getElem?_append_left (List.getElem?_eq_some_iff.mp isThere).1, isThere]

end Border
end Screen
end SyntaxTree
