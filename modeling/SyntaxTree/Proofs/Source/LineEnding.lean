import SyntaxTree.Proofs.Source.Decoding

/-!
# Line endings

A line ends with a newline, and a carriage return may stand before it.  Octets
with a carriage return before every newline decode to the same text with the
carriage returns in it, and to the same reports on the same lines.
-/

namespace SyntaxTree

/-! ## Insertion before an item -/

namespace Text

variable {α : Type} [DecidableEq α]

/-- The list with something inserted before every occurrence of an item. -/
def insertBefore (inserted item : α) (list : List α) : List α :=
  list.flatMap fun next => if next = item then [inserted, next] else [next]

variable {inserted item : α}

@[simp] theorem insertBefore_nil : insertBefore inserted item [] = [] :=
  rfl

@[simp] theorem insertBefore_append (left right : List α) :
    insertBefore inserted item (left ++ right) =
      insertBefore inserted item left ++ insertBefore inserted item right :=
  List.flatMap_append

@[simp] theorem insertBefore_cons_self (list : List α) :
    insertBefore inserted item (item :: list) =
      inserted :: item :: insertBefore inserted item list := by
  rw [insertBefore, List.flatMap_cons, if_pos rfl]
  rfl

theorem insertBefore_cons_of_ne
    {next : α}
    (different : next ≠ item)
    (list : List α) :
    insertBefore inserted item (next :: list) = next :: insertBefore inserted item list := by
  rw [insertBefore, List.flatMap_cons, if_neg different]
  rfl

theorem insertBefore_of_notMem
    {list : List α}
    (absent : item ∉ list) :
    insertBefore inserted item list = list := by
  induction list with
  | nil => rfl
  | cons next list inductionHypothesis =>
      rw [List.mem_cons, not_or] at absent
      rw [insertBefore_cons_of_ne (Ne.symm absent.1), inductionHypothesis absent.2]

/-- Up to the first occurrence of the item nothing is inserted. -/
theorem insertBefore_append_cons
    {front : List α}
    (absent : item ∉ front)
    (back : List α) :
    insertBefore inserted item (front ++ item :: back) =
      front ++ inserted :: item :: insertBefore inserted item back := by
  rw [insertBefore_append, insertBefore_of_notMem absent, insertBefore_cons_self]

/-- A property of lists holds of all of them if it holds of those without the
item and passes from what stands behind an item to the whole. -/
theorem item_induction
    {motive : List α → Prop}
    (item : α)
    (absent : ∀ list, item ∉ list → motive list)
    (step : ∀ front back, item ∉ front → motive back → motive (front ++ item :: back))
    (list : List α) :
    motive list := by
  by_cases member : item ∈ list
  · obtain ⟨front, back, split, notInFront⟩ := List.eq_append_cons_of_mem member
    rw [split]
    exact step front back notInFront (item_induction item absent step back)
  · exact absent list member
termination_by list.length
decreasing_by
  rw [split, List.length_append, List.length_cons]
  omega

/-! ## Octets -/

theorem Utf8.newline_notMem_decode
    {octets : List UInt8}
    (oneLine : 0x0a ∉ octets) :
    .character '\n' ∉ Utf8.decode octets := by
  rw [← List.count_eq_zero, Utf8.count_newline_decode]
  exact List.count_eq_zero.mpr oneLine

/-- A carriage return before every newline octet is decoded as one before every
newline, and all else is decoded as before. -/
theorem Utf8.decode_insertBefore (octets : List UInt8) :
    Utf8.decode (insertBefore 0x0d 0x0a octets) =
      insertBefore (.character '\r') (.character '\n') (Utf8.decode octets) := by
  induction octets using item_induction (0x0a : UInt8) with
  | absent line oneLine =>
      rw [insertBefore_of_notMem oneLine,
        insertBefore_of_notMem (Utf8.newline_notMem_decode oneLine)]
  | step line rest oneLine inductionHypothesis =>
      have newline : ∀ octets,
          Utf8.decode (0x0a :: octets) = .character '\n' :: Utf8.decode octets :=
        Utf8.decode_append_newline []
      rw [insertBefore_append_cons oneLine, Utf8.decode_append_ascii _ _ (by decide), newline,
        inductionHypothesis, Utf8.decode_append_newline,
        insertBefore_append_cons (Utf8.newline_notMem_decode oneLine)]
      rfl

end Text

namespace Source

open Text

namespace DecodedText

/-- The text with a carriage return before every newline. -/
def withReturns (decoded : DecodedText) : DecodedText :=
  { decoded with characters := (insertBefore '\r' '\n' decoded.characters.toList).toArray }

theorem push_withReturns
    {piece : Utf8.Piece}
    (notNewline : piece ≠ .character '\n')
    (decoded : DecodedText) :
    decoded.withReturns.push piece = (decoded.push piece).withReturns := by
  cases piece with
  | character value =>
      have different : value ≠ '\n' := fun equal => notNewline (congrArg _ equal)
      simp [push, withReturns, insertBefore_cons_of_ne different]
  | illFormed octets =>
      have different : ' ' ≠ '\n' := by decide
      simp [push, withReturns, insertBefore_cons_of_ne different]

/-- The carriage return does not change the line on which a text goes on. -/
theorem push_return_newline (decoded : DecodedText) :
    (decoded.withReturns.push (.character '\r')).push (.character '\n') =
      (decoded.push (.character '\n')).withReturns := by
  simp [push, withReturns]

theorem foldl_push_insertBefore (decoded : DecodedText) (pieces : List Utf8.Piece) :
    (insertBefore (.character '\r') (.character '\n') pieces).foldl push decoded.withReturns =
      (pieces.foldl push decoded).withReturns := by
  induction pieces generalizing decoded with
  | nil => rfl
  | cons piece pieces inductionHypothesis =>
      by_cases newline : piece = .character '\n'
      · subst newline
        rw [insertBefore_cons_self, List.foldl_cons, List.foldl_cons, push_return_newline,
          inductionHypothesis, List.foldl_cons]
      · rw [insertBefore_cons_of_ne newline, List.foldl_cons, push_withReturns newline,
          inductionHypothesis, List.foldl_cons]

end DecodedText

/-- Carriage returns before the newlines appear in the text, and the reports stay
the same. -/
theorem decode_insertBefore (octets : List UInt8) :
    decode (insertBefore 0x0d 0x0a octets) = (decode octets).withReturns := by
  rw [decode, Utf8.decode_insertBefore]
  exact DecodedText.foldl_push_insertBefore .empty (Utf8.decode octets)

end Source
end SyntaxTree
