import SyntaxTree.Viewer.Outline

/-!
# Rows of an outline

Every row of an outline stands for the node that its id counts to in the
preorder of the whole tree, and it has the depth of that node.
-/

namespace SyntaxTree

namespace FoldSet

theorem contains_insert {folded : FoldSet} {id other : Nat} :
    (folded.insert id).contains other = true ↔ other = id ∨ folded.contains other = true := by
  simp only [contains, insert, List.contains_iff_mem, mem_insertInto]

theorem contains_erase {folded : FoldSet} {id other : Nat} :
    (folded.erase id).contains other = true ↔ folded.contains other = true ∧ other ≠ id := by
  simp [contains, erase]

@[simp] theorem contains_empty (id : Nat) : contains {} id = false :=
  rfl

end FoldSet

namespace OutlineScan

/-- A visited node gets a row of its own or none at all. -/
theorem rows_add
    (folded : FoldSet)
    (showEpsilon : Bool)
    (scan : OutlineScan)
    (visit : Visit × Nat) :
    (scan.add folded showEpsilon visit).rows = scan.rows ∨
      (scan.add folded showEpsilon visit).rows =
        scan.rows.push ⟨visit.2, visit.1.depth, visit.1.tree⟩ := by
  obtain ⟨⟨depth, tree⟩, id⟩ := visit
  unfold add
  dsimp only
  split
  · exact Or.inl rfl
  · split
    · exact Or.inl rfl
    · exact Or.inr rfl

/-- Rows come from the visited nodes. -/
theorem mem_rows_foldl
    {folded : FoldSet}
    {showEpsilon : Bool}
    {scan : OutlineScan}
    {visits : List (Visit × Nat)}
    {row : Row}
    (member : row ∈ (visits.foldl (add folded showEpsilon) scan).rows) :
    row ∈ scan.rows ∨ (⟨row.depth, row.tree⟩, row.id) ∈ visits := by
  induction visits generalizing scan with
  | nil => exact Or.inl member
  | cons visit visits inductionHypothesis =>
      rcases inductionHypothesis member with early | late
      · rcases rows_add folded showEpsilon scan visit with same | pushed
        · rw [same] at early
          exact Or.inl early
        · rw [pushed, Array.mem_push] at early
          rcases early with earlier | rfl
          · exact Or.inl earlier
          · exact Or.inr List.mem_cons_self
      · exact Or.inr (List.mem_cons_of_mem visit late)

end OutlineScan

namespace Tree

/-- A row of an outline shows the node whose preorder index is its id. -/
theorem getElem?_preorder_of_mem_outline
    {tree : Tree}
    {folded : FoldSet}
    {showEpsilon : Bool}
    {row : Row}
    (member : row ∈ tree.outline folded showEpsilon) :
    tree.preorder[row.id]? = some ⟨row.depth, row.tree⟩ := by
  rcases OutlineScan.mem_rows_foldl (Array.mem_toList_iff.mp member) with absent | visited
  · simp at absent
  · exact List.mem_zipIdx_iff_getElem?.mp visited

end Tree
end SyntaxTree
