import SyntaxTree.Proofs.Tree.Count
import SyntaxTree.Proofs.Tree.Dump
import SyntaxTree.Proofs.Viewer.Rows

/-!
# Outlines and dumps

A dump and the outline without folds are made by different passes over a tree,
each with its own rule for the nodes that it leaves out.  Both take the same
nodes at the same depths, so the dump consists of the lines of the rows.
-/

namespace SyntaxTree

/-- The visit that a row stands for. -/
def Row.visit (row : Row) : Visit :=
  ⟨row.depth, row.tree⟩

/-! ## Rows without folds -/

/-- Without folds every shown node adds its row. -/
theorem OutlineScan.visits_foldl_add
    (showEpsilon : Bool)
    (rows : Array Row)
    (visits : List (Visit × Nat)) :
    (visits.foldl (add {} showEpsilon) ⟨rows, none⟩).rows.toList.map Row.visit =
      rows.toList.map Row.visit ++
        (visits.map (·.1)).filter (·.symbol.kind.isShown showEpsilon) := by
  induction visits generalizing rows with
  | nil => simp
  | cons entry visits inductionHypothesis =>
      obtain ⟨visit, id⟩ := entry
      rw [List.foldl_cons, List.map_cons]
      by_cases shown : visit.symbol.kind.isShown showEpsilon = true
      · rw [add_of_shown rfl shown, FoldSet.contains_empty, if_neg Bool.false_ne_true,
          inductionHypothesis, List.filter_cons_of_pos (by exact shown)]
        simp [Row.visit]
      · have notShown : visit.tree.symbol.kind.isShown showEpsilon = false :=
          eq_false_of_ne_true shown
        rw [add_of_notShown rfl notShown, inductionHypothesis,
          List.filter_cons_of_neg (by exact shown)]

/-- Without folds the rows are those of the shown nodes. -/
theorem Tree.visits_outline (tree : Tree) (showEpsilon : Bool) :
    (tree.outline {} showEpsilon).map Row.visit =
      tree.preorder.filter (·.symbol.kind.isShown showEpsilon) := by
  rw [outline, OutlineScan.visits_foldl_add, List.zipIdx_map_fst]
  rfl

/-! ## Lines of shown nodes -/

/-- A symbol with its value has a line if and only if it is shown. -/
theorem Symbol.isSome_written
    {symbol : Symbol}
    (complete : symbol.lacksPayload = false)
    (verbose : Bool)
    (depth : Nat) :
    (symbol.written verbose depth).isSome = symbol.kind.isShown verbose := by
  unfold written line?
  rw [if_neg (by simp [complete])]
  cases symbol.kind <;> cases verbose <;> rfl

namespace Visit

/-- The shown nodes have the lines of a dump, and each of them has one. -/
theorem lines_of_shown
    {visits : List Visit}
    (complete : Complete visits)
    (verbose : Bool) :
    (visits.filter (·.symbol.kind.isShown verbose)).map
        (fun visit => visit.symbol.line? verbose visit.depth) =
      (visits.map (written verbose)).reduceOption.map fun line => .ok (some line) := by
  induction visits with
  | nil => rfl
  | cons visit visits inductionHypothesis =>
      rw [Complete, List.forall_mem_cons] at complete
      have hasLine := Symbol.isSome_written complete.1 verbose visit.depth
      rw [List.map_cons]
      cases line : visit.written verbose with
      | none =>
          rw [← written, line] at hasLine
          rw [List.filter_cons_of_neg (by simp [← hasLine]), List.reduceOption_cons_of_none,
            inductionHypothesis complete.2]
      | some text =>
          rw [← written, line] at hasLine
          rw [List.filter_cons_of_pos (by simp [← hasLine]), List.reduceOption_cons_of_some,
            List.map_cons, List.map_cons, inductionHypothesis complete.2,
            Symbol.line?_of_complete complete.1, ← written, line]

end Visit

namespace Tree

/-- A sink that takes everything gets the lines of the rows of the outline
without folds, each with a newline behind it.  Every row has a line, and the
dump reports as many nodes as the statistics count, whether they are written or
not. -/
theorem dump_eq_outline
    {tree : Tree}
    (complete : ∀ visit ∈ tree.preorder, visit.symbol.lacksPayload = false)
    (sink : Sink)
    (unlimited : sink.limit = none)
    (flushes : sink.flushFails = false)
    (verbose : Bool) :
    ∃ lines : List String,
      (tree.outline {} verbose).map (fun row => row.symbol.line? verbose row.depth) =
          lines.map (fun line => .ok (some line)) ∧
        (dump ⟨true, verbose⟩ sink (some tree)).sink.stored =
          sink.stored ++ (String.join (lines.map (· ++ "\n"))).toUTF8 ∧
        (dump ⟨true, verbose⟩ sink (some tree)).result = .ok tree.statistics.nodes := by
  obtain ⟨result, stored⟩ := dump_append_of_complete complete sink unlimited flushes verbose
  refine ⟨(tree.preorder.map (Visit.written verbose)).reduceOption, ?_, ?_, ?_⟩
  · rw [← Visit.lines_of_shown complete, ← visits_outline, List.map_map]
    rfl
  · rw [stored]
    rfl
  · rw [result, nodes_statistics, ← size_eq_nodeCount, size]

/-- The identifier below a hidden symbol is a row and a line of the dump, and
the hidden symbol is counted. -/
theorem dump_eq_outline_belowHidden :
    let tree : Tree :=
      .node ⟨"Exp", .nonTerminal, 1, .unset⟩
        [.node ⟨"Args", .epsilon, 1, .unset⟩ [.leaf ⟨"ID", .identifier, 1, .text "x"⟩]]
    (∀ visit ∈ tree.preorder, visit.symbol.lacksPayload = false) ∧
      (tree.outline {} false).map (·.id) = [0, 2] ∧
      tree.statistics.nodes = 3 ∧
      ∃ lines : List String,
        (tree.outline {} false).map (fun row => row.symbol.line? false row.depth) =
            lines.map (fun line => .ok (some line)) ∧
          (dump ⟨true, false⟩ {} (some tree)).sink.stored =
            ByteArray.empty ++ (String.join (lines.map (· ++ "\n"))).toUTF8 ∧
          (dump ⟨true, false⟩ {} (some tree)).result = .ok tree.statistics.nodes := by
  intro tree
  have complete : ∀ visit ∈ tree.preorder, visit.symbol.lacksPayload = false := by
    decide +kernel
  exact ⟨complete, by decide +kernel, by decide +kernel,
    dump_eq_outline complete {} rfl rfl false⟩

end Tree
end SyntaxTree
