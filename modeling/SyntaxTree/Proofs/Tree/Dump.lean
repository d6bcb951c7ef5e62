import Mathlib.Data.List.ReduceOption
import Mathlib.Data.List.TakeWhile
import SyntaxTree.Proofs.Tree.Sink

/-!
# Text of a dump

A tree is complete if all its value leaves have their values.  Each of its
nodes then has a line or is left out, and a sink that takes everything ends up
with the lines of a walk over the tree, each with a newline at its end.  If a value
is missing, printing goes as far as the first leaf without one.
-/

namespace SyntaxTree

/-! ## Lines -/

namespace Symbol

/-- Line of a symbol at a depth, if it has one. -/
def written (verbose : Bool) (depth : Nat) (symbol : Symbol) : Option String :=
  (symbol.line? verbose depth).toOption.join

/-- A symbol with its value has a line or is left out. -/
theorem line?_of_complete
    {symbol : Symbol}
    (complete : symbol.lacksPayload = false)
    (verbose : Bool)
    (depth : Nat) :
    symbol.line? verbose depth = .ok (symbol.written verbose depth) := by
  unfold written line?
  rw [if_neg (by simp [complete])]
  cases symbol.kind <;> rfl

/-- A symbol without its value has no line. -/
theorem line?_of_lacksPayload
    {symbol : Symbol}
    (lacks : symbol.lacksPayload = true)
    (verbose : Bool)
    (depth : Nat) :
    symbol.line? verbose depth =
      .error (.missingPayload symbol.name symbol.kind symbol.line) := by
  rw [line?, if_pos lacks]

end Symbol

namespace Visit

/-- Line of a visited node, if it has one. -/
def written (verbose : Bool) (visit : Visit) : Option String :=
  visit.symbol.written verbose visit.depth

/-- Lines of visited nodes, `none` for those that are left out; the first node
without its value fails. -/
def lines? (verbose : Bool) (visits : List Visit) : Except TreeError (List (Option String)) :=
  visits.mapM fun visit => visit.symbol.line? verbose visit.depth

/-- All visited nodes have the values that they stand for. -/
def Complete (visits : List Visit) : Prop :=
  ∀ visit ∈ visits, visit.symbol.lacksPayload = false

theorem lines?_of_complete
    {visits : List Visit}
    (complete : Complete visits)
    (verbose : Bool) :
    lines? verbose visits = .ok (visits.map (written verbose)) := by
  unfold lines?
  induction visits with
  | nil => rfl
  | cons visit visits inductionHypothesis =>
      rw [Complete, List.forall_mem_cons] at complete
      rw [List.mapM_cons, Symbol.line?_of_complete complete.1, inductionHypothesis complete.2]
      rfl

end Visit

/-- Text of a dump with the given lines. -/
def dumpText (lines : List (Option String)) : String :=
  String.join (lines.reduceOption.map (· ++ "\n"))

theorem dumpText_cons (line : Option String) (lines : List (Option String)) :
    dumpText (line :: lines) = dumpText [line] ++ dumpText lines := by
  cases line <;> simp [dumpText]

/-! ## Nodes without their values -/

namespace Visit

/-- Whether the visited node stands for a value that was never set. -/
def lacksPayload (visit : Visit) : Bool :=
  visit.symbol.lacksPayload

/-- The visits in front of the first node without its value. -/
def beforeMissing (visits : List Visit) : List Visit :=
  visits.takeWhile fun visit => !visit.lacksPayload

/-- Failure of a dump at a node without its value. -/
def missingPayload (visit : Visit) : TreeError :=
  .missingPayload visit.symbol.name visit.symbol.kind visit.symbol.line

theorem beforeMissing_cons_of_lacks
    {visit : Visit}
    (lacks : visit.lacksPayload = true)
    (visits : List Visit) :
    beforeMissing (visit :: visits) = [] :=
  List.takeWhile_cons_of_neg (by simp [lacks])

theorem beforeMissing_cons_of_complete
    {visit : Visit}
    (complete : visit.lacksPayload = false)
    (visits : List Visit) :
    beforeMissing (visit :: visits) = visit :: beforeMissing visits :=
  List.takeWhile_cons_of_pos (by simp [complete])

/-- The nodes are complete if no node without its value is found among them. -/
theorem find?_lacksPayload_eq_none {visits : List Visit} :
    visits.find? lacksPayload = none ↔ Complete visits := by
  simp [Complete, lacksPayload]

theorem beforeMissing_of_complete
    {visits : List Visit}
    (complete : Complete visits) :
    beforeMissing visits = visits := by
  apply List.takeWhile_eq_self_iff.mpr
  intro visit member
  simp [lacksPayload, complete visit member]

end Visit

/-! ## Writing -/

namespace Visit

/-- The line of a node with its value is written, if it has one. -/
theorem print_of_complete
    {visit : Visit}
    (complete : visit.symbol.lacksPayload = false)
    (sink : Sink)
    (verbose : Bool) :
    visit.print verbose sink = sink.writeText (dumpText [visit.written verbose]) := by
  unfold print
  rw [Symbol.line?_of_complete complete, written]
  cases visit.symbol.written verbose visit.depth with
  | none => exact (Sink.writeText_empty sink).symm
  | some line =>
      have text : dumpText [some line] = line ++ "\n" := by simp [dumpText]
      rw [text]
      rfl

/-- Printing writes the lines in front of the first node without its value as one
text and then fails at that node, if there is one. -/
theorem printAll_eq (verbose : Bool) (sink : Sink) (visits : List Visit) :
    printAll verbose sink visits =
      match sink.writeText (dumpText ((beforeMissing visits).map (written verbose))) with
      | (sink, .error error) => (sink, .error error)
      | (sink, .ok ()) =>
        match visits.find? lacksPayload with
        | some visit => (sink, .error visit.missingPayload)
        | none => (sink, .ok ()) := by
  induction visits generalizing sink with
  | nil =>
      have nothing : sink.writeText (dumpText ((beforeMissing []).map (written verbose))) =
          (sink, .ok ()) := Sink.writeText_empty sink
      rw [printAll, nothing]
      rfl
  | cons visit visits inductionHypothesis =>
      cases lacks : visit.lacksPayload with
      | true =>
          have nothing : sink.writeText (dumpText (([] : List Visit).map (written verbose))) =
              (sink, .ok ()) := Sink.writeText_empty sink
          rw [beforeMissing_cons_of_lacks lacks, nothing, List.find?_cons_of_pos lacks, printAll,
            print, Symbol.line?_of_lacksPayload lacks]
          rfl
      | false =>
          rw [beforeMissing_cons_of_complete lacks, List.map_cons,
            dumpText_cons (visit.written verbose), Sink.writeText_append, printAll,
            print_of_complete lacks, List.find?_cons_of_neg (by simp [lacks])]
          rcases sink.writeText (dumpText [visit.written verbose]) with ⟨sink, error | ⟨⟩⟩
          · rfl
          · exact inductionHypothesis sink

/-- The lines of nodes with their values are written as one text. -/
theorem printAll_of_complete
    {visits : List Visit}
    (complete : Complete visits)
    (sink : Sink)
    (verbose : Bool) :
    printAll verbose sink visits = sink.writeText (dumpText (visits.map (written verbose))) := by
  rw [printAll_eq, beforeMissing_of_complete complete, find?_lacksPayload_eq_none.mpr complete]
  rcases sink.writeText (dumpText (visits.map (written verbose))) with ⟨sink, error | ⟨⟩⟩ <;> rfl

end Visit

namespace Tree

/-- A sink that takes everything gets the lines of a walk over a complete tree
behind what it holds already. -/
theorem dump_append_of_complete
    {tree : Tree}
    (complete : Visit.Complete tree.preorder)
    (sink : Sink)
    (unlimited : sink.limit = none)
    (flushes : sink.flushFails = false)
    (verbose : Bool) :
    (dump ⟨true, verbose⟩ sink (some tree)).result = .ok tree.preorder.length ∧
      (dump ⟨true, verbose⟩ sink (some tree)).sink =
        sink.append (dumpText (tree.preorder.map (Visit.written verbose))) := by
  have flushed : ∀ text, (sink.append text).flush = .ok () := by
    intro text
    rw [Sink.flush, Sink.append, if_neg (by simp [flushes])]
  unfold dump
  dsimp only
  rw [if_pos rfl, Visit.printAll_of_complete complete,
    Sink.writeText_of_hasRoom (Sink.hasRoom_of_unlimited unlimited _)]
  dsimp only
  rw [flushed]
  exact ⟨rfl, rfl⟩

/-- A sink that takes everything takes the lines of a walk over a complete tree,
and nothing from a disabled dump. -/
theorem dump_of_complete
    {tree : Tree}
    (complete : Visit.Complete tree.preorder)
    (settings : DumpSettings) :
    (dump settings {} (some tree)).result =
        .ok (if settings.enabled then tree.preorder.length else 0) ∧
      (dump settings {} (some tree)).sink.stored =
        if settings.enabled then
          (dumpText (tree.preorder.map (Visit.written settings.verbose))).toUTF8
        else .empty := by
  obtain ⟨enabled, verbose⟩ := settings
  cases enabled with
  | true =>
      obtain ⟨result, sink⟩ := dump_append_of_complete complete {} rfl rfl verbose
      rw [result, sink]
      exact ⟨rfl, ByteArray.empty_append⟩
  | false => exact ⟨rfl, rfl⟩

end Tree
end SyntaxTree
