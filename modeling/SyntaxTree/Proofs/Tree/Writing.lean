import SyntaxTree.Proofs.Tree.Dump
import SyntaxTree.Proofs.Tree.Nesting

/-!
# What a dump leaves in its sink

A dump may fail because its sink is full, because a value leaf has no value or
because the sink cannot be flushed.  Up to such a leaf it writes one text, and a sink
without room for all of it fails first.  Then comes the leaf, and only a complete
dump is flushed.
-/

namespace SyntaxTree
namespace Tree

/-- What a dump has to write: the lines of the nodes in front of the first value
leaf without its value, each with a newline at its end. -/
def dumpedText (verbose : Bool) (tree : Tree) : String :=
  dumpText ((Visit.beforeMissing tree.preorder).map (Visit.written verbose))

/-- The first value leaf of a walk over the tree that lacks its value. -/
def firstMissing? (tree : Tree) : Option Visit :=
  tree.preorder.find? Visit.lacksPayload

/-- How a dump of a tree to a sink ends, by the first thing that goes wrong. -/
structure DumpCourse
    (verbose : Bool)
    (sink : Sink)
    (tree : Tree)
    (report : DumpReport) : Prop where
  /-- A text that is longer than the room in the sink fails, whatever comes behind it,
  and fills the sink to its limit. -/
  tooLong : ∀ limit, sink.limit = some limit →
    limit - sink.stored.size < (tree.dumpedText verbose).toUTF8.size →
      report.result = .error (.write .full) ∧
        report.sink.stored = sink.stored ++
          (tree.dumpedText verbose).toUTF8.extract 0 (limit - sink.stored.size)
  /-- A text that fits is stored completely, however the dump ends. -/
  stored : sink.HasRoom (tree.dumpedText verbose).toUTF8 →
    report.sink.stored = sink.stored ++ (tree.dumpedText verbose).toUTF8
  /-- Behind a text that fits, a leaf without its value fails before the flush. -/
  missing : sink.HasRoom (tree.dumpedText verbose).toUTF8 →
    ∀ visit, tree.firstMissing? = some visit →
      report.result =
        .error (.missingPayload visit.symbol.name visit.symbol.kind visit.symbol.line)
  /-- If no leaf lacks its value the text is the complete dump. -/
  complete : tree.firstMissing? = none →
    tree.dumpedText verbose = dumpText (tree.preorder.map (Visit.written verbose))
  /-- Only the flush can fail behind a complete dump. -/
  notFlushed : sink.HasRoom (tree.dumpedText verbose).toUTF8 → tree.firstMissing? = none →
    sink.flushFails = true → report.result = .error (.write .flushFailed)
  /-- A dump that is flushed counts every node. -/
  flushed : sink.HasRoom (tree.dumpedText verbose).toUTF8 → tree.firstMissing? = none →
    sink.flushFails = false → report.result = .ok tree.size

/-- An enabled dump first writes its text, then meets a leaf without its value, if
there is one, and else flushes the sink. -/
theorem dump_of_enabled (verbose : Bool) (sink : Sink) (tree : Tree) :
    dump ⟨true, verbose⟩ sink (some tree) =
      match sink.writeText (tree.dumpedText verbose) with
      | (sink, .error error) => ⟨sink, .error error, []⟩
      | (sink, .ok ()) =>
        match tree.firstMissing? with
        | some visit => ⟨sink, .error visit.missingPayload, []⟩
        | none =>
          match sink.flush with
          | .error cause => ⟨sink, .error (.write cause), []⟩
          | .ok () => ⟨sink, .ok tree.size, [.treeDumped tree.symbol.name tree.size]⟩ := by
  unfold dump
  dsimp only
  rw [if_pos rfl, Visit.printAll_eq, dumpedText, firstMissing?]
  rcases sink.writeText _ with ⟨written, error | ⟨⟩⟩
  · rfl
  · cases tree.preorder.find? Visit.lacksPayload <;> rfl

/-- A dump that wrote all of its text and met no leaf without its value ends with
the flush. -/
theorem dump_of_noneMissing
    {verbose : Bool}
    {sink : Sink}
    {tree : Tree}
    (hasRoom : sink.HasRoom (tree.dumpedText verbose).toUTF8)
    (noneMissing : tree.firstMissing? = none) :
    dump ⟨true, verbose⟩ sink (some tree) =
      if sink.flushFails then
        ⟨sink.append (tree.dumpedText verbose), .error (.write .flushFailed), []⟩
      else
        ⟨sink.append (tree.dumpedText verbose), .ok tree.size,
          [.treeDumped tree.symbol.name tree.size]⟩ := by
  rw [dump_of_enabled, Sink.writeText_of_hasRoom hasRoom, noneMissing]
  dsimp only [Sink.flush, Sink.append]
  cases sink.flushFails <;> rfl

theorem dump_of_missing
    {verbose : Bool}
    {sink : Sink}
    {tree : Tree}
    {visit : Visit}
    (hasRoom : sink.HasRoom (tree.dumpedText verbose).toUTF8)
    (missing : tree.firstMissing? = some visit) :
    dump ⟨true, verbose⟩ sink (some tree) =
      ⟨sink.append (tree.dumpedText verbose), .error visit.missingPayload, []⟩ := by
  rw [dump_of_enabled, Sink.writeText_of_hasRoom hasRoom, missing]

theorem dumpedText_of_noneMissing
    {tree : Tree}
    (noneMissing : tree.firstMissing? = none)
    (verbose : Bool) :
    tree.dumpedText verbose = dumpText (tree.preorder.map (Visit.written verbose)) := by
  rw [dumpedText, Visit.beforeMissing_of_complete (Visit.find?_lacksPayload_eq_none.mp noneMissing)]

theorem dumpCourse_of_enabled (verbose : Bool) (sink : Sink) (tree : Tree) :
    DumpCourse verbose sink tree (dump ⟨true, verbose⟩ sink (some tree)) := by
  constructor
  case tooLong =>
    intro limit isLimit tooLong
    rw [dump_of_enabled, Sink.writeText_of_tooLong isLimit tooLong]
    exact ⟨rfl, rfl⟩
  case stored =>
    intro hasRoom
    cases missing : tree.firstMissing? with
    | some visit =>
        rw [dump_of_missing hasRoom missing]
        rfl
    | none =>
        rw [dump_of_noneMissing hasRoom missing]
        split <;> rfl
  case missing =>
    intro hasRoom visit missing
    rw [dump_of_missing hasRoom missing]
    rfl
  case complete =>
    intro noneMissing
    exact dumpedText_of_noneMissing noneMissing verbose
  case notFlushed =>
    intro hasRoom noneMissing fails
    rw [dump_of_noneMissing hasRoom noneMissing, if_pos fails]
  case flushed =>
    intro hasRoom noneMissing flushes
    rw [dump_of_noneMissing hasRoom noneMissing, if_neg (by simp [flushes])]

/-- An enabled dump of a tree writes the lines of its nodes up to the first value
leaf without its value.  Without enough room it fills the sink and fails; otherwise
such a leaf fails it, otherwise the flush, and otherwise it counts all nodes.  Without
a tree, or if it is disabled, a dump does nothing to any sink, be it one that takes
nothing and cannot be flushed. -/
theorem dump_course (settings : DumpSettings) (sink : Sink) (root : Option Tree) :
    (∀ tree, root = some tree → settings.enabled = true →
      DumpCourse settings.verbose sink tree (dump settings sink root)) ∧
    (root = none ∨ settings.enabled = false →
      dump settings sink root = ⟨sink, .ok 0, []⟩) := by
  obtain ⟨enabled, verbose⟩ := settings
  constructor
  · rintro tree rfl rfl
    exact dumpCourse_of_enabled verbose sink tree
  · rintro (rfl | rfl)
    · rfl
    · cases root <;> rfl

/-- A literal without its value stands behind an expression and in front of a token.
A sink with room for five octets keeps a part of the first line; with room for the
line, the literal fails the dump before the flush could.  A disabled dump does not
touch either sink. -/
theorem dump_course_unsetLiteral :
    let tree : Tree :=
      .node ⟨"Exp", .nonTerminal, 1, .unset⟩
        [.leaf ⟨"INT", .integer, 2, .unset⟩, .leaf ⟨"SEMI", .token, 2, .unset⟩]
    let small : Sink := { limit := some 5, flushFails := true }
    let large : Sink := { limit := some 8, flushFails := true }
    ((dump ⟨true, false⟩ small (some tree)).result = .error (.write .full) ∧
      (dump ⟨true, false⟩ small (some tree)).sink.stored = "Exp (".toUTF8) ∧
    ((dump ⟨true, false⟩ large (some tree)).result = .error (.missingPayload "INT" .integer 2) ∧
      (dump ⟨true, false⟩ large (some tree)).sink.stored = "Exp (1)\n".toUTF8) ∧
    dump ⟨false, true⟩ small (some tree) = ⟨small, .ok 0, []⟩ := by
  intro tree small large
  have text : tree.dumpedText false = "Exp (1)\n" := by decide +kernel
  have missing : tree.firstMissing? = some ⟨1, .leaf ⟨"INT", .integer, 2, .unset⟩⟩ := by
    rw [firstMissing?, preorder, Visit.ofAgenda_eq_visitsFrom]
    rfl
  have smallCourse := (dump_course ⟨true, false⟩ small (some tree)).1 tree rfl rfl
  have largeCourse := (dump_course ⟨true, false⟩ large (some tree)).1 tree rfl rfl
  have tooLong : 5 - ByteArray.empty.size < (tree.dumpedText false).toUTF8.size := by
    rw [text]
    decide +kernel
  have hasRoom : large.HasRoom (tree.dumpedText false).toUTF8 := by
    rw [text]
    exact (Sink.hasRoom_iff rfl).mpr (by decide +kernel)
  obtain ⟨full, cut⟩ := smallCourse.tooLong 5 rfl tooLong
  have kept := largeCourse.stored hasRoom
  rw [text] at cut kept
  refine ⟨⟨full, ?_⟩, ⟨largeCourse.missing hasRoom _ missing, ?_⟩,
    (dump_course ⟨false, true⟩ small (some tree)).2 (Or.inr rfl)⟩
  · rw [cut]
    decide +kernel
  · rw [kept]
    exact ByteArray.empty_append

end Tree
end SyntaxTree
