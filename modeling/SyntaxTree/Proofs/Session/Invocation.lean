import SyntaxTree.Proofs.Parsing.Dump
import SyntaxTree.Proofs.Parsing.Report
import SyntaxTree.Proofs.Session.Run
import SyntaxTree.Session.Invocation

/-!
# Runs on readable files

Whatever octets a file holds, a run on it succeeds: the parser builds complete
trees only, and a complete tree cannot fail a dump.  The run reports the
diagnostics of the octets and, if there are none and it is not quiet, writes the
lines of the tree.
-/

namespace SyntaxTree

open Text

/-- What a run leaves behind that was asked to deal with an outcome. -/
structure Effect.Settles
    (options : CommandLine.Options)
    (outcome : Outcome)
    (effect : Effect) : Prop where
  code : effect.code = 0
  usageError : effect.usageError = none
  screen : effect.screen = none
  errorLines : effect.errorLines = outcome.diagnostics.map Diagnostic.text
  /-- Every report takes one line. -/
  oneLine : ∀ line ∈ effect.errorLines, OneLine line
  /-- Diagnostics and the wish to be quiet suppress the dump. -/
  suppressed : outcome.diagnostics ≠ [] ∨ options.quiet = true → effect.output = .empty
  /-- All nodes of a clean tree have a line or are left out, and the lines are
  written in the order of a walk. -/
  dumped : outcome.diagnostics = [] → options.quiet = false →
    ∃ root lines,
      outcome.root = some root ∧
      Visit.lines? options.verbose root.preorder = .ok lines ∧
      effect.output = (dumpText lines).toUTF8

namespace TokenLines

/-- Octets that can be read are parsed. -/
theorem parser_of_readable
    {chunks : List Chunk}
    {octets : List UInt8}
    (readable : Chunk.readAll chunks = .ok octets) :
    (parser chunks).value = .ok (parseOctets octets).value := by
  rw [parser, readable]

/-- A tree of parsed octets is there and complete. -/
theorem exists_complete_root (octets : List UInt8) :
    ∃ root, (parseOctets octets).value.root = some root ∧ Visit.Complete root.preorder :=
  ⟨_, rfl, complete_tree (tokens (segments octets))⟩

end TokenLines

namespace Surroundings

variable
  {surroundings : Surroundings}
  {options : CommandLine.Options}
  {chunks : List Chunk}
  {octets : List UInt8}

/-- Without filters nothing is logged. -/
theorem logging_of_noFilter
    (noOwnFilter : surroundings.ownFilter = none)
    (noSharedFilter : surroundings.sharedFilter = none) :
    surroundings.logging = (none, []) := by
  rw [logging, filter, noOwnFilter, noSharedFilter]

/-- Without a viewer, sessions show their tree to nobody. -/
theorem session_of_noView (noView : options.view = false) :
    surroundings.session options =
      Session.run TokenLines.parser options.dumpSettings {}
        (fun _ => { shown := none, result := .ok () }) surroundings.files options.file := by
  rw [session, noView]
  rfl

/-- A session on a readable file deals with the outcome of its octets. -/
theorem session_dealsWith
    (noView : options.view = false)
    (opened : surroundings.files options.file = .ok chunks)
    (readable : Chunk.readAll chunks = .ok octets) :
    Session.DealsWith options.dumpSettings {} (fun _ => { shown := none, result := .ok () })
      (TokenLines.parseOctets octets).value (TokenLines.parser chunks).events
      (surroundings.session options) := by
  rw [session_of_noView noView]
  exact Session.dealsWith_of_parsed opened (TokenLines.parser_of_readable readable)

/-- A session on a readable file succeeds with the diagnostics of its octets and
shows nothing. -/
theorem session_succeeds
    (noView : options.view = false)
    (opened : surroundings.files options.file = .ok chunks)
    (readable : Chunk.readAll chunks = .ok octets) :
    (∃ summary, (surroundings.session options).result = .ok summary ∧
        summary.diagnostics = (TokenLines.parseOctets octets).value.diagnostics) ∧
      (surroundings.session options).inspected.join = none := by
  have deals := session_dealsWith noView opened readable
  obtain ⟨root, isRoot, complete⟩ := TokenLines.exists_complete_root octets
  have succeeds : (∃ summary, (surroundings.session options).result = .ok summary) ∧
      (surroundings.session options).inspected.join = none := by
    by_cases clean : (TokenLines.parseOctets octets).value.diagnostics = []
    · have dumped := (Tree.dump_of_complete complete options.dumpSettings).1
      rw [← isRoot] at dumped
      obtain ⟨inspected, -, succeeds⟩ := deals.inspected clean _ dumped root isRoot
      exact ⟨succeeds rfl, by rw [inspected]; rfl⟩
    · obtain ⟨succeeds, -, notInspected⟩ := deals.unclean clean
      exact ⟨succeeds, by rw [notInspected]; rfl⟩
  obtain ⟨⟨summary, result⟩, notShown⟩ := succeeds
  exact ⟨⟨summary, result, (deals.summary summary result).diagnostics⟩, notShown⟩

/-- Diagnostics suppress what a session writes. -/
theorem stored_session_of_unclean
    (noView : options.view = false)
    (opened : surroundings.files options.file = .ok chunks)
    (readable : Chunk.readAll chunks = .ok octets)
    (unclean : (TokenLines.parseOctets octets).value.diagnostics ≠ []) :
    (surroundings.session options).sink.stored = .empty := by
  have deals := session_dealsWith noView opened readable
  rw [(deals.unclean unclean).2.1]

/-- A session writes the lines of a clean tree, unless it is quiet. -/
theorem stored_session_of_clean
    (noView : options.view = false)
    (opened : surroundings.files options.file = .ok chunks)
    (readable : Chunk.readAll chunks = .ok octets)
    (clean : (TokenLines.parseOctets octets).value.diagnostics = []) :
    ∃ root lines,
      (TokenLines.parseOctets octets).value.root = some root ∧
      Visit.lines? options.verbose root.preorder = .ok lines ∧
      (surroundings.session options).sink.stored =
        if options.quiet then .empty else (dumpText lines).toUTF8 := by
  have deals := session_dealsWith noView opened readable
  obtain ⟨root, isRoot, complete⟩ := TokenLines.exists_complete_root octets
  refine ⟨root, _, isRoot, Visit.lines?_of_complete complete options.verbose, ?_⟩
  rw [deals.dumped clean, isRoot, (Tree.dump_of_complete complete options.dumpSettings).2]
  cases quiet : options.quiet with
  | false => simp [CommandLine.Options.dumpSettings, quiet]
  | true => simp [CommandLine.Options.dumpSettings, quiet]

/-- The reports of diagnostics about parsed octets are their lines. -/
theorem flatMap_lines_text (octets : List UInt8) :
    ((TokenLines.parseOctets octets).value.diagnostics.map Diagnostic.text).flatMap lines =
      (TokenLines.parseOctets octets).value.diagnostics.map Diagnostic.text := by
  rw [List.flatMap_map, List.map_eq_flatMap]
  apply List.flatMap_congr
  intro found member
  exact (TokenLines.lines_text_of_mem member).2

/-- A run without filters tells how its session went and nothing else. -/
theorem run_of_session
    {summary : Session.Summary}
    (arguments : CommandLine.read surroundings.arguments = .ok options)
    (noOwnFilter : surroundings.ownFilter = none)
    (noSharedFilter : surroundings.sharedFilter = none)
    (result : (surroundings.session options).result = .ok summary)
    (notShown : (surroundings.session options).inspected.join = none) :
    surroundings.run =
      { code := 0
        output := (surroundings.session options).sink.stored
        errorLines := (summary.diagnostics.map Diagnostic.text).flatMap lines } := by
  rw [run, arguments]
  dsimp only
  rw [runOptions, logging_of_noFilter noOwnFilter noSharedFilter]
  dsimp only
  rw [result, notShown]
  rfl

/-- A run with valid arguments, without filters and without a viewer succeeds on
every file that can be opened and read, whatever octets it holds: it reports the
diagnostics of the octets, one on a line, and writes the lines of a clean tree,
unless it is quiet.  The session beneath it does not fail either. -/
theorem run_of_readable
    (arguments : CommandLine.read surroundings.arguments = .ok options)
    (noView : options.view = false)
    (noOwnFilter : surroundings.ownFilter = none)
    (noSharedFilter : surroundings.sharedFilter = none)
    (opened : surroundings.files options.file = .ok chunks)
    (readable : Chunk.readAll chunks = .ok octets) :
    surroundings.run.Settles options (TokenLines.parseOctets octets).value ∧
      ∃ summary, (surroundings.session options).result = .ok summary := by
  obtain ⟨⟨summary, result, diagnostics⟩, notShown⟩ := session_succeeds noView opened readable
  have runs := run_of_session arguments noOwnFilter noSharedFilter result notShown
  rw [diagnostics, flatMap_lines_text] at runs
  refine ⟨?_, summary, result⟩
  rw [runs]
  refine ⟨rfl, rfl, rfl, rfl, ?oneLine, ?suppressed, ?dumped⟩
  case oneLine =>
    intro line member
    obtain ⟨found, foundMember, rfl⟩ := List.mem_map.mp member
    exact (TokenLines.lines_text_of_mem foundMember).1
  case suppressed =>
    intro suppressed
    by_cases clean : (TokenLines.parseOctets octets).value.diagnostics = []
    · obtain ⟨root, lines, -, -, stored⟩ := stored_session_of_clean noView opened readable clean
      rw [stored, if_pos (suppressed.resolve_left (not_not.mpr clean))]
    · exact stored_session_of_unclean noView opened readable clean
  case dumped =>
    intro clean loud
    obtain ⟨root, lines, isRoot, isLines, stored⟩ :=
      stored_session_of_clean noView opened readable clean
    rw [loud, if_neg Bool.false_ne_true] at stored
    exact ⟨root, lines, isRoot, isLines, stored⟩

/-- A file that is read in two attempts with an interruption between them is
dumped as a whole. -/
theorem run_of_readable_twoLines :
    let surroundings : Surroundings :=
      { arguments := ["-v", "a.cmm"]
        ownFilter := none
        sharedFilter := none
        files := fun _ => .ok [.octets [0x61, 0x0a], .interrupted, .octets [0x31]]
        terminal := .error "none" }
    surroundings.run.code = 0 ∧
      surroundings.run.errorLines = [] ∧
      surroundings.run.output =
        "Program (1)\n  TokenLine (1)\n    ID: a\n  TokenLine (2)\n    INT: 1\n".toUTF8 := by
  intro surroundings
  have arguments : CommandLine.read surroundings.arguments = .ok ⟨"a.cmm", false, true, false⟩ := by
    cbv
  have readable : Chunk.readAll [.octets [0x61, 0x0a], .interrupted, .octets [0x31]] =
      .ok [0x61, 0x0a, 0x31] := rfl
  obtain ⟨settles, -⟩ := run_of_readable arguments rfl rfl rfl rfl readable
  have clean : (TokenLines.parseOctets [0x61, 0x0a, 0x31]).value.diagnostics = [] := by
    decide +kernel
  obtain ⟨root, lines, isRoot, isLines, output⟩ := settles.dumped clean rfl
  refine ⟨settles.code, ?_, ?_⟩
  · rw [settles.errorLines, clean, List.map_nil]
  · cases isRoot
    have written : Visit.lines? true (TokenLines.tree (TokenLines.tokens
        (TokenLines.segments [0x61, 0x0a, 0x31]))).value.preorder =
        .ok [some "Program (1)", some "  TokenLine (1)", some "    ID: a", some "  TokenLine (2)",
          some "    INT: 1"] := by
      cbv
    cases written.symm.trans isLines
    rw [output]
    decide +kernel

end Surroundings
end SyntaxTree
