import SyntaxTree.Proofs.Tree.Count
import SyntaxTree.Session.Run

/-!
# The course of a session

A session fails early if its file cannot be opened or parsed.  Otherwise there
is an outcome to deal with: counted errors suppress everything but the release
of the tree, and a clean tree is dumped, shown to the inspector and released.
The release never depends on how the dump or the inspection went, and the
numbers of dumped, counted and released nodes agree.
-/

namespace SyntaxTree

open Log

namespace Tree

/-- A successful dump visits every node, a disabled one none. -/
theorem dumped_eq
    {settings : DumpSettings}
    {sink : Sink}
    {root : Option Tree}
    {visited : Nat}
    (dumped : (dump settings sink root).result = .ok visited) :
    visited = if settings.enabled then (root.map nodeCount).getD 0 else 0 := by
  unfold dump at dumped
  cases root with
  | none =>
      rw [← Except.ok.inj dumped]
      simp
  | some tree =>
      dsimp only at dumped
      split at dumped
      · rename_i enabled
        rw [if_pos enabled]
        split at dumped
        · cases dumped
        · split at dumped
          · cases dumped
          · rw [← Except.ok.inj dumped, Option.map_some, Option.getD_some,
              ← size_eq_nodeCount, size]
      · rename_i disabled
        rw [if_neg disabled, ← Except.ok.inj dumped]

end Tree

namespace Session

/-! ## Releases -/

/-- Name and number of nodes of a released tree. -/
def released? : Event → Option (String × Nat)
  | .treeReleased root count => some (root, count)
  | _ => none

/-- Releases among some events. -/
def releases (events : List Event) : List (String × Nat) :=
  events.filterMap released?

@[simp] theorem releases_append (left right : List Event) :
    releases (left ++ right) = releases left ++ releases right :=
  List.filterMap_append

/-- The one release of a tree that is there. -/
def releaseOf (root : Option Tree) : List (String × Nat) :=
  (root.map fun tree => (tree.symbol.name, tree.nodeCount)).toList

theorem releases_release (root : Option Tree) :
    releases (Tree.release root).events = releaseOf root := by
  cases root with
  | none => rfl
  | some tree =>
      simp [Tree.release, releases, released?, releaseOf, Tree.releaseOrder_eq_postorder]

/-- Dumping releases nothing. -/
@[simp] theorem releases_dump
    (settings : DumpSettings)
    (sink : Sink)
    (root : Option Tree) :
    releases (Tree.dump settings sink root).events = [] := by
  unfold Tree.dump
  cases root with
  | none => rfl
  | some tree =>
      dsimp only
      split
      · split
        · rfl
        · split <;> rfl
      · rfl

/-! ## What a session has to do -/

/-- Number of nodes of a tree, none if there is no tree. -/
def nodeCountOf (root : Option Tree) : Nat :=
  (root.map Tree.nodeCount).getD 0

/-- A session that failed before there was an outcome has written nothing and
shown nothing. -/
structure FailsEarly (sink : Sink) (error : RunError) (report : RunReport α) : Prop where
  result : report.result = .error error
  sink : report.sink = sink
  inspected : report.inspected = none

/-- Events of an inspector that was called on the root. -/
def inspectionEvents
    (inspector : Inspector α)
    (root : Option Tree)
    (inspected : Option α) : List Event :=
  match root, inspected with
  | some tree, some _ => (inspector tree).events
  | _, _ => []

/-- Summary of a session that dealt with an outcome.  All three counts of nodes
are those of the root. -/
structure Summarizes (settings : DumpSettings) (outcome : Outcome) (summary : Summary) :
    Prop where
  diagnostics : summary.diagnostics = outcome.diagnostics
  released : summary.released = nodeCountOf outcome.root
  dumped : summary.dumped =
    if outcome.diagnostics = [] ∧ settings.enabled = true then nodeCountOf outcome.root else 0
  statistics : summary.statistics =
    if outcome.diagnostics = [] then outcome.root.map Tree.statistics else none
  counted : ∀ statistics ∈ summary.statistics, statistics.nodes = summary.released

/-- A session with an outcome of the parser, which reported some events. -/
structure DealsWith
    (settings : DumpSettings)
    (sink : Sink)
    (inspector : Inspector α)
    (outcome : Outcome)
    (parsing : List Event)
    (report : RunReport α) : Prop where
  /-- Besides what the parser and the inspector released, the root is released
  once, whatever the result is. -/
  releasedOnce : releases report.events =
    releases parsing ++
      releases (inspectionEvents inspector outcome.root report.inspected) ++
      releaseOf outcome.root
  /-- The release comes last. -/
  releasedLast : (Tree.release outcome.root).events <:+ report.events
  /-- Counted errors suppress the dump and the inspection and are no failure. -/
  unclean : outcome.diagnostics ≠ [] →
    (∃ summary, report.result = .ok summary) ∧ report.sink = sink ∧ report.inspected = none
  /-- All that a session writes is the dump of a clean tree. -/
  dumped : outcome.diagnostics = [] →
    report.sink = (Tree.dump settings sink outcome.root).sink
  /-- A failed dump ends the session before the inspection. -/
  dumpFailed : outcome.diagnostics = [] →
    ∀ error, (Tree.dump settings sink outcome.root).result = .error error →
      report.result = .error (.tree error) ∧ report.inspected = none
  /-- Without a tree there is nothing to inspect. -/
  noTree : outcome.diagnostics = [] → outcome.root = none →
    (∃ summary, report.result = .ok summary) ∧ report.inspected = none
  /-- Behind a successful dump the inspector sees the root of a clean parse, and
  the session succeeds if and only if the inspector does. -/
  inspected : outcome.diagnostics = [] →
    ∀ visited, (Tree.dump settings sink outcome.root).result = .ok visited →
      ∀ tree, outcome.root = some tree →
        report.inspected = some (inspector tree).shown ∧
          (∀ cause, (inspector tree).result = .error cause →
            report.result = .error (.inspecting cause)) ∧
          ((inspector tree).result = .ok () → ∃ summary, report.result = .ok summary)
  summary : ∀ summary, report.result = .ok summary → Summarizes settings outcome summary

/-- The course of a session on the file at a path. -/
structure Conduct
    (parser : Parser)
    (settings : DumpSettings)
    (sink : Sink)
    (inspector : Inspector α)
    (files : FileSystem)
    (path : String)
    (report : RunReport α) : Prop where
  /-- A file that cannot be opened never reaches the parser. -/
  notOpened : ∀ cause, files path = .error cause →
    FailsEarly sink (.opening path cause) report ∧ report.parsed = none
  /-- The parser is given what the opened file delivers. -/
  opened : ∀ chunks, files path = .ok chunks → report.parsed = some chunks
  notRead : ∀ chunks cause, files path = .ok chunks →
    (parser chunks).value = .error (.unreadable cause) →
      FailsEarly sink (.reading path cause) report
  notBuilt : ∀ chunks error, files path = .ok chunks →
    (parser chunks).value = .error (.tree error) →
      FailsEarly sink (.tree error) report
  parsed : ∀ chunks outcome, files path = .ok chunks →
    (parser chunks).value = .ok outcome →
      DealsWith settings sink inspector outcome (parser chunks).events report

/-! ## Presenting an outcome -/

variable
  {settings : DumpSettings}
  {sink : Sink}
  {inspector : Inspector α}
  {outcome : Outcome}

theorem presentOutcome_of_unclean (unclean : outcome.diagnostics ≠ []) :
    presentOutcome settings sink inspector outcome =
      ⟨.ok (0, none), sink, [.dumpSkipped], none⟩ := by
  rw [presentOutcome, if_neg (by simpa [Outcome.isClean] using unclean)]

theorem presentOutcome_of_clean (clean : outcome.diagnostics = []) :
    presentOutcome settings sink inspector outcome =
      present settings sink inspector outcome.root := by
  rw [presentOutcome, if_pos (by simp [Outcome.isClean, clean])]

theorem present_of_dumpFailed
    {root : Option Tree}
    {error : TreeError}
    (failed : (Tree.dump settings sink root).result = .error error) :
    present settings sink inspector root =
      ⟨.error (.tree error), (Tree.dump settings sink root).sink,
        (Tree.dump settings sink root).events, none⟩ := by
  unfold present
  dsimp only
  rw [failed]

theorem present_of_dumped
    {tree : Tree}
    {visited : Nat}
    (dumped : (Tree.dump settings sink (some tree)).result = .ok visited) :
    present settings sink inspector (some tree) =
      ⟨match (inspector tree).result with
        | .ok () => .ok (visited, some tree.statistics)
        | .error cause => .error (.inspecting cause),
        (Tree.dump settings sink (some tree)).sink,
        (Tree.dump settings sink (some tree)).events ++
          [.treeCounted tree.statistics.nodes tree.statistics.leaves tree.statistics.depth] ++
          (inspector tree).events,
        some (inspector tree).shown⟩ := by
  unfold present
  generalize Tree.dump settings sink (some tree) = dump at dumped ⊢
  obtain ⟨dumpSink, result, events⟩ := dump
  cases dumped
  rfl

/-- A presentation releases nothing on its own. -/
theorem releases_present (root : Option Tree) :
    releases (present settings sink inspector root).events =
      releases
        (inspectionEvents inspector root (present settings sink inspector root).inspected) := by
  cases result : (Tree.dump settings sink root).result with
  | error error =>
      rw [present_of_dumpFailed result, releases_dump]
      cases root <;> rfl
  | ok visited =>
      cases root with
      | none => rfl
      | some tree =>
          rw [present_of_dumped result]
          simp only [releases_append, releases_dump, inspectionEvents]
          rfl

theorem releases_presentOutcome :
    releases (presentOutcome settings sink inspector outcome).events =
      releases (inspectionEvents inspector outcome.root
        (presentOutcome settings sink inspector outcome).inspected) := by
  by_cases clean : outcome.diagnostics = []
  · rw [presentOutcome_of_clean clean, releases_present]
  · rw [presentOutcome_of_unclean clean]
    cases outcome.root <;> rfl

/-- What a successful presentation counted. -/
theorem presentOutcome_ok
    {dumped : Nat}
    {statistics : Option Statistics}
    (result : (presentOutcome settings sink inspector outcome).result = .ok (dumped, statistics)) :
    Summarizes settings outcome
      ⟨outcome.diagnostics, dumped, (Tree.release outcome.root).value, statistics⟩ := by
  have counts :
      (dumped =
        if outcome.diagnostics = [] ∧ settings.enabled = true then nodeCountOf outcome.root
        else 0) ∧
      statistics =
        if outcome.diagnostics = [] then outcome.root.map Tree.statistics else none := by
    by_cases clean : outcome.diagnostics = []
    · rw [presentOutcome_of_clean clean] at result
      cases dumpResult : (Tree.dump settings sink outcome.root).result with
      | error error =>
          rw [present_of_dumpFailed dumpResult] at result
          cases result
      | ok visited =>
          have visitedAll := Tree.dumped_eq dumpResult
          cases isRoot : outcome.root with
          | none =>
              rw [isRoot] at result
              cases result
              simp [nodeCountOf]
          | some tree =>
              rw [isRoot] at result dumpResult visitedAll
              rw [present_of_dumped dumpResult] at result
              dsimp only at result
              split at result
              · cases result
                simpa [clean, nodeCountOf] using visitedAll
              · cases result
    · rw [presentOutcome_of_unclean clean] at result
      cases result
      simp [clean]
  refine ⟨rfl, Tree.value_release outcome.root, counts.1, counts.2, ?_⟩
  intro found member
  rw [Option.mem_def, counts.2] at member
  split at member
  · obtain ⟨tree, isRoot, rfl⟩ := Option.map_eq_some_iff.mp member
    rw [Tree.nodes_statistics, Tree.value_release, isRoot, Option.map_some, Option.getD_some]
  · cases member

/-! ## Running a session -/

/-- Result of a session with an outcome that was presented. -/
def conclude (outcome : Outcome) :
    Except RunError (Nat × Option Statistics) → Except RunError Summary
  | .error error => .error error
  | .ok (dumped, statistics) =>
    .ok ⟨outcome.diagnostics, dumped, (Tree.release outcome.root).value, statistics⟩

variable
  {parser : Parser}
  {files : FileSystem}
  {path : String}
  {chunks : List Chunk}

/-- A session with an outcome presents it and releases the root, whatever came
of the presentation. -/
theorem run_of_parsed
    (opened : files path = .ok chunks)
    (parsed : (parser chunks).value = .ok outcome) :
    run parser settings sink inspector files path =
      ⟨conclude outcome (presentOutcome settings sink inspector outcome).result,
        (presentOutcome settings sink inspector outcome).sink,
        (parser chunks).events ++ [.parseFinished path outcome.errorCount] ++
          (presentOutcome settings sink inspector outcome).events ++
          (Tree.release outcome.root).events,
        some chunks, (presentOutcome settings sink inspector outcome).inspected⟩ := by
  have logged : parser chunks = ⟨.ok outcome, (parser chunks).events⟩ := by rw [← parsed]
  unfold run
  rw [opened]
  dsimp only
  rw [logged]
  rfl

/-- Failure of a session that the parser stopped. -/
def failureOf (path : String) : ParseFailure → RunError
  | .unreadable cause => .reading path cause
  | .tree error => .tree error

theorem run_of_failure
    {failure : ParseFailure}
    (opened : files path = .ok chunks)
    (failed : (parser chunks).value = .error failure) :
    run parser settings sink inspector files path =
      ⟨.error (failureOf path failure), sink, (parser chunks).events, some chunks, none⟩ := by
  have logged : parser chunks = ⟨.error failure, (parser chunks).events⟩ := by rw [← failed]
  unfold run
  rw [opened]
  dsimp only
  rw [logged]
  cases failure <;> rfl

theorem dealsWith_of_parsed
    (opened : files path = .ok chunks)
    (parsed : (parser chunks).value = .ok outcome) :
    DealsWith settings sink inspector outcome (parser chunks).events
      (run parser settings sink inspector files path) := by
  rw [run_of_parsed opened parsed]
  constructor
  case releasedOnce =>
    simp only [releases_append, releases_presentOutcome, releases_release]
    simp [releases, released?]
  case releasedLast =>
    exact List.suffix_append _ _
  case unclean =>
    intro unclean
    rw [presentOutcome_of_unclean unclean]
    exact ⟨⟨_, rfl⟩, rfl, rfl⟩
  case dumped =>
    intro clean
    dsimp only
    rw [presentOutcome_of_clean clean]
    cases result : (Tree.dump settings sink outcome.root).result with
    | error error => rw [present_of_dumpFailed result]
    | ok visited =>
        cases isRoot : outcome.root with
        | none => rfl
        | some tree =>
            rw [isRoot] at result
            rw [present_of_dumped result]
  case dumpFailed =>
    intro clean error failed
    rw [presentOutcome_of_clean clean, present_of_dumpFailed failed]
    exact ⟨rfl, rfl⟩
  case noTree =>
    intro clean noTree
    rw [presentOutcome_of_clean clean, noTree]
    exact ⟨⟨_, rfl⟩, rfl⟩
  case inspected =>
    intro clean visited dumped tree isRoot
    rw [isRoot] at dumped
    rw [presentOutcome_of_clean clean, isRoot, present_of_dumped dumped]
    refine ⟨rfl, ?_, ?_⟩
    · intro cause failed
      simp only [failed, conclude]
    · intro succeeded
      simp only [succeeded, conclude]
      exact ⟨_, rfl⟩
  case summary =>
    intro summary result
    dsimp only [conclude] at result
    split at result
    · cases result
    · rename_i presented
      cases result
      exact presentOutcome_ok presented

/-- A session opens its file, parses it and presents a clean tree, and each of
these has to succeed before the next.  Whatever tree was parsed is released
exactly once. -/
theorem run_conduct
    (parser : Parser)
    (settings : DumpSettings)
    (sink : Sink)
    (inspector : Inspector α)
    (files : FileSystem)
    (path : String) :
    Conduct parser settings sink inspector files path
      (run parser settings sink inspector files path) := by
  constructor
  case notOpened =>
    intro cause notOpened
    unfold run
    rw [notOpened]
    exact ⟨⟨rfl, rfl, rfl⟩, rfl⟩
  case opened =>
    intro chunks opened
    cases parsed : (parser chunks).value with
    | error failure => rw [run_of_failure opened parsed]
    | ok outcome => rw [run_of_parsed opened parsed]
  case notRead =>
    intro chunks cause opened failed
    rw [run_of_failure opened failed]
    exact ⟨rfl, rfl, rfl⟩
  case notBuilt =>
    intro chunks error opened failed
    rw [run_of_failure opened failed]
    exact ⟨rfl, rfl, rfl⟩
  case parsed =>
    intro chunks outcome opened parsed
    exact dealsWith_of_parsed opened parsed

/-- A sink that is full after three octets fails the dump, and the tree is
released all the same. -/
theorem run_conduct_fullSink :
    let tree : Tree := .leaf ⟨"Exp", .nonTerminal, 1, .unset⟩
    let parser : Parser := fun _ => ⟨.ok ⟨some tree, []⟩, []⟩
    let inspector : Inspector Nat := fun tree => { shown := tree.nodeCount, result := .ok () }
    let report := run parser ⟨true, false⟩ { limit := some 3 } inspector (fun _ => .ok []) "a.cmm"
    report.result = .error (.tree (.write .full)) ∧ report.inspected = none ∧
      releases report.events = [("Exp", 1)] := by
  intro tree parser inspector report
  have conduct := run_conduct parser ⟨true, false⟩ { limit := some 3 } inspector
    (fun _ => .ok []) "a.cmm"
  have deals := conduct.parsed [] ⟨some tree, []⟩ rfl rfl
  have walk : tree.preorder = [⟨0, tree⟩] := by
    rw [Tree.preorder, Visit.ofAgenda_singleton]
    rfl
  have full : (Tree.dump ⟨true, false⟩ { limit := some 3 } (some tree)).result =
      .error (.write .full) := by
    rw [Tree.dump, walk]
    rfl
  obtain ⟨result, notInspected⟩ := deals.dumpFailed rfl _ full
  have once := deals.releasedOnce
  rw [notInspected] at once
  exact ⟨result, notInspected, once⟩

end Session
end SyntaxTree
