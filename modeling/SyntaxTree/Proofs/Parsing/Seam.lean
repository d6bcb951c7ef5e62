import SyntaxTree.Proofs.Parsing.Diagnostic
import SyntaxTree.Proofs.Parsing.TokenLines
import SyntaxTree.Proofs.Scan.Seam
import SyntaxTree.Proofs.Source.Decoding

/-!
# Parsing across a newline

Octets on both sides of a newline are parsed like two sources of their own.
The lines and diagnostics of the lower source follow those of the upper one,
further down by as many lines as the upper one has.
-/

namespace SyntaxTree

open Source

/-! ## Trees further down -/

/-- The same symbol some lines further down. -/
def Symbol.down (lines : Nat) (symbol : Symbol) : Symbol :=
  { symbol with line := symbol.line + lines }

namespace Tree

mutual

/-- The same tree some lines further down. -/
def down (lines : Nat) : Tree → Tree
  | .node symbol children => .node (symbol.down lines) (downAll lines children)

/-- The same trees some lines further down. -/
def downAll (lines : Nat) : List Tree → List Tree
  | [] => []
  | tree :: forest => down lines tree :: downAll lines forest

end

theorem downAll_eq_map (lines : Nat) (forest : List Tree) :
    downAll lines forest = forest.map (down lines) := by
  induction forest with
  | nil => rw [downAll, List.map_nil]
  | cons tree forest inductionHypothesis => rw [downAll, inductionHypothesis, List.map_cons]

@[simp] theorem down_node (lines : Nat) (symbol : Symbol) (children : List Tree) :
    (node symbol children).down lines = .node (symbol.down lines) (children.map (down lines)) := by
  rw [down, downAll_eq_map]

end Tree

namespace TokenLines

/-! ## Lines further down -/

theorem leaf_down (lines : Nat) (token : Located Token) :
    leaf (token.down lines) = (leaf token).down lines := by
  rw [leaf_eq, leaf_eq, Tree.down_node, List.map_nil]
  rfl

theorem lineOf_map_down
    {group : List (Located Token)}
    (nonempty : group ≠ [])
    (lines : Nat) :
    lineOf (group.map (Located.down lines)) = lineOf group + lines := by
  cases group with
  | nil => contradiction
  | cons first group => rfl

theorem lineTree_map_down
    {group : List (Located Token)}
    (nonempty : group ≠ [])
    (lines : Nat) :
    (lineTree (group.map (Located.down lines))).value = (lineTree group).value.down lines := by
  rw [lineTree_value, lineTree_value, lineOf_map_down nonempty, Tree.down_node, List.map_map,
    List.map_map]
  congr 1
  apply List.map_congr_left
  intro token _
  exact leaf_down lines token

/-- Runs of tokens stay the same further down. -/
theorem groups_map_down (lines : Nat) (tokens : List (Located Token)) :
    groups (tokens.map (Located.down lines)) =
      (groups tokens).map (·.map (Located.down lines)) := by
  have sameLine_down : ∀ left right : Located Token,
      sameLine (left.down lines) (right.down lines) = sameLine left right := by
    intro left right
    simp [sameLine]
  obtain ⟨flat, noneEmpty, chains, apart⟩ := List.splitBy_eq_iff.mp (rfl : groups tokens = _)
  apply List.splitBy_eq_iff.mpr
  refine ⟨?_, ?_, ?_, ?_⟩
  · rw [← List.map_flatten, flatten_groups]
  · simpa using noneEmpty
  · intro group member
    obtain ⟨above, aboveMember, rfl⟩ := List.mem_map.mp member
    rw [List.isChain_map]
    simpa only [sameLine_down] using chains above aboveMember
  · rw [List.isChain_map]
    refine apart.imp ?_
    rintro left right ⟨leftNonempty, rightNonempty, different⟩
    refine ⟨by simpa using leftNonempty, by simpa using rightNonempty, ?_⟩
    rw [List.getLast_map, List.head_map, sameLine_down]
    exact different

/-- Lines of upper and lower tokens stand side by side below the root. -/
theorem children_tree_append
    {upper lower : List (Located Token)}
    {lines : Nat}
    (upperLines : ∀ token ∈ upper, token.position.line ≤ lines)
    (lowerLines : ∀ token ∈ lower, 1 ≤ token.position.line) :
    (tree (upper ++ lower.map (Located.down lines))).value.children =
      (tree upper).value.children ++ (tree lower).value.children.map (Tree.down lines) := by
  have split : groups (upper ++ lower.map (Located.down lines)) =
      groups upper ++ groups (lower.map (Located.down lines)) := by
    apply List.splitBy_append
    intro last lastMember first firstMember
    have above := upperLines last (List.mem_of_mem_getLast? lastMember)
    obtain ⟨token, member, rfl⟩ := List.mem_map.mp (List.mem_of_mem_head? firstMember)
    have below := lowerLines token member
    rw [sameLine, beq_eq_false_iff_ne, Located.position_down, Position.line_down]
    omega
  rw [children_tree, children_tree, children_tree, split, groups_map_down, List.map_append,
    List.map_map, List.map_map]
  congr 1
  apply List.map_congr_left
  intro group member
  exact lineTree_map_down (isLine_of_mem_groups member).nonempty lines

/-- The root is the empty symbol if and only if no lines stand below it. -/
theorem kind_tree_eq_epsilon_iff (tokens : List (Located Token)) :
    (tree tokens).value.symbol.kind = .epsilon ↔ (tree tokens).value.children = [] := by
  cases tokens with
  | nil => simp [tree_value_nil]
  | cons first tokens => simp [tree_value_cons, groups]

/-! ## Octets -/

/-- Segments of decoded octets. -/
def segments (octets : List UInt8) : List (Located Segment) :=
  Segment.scan (decode octets).characters.toList

/-- Diagnostic of octets that are not well formed. -/
def illFormedDiagnostic (illFormed : IllFormed) : Diagnostic :=
  ⟨.lexical, illFormed.line, illFormed.message⟩

/-- Diagnostics made while octets are decoded. -/
def decodingDiagnostics (octets : List UInt8) : List Diagnostic :=
  (decode octets).illFormed.toList.map illFormedDiagnostic

/-- Diagnostics made while decoded octets are scanned. -/
def scanningDiagnostics (octets : List UInt8) : List Diagnostic :=
  (errors (segments octets)).map diagnostic

theorem parseOctets_value (octets : List UInt8) :
    (parseOctets octets).value =
      ⟨some (tree (tokens (segments octets))).value,
        Diagnostic.sortByLine (decodingDiagnostics octets ++ scanningDiagnostics octets)⟩ :=
  rfl

/-- What a scan finds in octets stands on one of their lines. -/
theorem line_of_mem_found
    {choose : Reading → Option β}
    {octets : List UInt8}
    {located : Located β}
    (member : located ∈ Segment.found choose (segments octets)) :
    1 ≤ located.position.line ∧ located.position.line ≤ 1 + octets.count 0x0a := by
  rw [← count_newline_decode]
  exact Segment.line_of_mem_found member

/-- Diagnostics of octets stand on their lines. -/
theorem line_of_mem_diagnostics
    {octets : List UInt8}
    {found : Diagnostic}
    (member : found ∈ decodingDiagnostics octets ++ scanningDiagnostics octets) :
    1 ≤ found.line ∧ found.line ≤ 1 + octets.count 0x0a := by
  rcases List.mem_append.mp member with decoding | scanning
  · obtain ⟨report, reportMember, rfl⟩ := List.mem_map.mp decoding
    exact line_of_mem_illFormed (Array.mem_toList_iff.mp reportMember)
  · obtain ⟨error, errorMember, rfl⟩ := List.mem_map.mp scanning
    exact line_of_mem_found errorMember

theorem decodingDiagnostics_append_newline (upper lower : List UInt8) :
    decodingDiagnostics (upper ++ 0x0a :: lower) =
      decodingDiagnostics upper ++
        (decodingDiagnostics lower).map (Diagnostic.down (1 + upper.count 0x0a)) := by
  unfold decodingDiagnostics
  rw [illFormed_decode_append_newline, List.map_append, List.map_map, List.map_map]
  rfl

/-- What a scan finds on both sides of a newline octet is found in both parts. -/
theorem found_segments_append_newline
    {upper : List UInt8}
    (closed : Segment.Closed (decode upper).characters.toList)
    {choose : Reading → Option β}
    (ignored : choose .trivia = none)
    (lower : List UInt8) :
    Segment.found choose (segments (upper ++ 0x0a :: lower)) =
      Segment.found choose (segments upper) ++
        (Segment.found choose (segments lower)).map (Located.down (1 + upper.count 0x0a)) := by
  unfold segments
  rw [characters_decode_append_newline, Segment.found_scan_append_newline ignored closed,
    count_newline_decode]

theorem scanningDiagnostics_append_newline
    {upper : List UInt8}
    (closed : Segment.Closed (decode upper).characters.toList)
    (lower : List UInt8) :
    scanningDiagnostics (upper ++ 0x0a :: lower) =
      scanningDiagnostics upper ++
        (scanningDiagnostics lower).map (Diagnostic.down (1 + upper.count 0x0a)) := by
  have errorsApart :
      errors (segments (upper ++ 0x0a :: lower)) =
        errors (segments upper) ++
          (errors (segments lower)).map (Located.down (1 + upper.count 0x0a)) :=
    found_segments_append_newline closed rfl lower
  unfold scanningDiagnostics
  rw [errorsApart, List.map_append, List.map_map, List.map_map]
  rfl

/-- The lines of tokens on both sides of a newline stand side by side. -/
theorem children_tree_append_newline
    {upper : List UInt8}
    (closed : Segment.Closed (decode upper).characters.toList)
    (lower : List UInt8) :
    (tree (tokens (segments (upper ++ 0x0a :: lower)))).value.children =
      (tree (tokens (segments upper))).value.children ++
        (tree (tokens (segments lower))).value.children.map
          (Tree.down (1 + upper.count 0x0a)) := by
  have tokensApart :
      tokens (segments (upper ++ 0x0a :: lower)) =
        tokens (segments upper) ++
          (tokens (segments lower)).map (Located.down (1 + upper.count 0x0a)) :=
    found_segments_append_newline closed rfl lower
  rw [tokensApart]
  apply children_tree_append
  · intro token member
    exact (line_of_mem_found member).2
  · intro token member
    exact (line_of_mem_found member).1

/-- The diagnostics of both sides of a newline are sorted apart. -/
theorem sortByLine_append_newline
    {upper : List UInt8}
    (closed : Segment.Closed (decode upper).characters.toList)
    (lower : List UInt8) :
    Diagnostic.sortByLine (decodingDiagnostics (upper ++ 0x0a :: lower) ++
        scanningDiagnostics (upper ++ 0x0a :: lower)) =
      Diagnostic.sortByLine (decodingDiagnostics upper ++ scanningDiagnostics upper) ++
        (Diagnostic.sortByLine (decodingDiagnostics lower ++ scanningDiagnostics lower)).map
          (Diagnostic.down (1 + upper.count 0x0a)) := by
  rw [decodingDiagnostics_append_newline, scanningDiagnostics_append_newline closed,
    ← Diagnostic.sortByLine_map_down, List.map_append]
  apply Diagnostic.sortByLine_interleaved (1 + upper.count 0x0a)
  · intro found member
    exact (line_of_mem_diagnostics member).2
  · rw [← List.map_append]
    intro found member
    obtain ⟨inLower, lowerMember, rfl⟩ := List.mem_map.mp member
    have positive := (line_of_mem_diagnostics lowerMember).1
    rw [Diagnostic.line_down]
    omega

/-- Octets on both sides of a newline are parsed apart if no block comment is
left open before it: lines and diagnostics of the lower octets follow those of
the upper ones, further down. -/
theorem parseOctets_append_newline
    {upper : List UInt8}
    (noneOpen : ∀ error ∈ errors (Segment.scan (decode upper).characters.toList),
      error.value ≠ .unterminatedComment)
    (lower : List UInt8) :
    let lines := 1 + upper.count 0x0a
    let whole := (parseOctets (upper ++ [0x0a] ++ lower)).value
    ∃ wholeRoot upperRoot lowerRoot,
      whole.root = some wholeRoot ∧
      (parseOctets upper).value.root = some upperRoot ∧
      (parseOctets lower).value.root = some lowerRoot ∧
      wholeRoot.children = upperRoot.children ++ lowerRoot.children.map (Tree.down lines) ∧
      (wholeRoot.symbol.kind = .epsilon ↔ upperRoot.children = [] ∧ lowerRoot.children = []) ∧
      whole.diagnostics = (parseOctets upper).value.diagnostics ++
        (parseOctets lower).value.diagnostics.map (Diagnostic.down lines) := by
  intro lines whole
  have closed := Segment.closed_of_errors noneOpen
  have children := children_tree_append_newline closed lower
  have joined : upper ++ [0x0a] ++ lower = upper ++ 0x0a :: lower := by simp
  refine ⟨(tree (tokens (segments (upper ++ [0x0a] ++ lower)))).value,
    (tree (tokens (segments upper))).value, (tree (tokens (segments lower))).value,
    rfl, rfl, rfl, ?_, ?_, ?_⟩
  · rw [joined]
    exact children
  · rw [joined, kind_tree_eq_epsilon_iff, children, List.append_eq_nil_iff, List.map_eq_nil_iff]
  · dsimp only [whole]
    rw [joined, parseOctets_value, parseOctets_value, parseOctets_value]
    exact sortByLine_append_newline closed lower

/-- The newline keeps octets apart that would be one character without it. -/
theorem parseOctets_append_newline_brokenOff :
    (∀ error ∈ errors (Segment.scan (decode [0x61, 0x26, 0xe2, 0x82]).characters.toList),
        error.value ≠ .unterminatedComment) ∧
      ∃ root, (parseOctets ([0x61, 0x26, 0xe2, 0x82] ++ [0x0a] ++ [0xac, 0x62])).value.root =
          some root ∧
        root.children.map (·.symbol.line) = [1, 2] := by
  have noneOpen :
      ∀ error ∈ errors (Segment.scan (decode [0x61, 0x26, 0xe2, 0x82]).characters.toList),
        error.value ≠ .unterminatedComment := by
    decide +kernel
  obtain ⟨root, upperRoot, lowerRoot, isRoot, isUpper, isLower, children, -, -⟩ :=
    parseOctets_append_newline noneOpen [0xac, 0x62]
  refine ⟨noneOpen, root, isRoot, ?_⟩
  rw [children]
  cases isUpper
  cases isLower
  decide +kernel

end TokenLines
end SyntaxTree
