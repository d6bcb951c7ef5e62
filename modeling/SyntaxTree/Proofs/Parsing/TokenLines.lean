import Mathlib.Data.List.SplitBy
import SyntaxTree.Proofs.Scan.Partition
import SyntaxTree.Proofs.Tree.Preorder

/-!
# Trees of token lines

The tree of a source text is an image of its tokens.  Positions never run
backwards along a scan, so the runs of tokens on one line are the lines that
hold tokens, in increasing order, and no token is lost or moved between them.
-/

namespace SyntaxTree
namespace TokenLines

open Source

/-! ## Leaves -/

/-- Kind of the leaf of a token. -/
def leafKind : Token → Kind
  | .integer _ => .integer
  | .real _ => .real
  | .identifier _ => .identifier
  | .typeName _ => .typeName
  | _ => .token

/-- Payload of the leaf of a token. -/
def leafPayload : Token → Payload
  | .integer value => .integer value
  | .real value => .real value
  | .identifier name => .text name
  | .typeName type => .text type.spelling
  | _ => .unset

/-- A leaf has the label and the line of its token, and the kind and payload
that belong to it. -/
theorem leaf_eq (token : Located Token) :
    leaf token =
      .node ⟨token.value.label, leafKind token.value, token.position.line,
        leafPayload token.value⟩ [] := by
  obtain ⟨value, position⟩ := token
  cases value <;> rfl

@[simp] theorem nodeCount_leaf (token : Located Token) : (leaf token).nodeCount = 1 := by
  simp [leaf_eq]

/-! ## Runs of tokens on one line -/

/-- A run of tokens that stand on the line of the first of them. -/
structure IsLine (group : List (Located Token)) : Prop where
  nonempty : group ≠ []
  line : ∀ token ∈ group, token.position.line = lineOf group

theorem isLine_of_mem_groups
    {tokens group : List (Located Token)}
    (member : group ∈ groups tokens) :
    IsLine group := by
  have nonempty : group ≠ [] := List.ne_nil_of_mem_splitBy member
  have chain : group.IsChain fun left right => left.position.line = right.position.line := by
    simpa [sameLine] using List.isChain_of_mem_splitBy member
  refine ⟨nonempty, ?_⟩
  cases group with
  | nil => contradiction
  | cons first group =>
      have equal := (List.pairwise_cons.mp (List.isChain_iff_pairwise.mp chain)).1
      intro token tokenMember
      rcases List.mem_cons.mp tokenMember with rfl | later
      · rfl
      · exact (equal token later).symm

/-- The line of a run is that of any token in it, and stays below that of a run
behind it whose first token stands on another line. -/
theorem lineOf_lt_lineOf
    {left right : List (Located Token)}
    (leftLine : IsLine left)
    (rightLine : IsLine right)
    (ordered : ∀ earlier ∈ left, ∀ later ∈ right, earlier.position.line ≤ later.position.line)
    (apart : sameLine (left.getLast leftLine.nonempty) (right.head rightLine.nonempty) = false) :
    lineOf left < lineOf right := by
  have last := List.getLast_mem leftLine.nonempty
  have head := List.head_mem rightLine.nonempty
  have le := ordered _ last _ head
  rw [sameLine, beq_eq_false_iff_ne] at apart
  rw [← leftLine.line _ last, ← rightLine.line _ head]
  omega

/-- Lines of runs increase if those of their tokens never decrease. -/
theorem pairwise_lineOf_groups
    {tokens : List (Located Token)}
    (ordered : tokens.Pairwise fun left right => left.position.line ≤ right.position.line) :
    ((groups tokens).map lineOf).Pairwise (· < ·) := by
  have isLine : ∀ group ∈ groups tokens, IsLine group := fun _ => isLine_of_mem_groups
  have apart := List.isChain_getLast_head_splitBy sameLine tokens
  have flat : (groups tokens).flatten = tokens := List.flatten_splitBy sameLine tokens
  rw [← flat, List.pairwise_flatten] at ordered
  have acrossGroups := ordered.2
  rw [← List.isChain_iff_pairwise, List.isChain_map]
  change (groups tokens).IsChain _ at apart
  -- Neighbouring runs stand on different lines; the order of the tokens says which is smaller.
  generalize groups tokens = lines at isLine apart acrossGroups
  induction lines with
  | nil => exact .nil
  | cons group lines inductionHypothesis =>
      have later : lines.IsChain fun left right => lineOf left < lineOf right :=
        inductionHypothesis (fun other member => isLine other (List.mem_cons_of_mem _ member))
          apart.tail acrossGroups.tail
      refine later.cons ?_
      intro next member
      obtain ⟨_, _, different⟩ := apart.rel_head? member
      have nextMember := List.mem_of_mem_head? member
      exact lineOf_lt_lineOf (isLine group List.mem_cons_self)
        (isLine next (List.mem_cons_of_mem _ nextMember))
        ((List.pairwise_cons.mp acrossGroups).1 next nextMember) different

/-- Lines of tokens never decrease along a scan. -/
theorem pairwise_line_tokens (position : Position) (text : List Char) :
    (tokens (Segment.scanFrom position text)).Pairwise
      fun left right => left.position.line ≤ right.position.line := by
  refine (Segment.pairwise_before_scanFrom position text).filterMap _ ?_
  intro left right before leftToken leftFound rightToken rightFound
  rw [Located.position_eq_of_filterMap leftFound, Located.position_eq_of_filterMap rightFound]
  exact before.line_le

/-! ## The tree -/

/-- Subtree of the tokens of one line. -/
theorem lineTree_value (group : List (Located Token)) :
    (lineTree group).value =
      .node ⟨"TokenLine", .nonTerminal, lineOf group, .unset⟩ (group.map leaf) :=
  rfl

theorem tree_value_nil : (tree []).value = .node ⟨"Program", .epsilon, 1, .unset⟩ [] :=
  rfl

theorem tree_value_cons (first : Located Token) (tokens : List (Located Token)) :
    (tree (first :: tokens)).value =
      .node ⟨"Program", .nonTerminal, first.position.line, .unset⟩
        ((groups (first :: tokens)).map fun group => (lineTree group).value) := by
  simp only [tree, List.isEmpty_cons, Bool.false_eq_true, if_false, Tree.appendAll, List.map_map]
  rfl

/-- Below the root stand the subtrees of the lines, also if there are none. -/
theorem children_tree (tokens : List (Located Token)) :
    (tree tokens).value.children = (groups tokens).map fun group => (lineTree group).value := by
  cases tokens with
  | nil => rfl
  | cons first tokens => rw [tree_value_cons, Tree.children_node]

theorem forestCount_leaves (group : List (Located Token)) :
    Tree.forestCount (group.map leaf) = group.length := by
  induction group with
  | nil => simp
  | cons token group inductionHypothesis =>
      rw [List.map_cons, Tree.forestCount_cons, nodeCount_leaf, inductionHypothesis,
        List.length_cons, Nat.add_comm]

/-- The subtrees of lines have one node for each line and one for each token. -/
theorem forestCount_lines (lines : List (List (Located Token))) :
    Tree.forestCount (lines.map fun group => (lineTree group).value) =
      lines.length + lines.flatten.length := by
  induction lines with
  | nil => simp
  | cons group lines inductionHypothesis =>
      rw [List.map_cons, Tree.forestCount_cons, inductionHypothesis, lineTree_value,
        Tree.nodeCount_node, forestCount_leaves, List.flatten_cons, List.length_append,
        List.length_cons]
      omega

theorem flatten_groups (tokens : List (Located Token)) : (groups tokens).flatten = tokens :=
  List.flatten_splitBy sameLine tokens

/-- Each subtree below the root is a line with at least one token, and all its
leaves stand on that line. -/
theorem tokenLine_of_mem_children
    {tokens : List (Located Token)}
    {line : Tree}
    (member : line ∈ (tree tokens).value.children) :
    line.symbol = ⟨"TokenLine", .nonTerminal, line.symbol.line, .unset⟩ ∧
      line.children ≠ [] ∧
      ∀ leaf ∈ line.children, leaf.symbol.line = line.symbol.line := by
  rw [children_tree] at member
  obtain ⟨group, groupMember, rfl⟩ := List.mem_map.mp member
  have isLine := isLine_of_mem_groups groupMember
  rw [lineTree_value]
  refine ⟨rfl, by simpa using isLine.nonempty, ?_⟩
  intro leafTree leafMember
  obtain ⟨token, tokenMember, rfl⟩ := List.mem_map.mp leafMember
  rw [leaf_eq]
  exact isLine.line token tokenMember

/-- The lines below the root are those that hold a token. -/
theorem mem_lines_tree (tokens : List (Located Token)) (number : Nat) :
    number ∈ (tree tokens).value.children.map (·.symbol.line) ↔
      ∃ token ∈ tokens, token.position.line = number := by
  rw [children_tree, List.map_map]
  constructor
  · intro member
    obtain ⟨group, groupMember, rfl⟩ := List.mem_map.mp member
    have isLine := isLine_of_mem_groups groupMember
    obtain ⟨token, tokenMember⟩ := List.exists_mem_of_ne_nil group isLine.nonempty
    refine ⟨token, ?_, isLine.line token tokenMember⟩
    rw [← flatten_groups tokens]
    exact List.mem_flatten.mpr ⟨group, groupMember, tokenMember⟩
  · rintro ⟨token, member, rfl⟩
    rw [← flatten_groups tokens, List.mem_flatten] at member
    obtain ⟨group, groupMember, tokenMember⟩ := member
    have isLine := isLine_of_mem_groups groupMember
    exact List.mem_map.mpr ⟨group, groupMember, (isLine.line token tokenMember).symm⟩

/-- Together the lines hold the leaves of all tokens in their order. -/
theorem leaves_tree (tokens : List (Located Token)) :
    (tree tokens).value.children.flatMap (·.children) = tokens.map leaf := by
  calc
    (tree tokens).value.children.flatMap (·.children)
        = (groups tokens).flatMap (·.map leaf) := by
      rw [children_tree, List.flatMap_map]
      rfl
    _ = (groups tokens).flatten.map leaf := by
      rw [List.map_flatten, List.flatMap_def]
    _ = tokens.map leaf := by rw [flatten_groups]

theorem nodeCount_tree (tokens : List (Located Token)) :
    (tree tokens).value.nodeCount =
      1 + (tree tokens).value.children.length + tokens.length := by
  rw [Tree.nodeCount_eq, children_tree, forestCount_lines, flatten_groups, List.length_map]
  omega

/-- The tree of a source is a faithful image of its tokens: one subtree for each
line that holds tokens, in increasing order of the lines, and below it one leaf
for each token of that line. -/
theorem parseSource_tree (source : String) :
    let tokens := tokens (Segment.scan source.toList)
    ∃ root, (parseSource source).value.root = some root ∧
      (tokens = [] → root = .node ⟨"Program", .epsilon, 1, .unset⟩ []) ∧
      (∀ first ∈ tokens.head?,
        root.symbol = ⟨"Program", .nonTerminal, first.position.line, .unset⟩) ∧
      (∀ line ∈ root.children,
        line.symbol = ⟨"TokenLine", .nonTerminal, line.symbol.line, .unset⟩ ∧
          line.children ≠ [] ∧
          ∀ leaf ∈ line.children, leaf.symbol.line = line.symbol.line) ∧
      (root.children.map (·.symbol.line)).Pairwise (· < ·) ∧
      (∀ number, number ∈ root.children.map (·.symbol.line) ↔
        ∃ token ∈ tokens, token.position.line = number) ∧
      root.children.flatMap (·.children) =
        tokens.map (fun token => .node ⟨token.value.label, leafKind token.value,
          token.position.line, leafPayload token.value⟩ []) ∧
      root.size = 1 + root.children.length + tokens.length := by
  intro tokens
  refine ⟨(tree tokens).value, rfl, ?_, ?_, ?_, ?_, ?_, ?_, ?_⟩
  · intro noTokens
    rw [noTokens, tree_value_nil]
  · intro first head
    obtain ⟨others, equal⟩ := List.head?_eq_some_iff.mp head
    rw [equal, tree_value_cons, Tree.symbol_node]
  · intro line
    exact tokenLine_of_mem_children
  · rw [children_tree, List.map_map]
    exact pairwise_lineOf_groups (pairwise_line_tokens .start source.toList)
  · exact mem_lines_tree tokens
  · rw [leaves_tree, funext leaf_eq]
  · rw [Tree.size_eq_nodeCount, nodeCount_tree]

/-- A comment alone gives the empty symbol, and one over several lines leaves a
gap between the lines of tokens. -/
theorem parseSource_tree_comments :
    (∃ root, (parseSource "// none").value.root = some root ∧
        root = .node ⟨"Program", .epsilon, 1, .unset⟩ []) ∧
      ∃ root, (parseSource "\na\n/*\n*/b 1").value.root = some root ∧
        root.symbol = ⟨"Program", .nonTerminal, 2, .unset⟩ ∧
        root.children.map (·.symbol.line) = [2, 4] := by
  constructor
  · obtain ⟨root, isRoot, empty, -⟩ := parseSource_tree "// none"
    exact ⟨root, isRoot, empty (by decide +kernel)⟩
  · obtain ⟨root, isRoot, -, nonempty, -⟩ := parseSource_tree "\na\n/*\n*/b 1"
    refine ⟨root, isRoot, nonempty ⟨.identifier "a", ⟨2, 1⟩⟩ (by decide +kernel), ?_⟩
    cases isRoot
    decide +kernel

end TokenLines
end SyntaxTree
