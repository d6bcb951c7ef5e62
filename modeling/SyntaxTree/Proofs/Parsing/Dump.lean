import Mathlib
import SyntaxTree.Proofs.Parsing.Seam
import SyntaxTree.Proofs.Scan.Spelling
import SyntaxTree.Proofs.Text.Separated
import SyntaxTree.Proofs.Tree.Dump

/-!
# Dumps of token lines

A dump leaves out the lines and kinds of leaves, quotes nothing and may hide an
empty root.  For trees of token lines nothing is lost by that: a label belongs
to one kind, no name or value contains a newline, leaves are indented deeper
than the lines that they stand on and have the same number.
-/

namespace SyntaxTree

open Number Source Text

/-! ## Trees that look alike -/

/-- Payloads that agree, floating-point values as far as they are shown. -/
inductive Payload.Alike : Payload → Payload → Prop
  | same (payload : Payload) : Alike payload payload
  | shown {left right : Binary32} (equal : left.fixed 6 = right.fixed 6) :
      Alike (.real left) (.real right)

/-- Symbols that agree, floating-point payloads as far as they are shown. -/
structure Symbol.Alike (left right : Symbol) : Prop where
  name : left.name = right.name
  kind : left.kind = right.kind
  line : left.line = right.line
  payload : left.payload.Alike right.payload

/-- Trees of one shape with symbols that agree, floating-point payloads as far
as they are shown. -/
inductive Tree.Alike : Tree → Tree → Prop
  | node
      {leftSymbol rightSymbol : Symbol}
      {leftChildren rightChildren : List Tree}
      (symbols : leftSymbol.Alike rightSymbol)
      (children : List.Forall₂ Tree.Alike leftChildren rightChildren) :
      Tree.Alike (.node leftSymbol leftChildren) (.node rightSymbol rightChildren)

theorem Symbol.alike_refl (symbol : Symbol) : symbol.Alike symbol :=
  ⟨rfl, rfl, rfl, .same symbol.payload⟩

namespace TokenLines

/-! ## The walk over a tree of token lines -/

/-- Visits of a line of tokens and of its leaves. -/
def groupVisits (group : List (Located Token)) : List Visit :=
  ⟨1, (lineTree group).value⟩ :: group.map fun token => ⟨2, leaf token⟩

theorem ofAgenda_leaf (depth : Nat) (token : Located Token) :
    Visit.ofAgenda [⟨depth, leaf token⟩] = [⟨depth, leaf token⟩] := by
  rw [Visit.ofAgenda_singleton, leaf_eq]
  rfl

theorem ofAgenda_lineTree (group : List (Located Token)) :
    Visit.ofAgenda [⟨1, (lineTree group).value⟩] = groupVisits group := by
  rw [Visit.ofAgenda_singleton, groupVisits, Visit.below, lineTree_value, Tree.children_node,
    List.map_map, List.flatMap_map]
  simp only [Function.comp_apply, ofAgenda_leaf]
  rw [← List.map_eq_flatMap]

/-- A walk meets the root and then, line by line, each line and its leaves. -/
theorem preorder_tree (tokens : List (Located Token)) :
    (tree tokens).value.preorder =
      ⟨0, (tree tokens).value⟩ :: (groups tokens).flatMap groupVisits := by
  rw [Tree.preorder, Visit.ofAgenda_singleton, Visit.below, children_tree, List.map_map,
    List.flatMap_map]
  simp only [Function.comp_apply, Nat.zero_add, ofAgenda_lineTree]

/-! ## Lines of a dump -/

/-- Text behind the label of a leaf. -/
def leafValue (token : Token) : String :=
  if (leafKind token).carriesValue then ": " ++ (leafPayload token).shown else ""

/-- Line of a leaf. -/
def leafLine (token : Token) : String :=
  Symbol.indentation 2 ++ (token.label ++ leafValue token)

/-- Line above the leaves of a line of tokens. -/
def groupLine (line : Nat) : String :=
  Symbol.indentation 1 ++ ("TokenLine (" ++ toString line ++ ")")

/-- Lines of a line of tokens and its leaves. -/
def groupLines (group : List (Located Token)) : List String :=
  groupLine (lineOf group) :: group.map (leafLine ·.value)

/-- Line of the root. -/
def rootLine (verbose : Bool) (tokens : List (Located Token)) : Option String :=
  if tokens = [] ∧ verbose = false then none
  else some ("Program (" ++ toString (lineOf tokens) ++ ")")

/-- Lines of the dump of a tree: that of the root, if it has one, and those of the
lines of tokens. -/
def dumpLines (verbose : Bool) (tokens : List (Located Token)) : List String :=
  (rootLine verbose tokens).toList ++ (groups tokens).flatMap groupLines

theorem symbol_leaf (token : Located Token) :
    (leaf token).symbol =
      ⟨token.value.label, leafKind token.value, token.position.line, leafPayload token.value⟩ := by
  rw [leaf_eq, Tree.symbol_node]

/-- Every leaf has the value that it stands for. -/
theorem lacksPayload_leaf (token : Located Token) :
    (leaf token).symbol.lacksPayload = false := by
  rw [symbol_leaf]
  cases token.value <;> rfl

theorem written_leaf (verbose : Bool) (token : Located Token) :
    (leaf token).symbol.written verbose 2 = some (leafLine token.value) := by
  rw [symbol_leaf]
  cases token.value <;>
    simp [Symbol.written, Symbol.line?, Symbol.lacksPayload, leafKind, leafPayload, leafLine,
      leafValue, Kind.carriesValue, Payload.isUnset, Except.toOption, String.append_assoc]

theorem written_lineTree (verbose : Bool) (group : List (Located Token)) :
    (lineTree group).value.symbol.written verbose 1 = some (groupLine (lineOf group)) :=
  rfl

theorem written_tree (verbose : Bool) (tokens : List (Located Token)) :
    (tree tokens).value.symbol.written verbose 0 = rootLine verbose tokens := by
  cases tokens with
  | nil => cases verbose <;> rfl
  | cons first tokens => cases verbose <;> rfl

/-- A tree of token lines is complete. -/
theorem complete_tree (tokens : List (Located Token)) :
    Visit.Complete (tree tokens).value.preorder := by
  rw [preorder_tree, Visit.Complete, List.forall_mem_cons]
  constructor
  · cases tokens <;> rfl
  · intro visit member
    obtain ⟨group, -, inGroup⟩ := List.mem_flatMap.mp member
    rcases List.mem_cons.mp inGroup with rfl | isLeaf
    · rfl
    · obtain ⟨token, -, rfl⟩ := List.mem_map.mp isLeaf
      exact lacksPayload_leaf token

/-- A walk over a tree meets the lines of its dump. -/
theorem written_preorder_tree (verbose : Bool) (tokens : List (Located Token)) :
    ((tree tokens).value.preorder.map (Visit.written verbose)).reduceOption =
      dumpLines verbose tokens := by
  have ofGroup : ∀ group, (groupVisits group).map (Visit.written verbose) =
      (groupLines group).map some := by
    intro group
    rw [groupVisits, groupLines, List.map_cons, List.map_cons, List.map_map, List.map_map,
      List.cons.injEq]
    refine ⟨written_lineTree verbose group, List.map_congr_left ?_⟩
    intro token _
    exact written_leaf verbose token
  have ofGroups : ((groups tokens).flatMap groupVisits).map (Visit.written verbose) =
      ((groups tokens).flatMap groupLines).map some := by
    rw [List.map_flatMap, List.map_flatMap]
    simp only [ofGroup]
  have ofSome : ∀ lines : List String, (lines.map some).reduceOption = lines := by
    intro lines
    simp [List.reduceOption]
  rw [preorder_tree, List.map_cons, ofGroups, Visit.written]
  change ((tree tokens).value.symbol.written verbose 0 :: _).reduceOption = _
  rw [written_tree, dumpLines]
  cases rootLine verbose tokens with
  | none => rw [List.reduceOption_cons_of_none, ofSome, Option.toList_none, List.nil_append]
  | some line =>
      rw [List.reduceOption_cons_of_some, ofSome, Option.toList_some, List.singleton_append]

/-! ## Lines without newlines -/

theorem oneLine_indentation (depth : Nat) : OneLine (Symbol.indentation depth) := by
  rw [Symbol.indentation, oneLine_ofList]
  intro member
  exact absurd (List.eq_of_mem_replicate member) (by decide)

theorem oneLine_placesText (places count : Nat) : OneLine (placesText places count) := by
  have digits : '\n' ∉ padZeros (places + 1) (Nat.toDigits 10 count) := by
    rw [padZeros, List.mem_append, not_or]
    refine ⟨?_, newline_not_mem_toDigits count⟩
    intro member
    exact absurd (List.eq_of_mem_replicate member) (by decide)
  rw [placesText, oneLine_ofList, List.mem_append, List.mem_cons]
  rintro (whole | point | fraction)
  · exact digits (List.mem_of_mem_take whole)
  · exact absurd point (by decide)
  · exact digits (List.mem_of_mem_drop fraction)

theorem oneLine_fixed (places : Nat) (number : Binary32) : OneLine (number.fixed places) := by
  have sign : OneLine number.signMark := by
    unfold Binary32.signMark
    split <;> decide
  unfold Binary32.fixed
  split
  · decide
  · split
    · exact oneLine_append.mpr ⟨sign, by decide⟩
    · exact oneLine_append.mpr ⟨sign, oneLine_placesText _ _⟩

theorem oneLine_identifier
    {name : String}
    (identifier : Token.IsIdentifier name) :
    OneLine name := by
  obtain ⟨first, rest, spelled, isStart, isWord⟩ := identifier.word
  rw [OneLine, spelled, List.mem_cons]
  rintro (rfl | inRest)
  · exact absurd isStart (by decide)
  · exact absurd (isWord _ inRest) (by decide)

/-- Values that a scan finds are shown on one line. -/
theorem oneLine_shown_of_mem
    {position : Position}
    {text : List Char}
    {token : Located Token}
    (member : token ∈ tokens (Segment.scanFrom position text)) :
    OneLine (leafPayload token.value).shown := by
  obtain ⟨lexeme, following, described⟩ := Segment.lexeme_of_mem_tokens member
  have wellFormed := Token.wellFormed_of_lexeme described
  cases isToken : token.value with
  | integer value => exact oneLine_toString_int _
  | real value => exact oneLine_fixed 6 value
  | identifier name =>
      rw [isToken] at wellFormed
      exact oneLine_identifier (wellFormed (by simp))
  | typeName type => cases type <;> decide
  | keyword word => exact oneLine_empty
  | relation operator => exact oneLine_empty
  | mark symbol => exact oneLine_empty

/-- A label is written in capital letters. -/
theorem isUpper_of_mem_label
    {token : Token}
    {character : Char}
    (member : character ∈ token.label.toList) :
    character.isUpper = true := by
  have letters : token.label.toList.all Char.isUpper = true := by
    cases token with
    | keyword word => cases word <;> decide
    | mark symbol => cases symbol <;> decide
    | _ =>
        rw [Token.label]
        decide
  exact List.all_eq_true.mp letters character member

theorem oneLine_label (token : Token) : OneLine token.label := by
  intro member
  exact absurd (isUpper_of_mem_label member) (by decide)

theorem oneLine_leafLine
    {token : Token}
    (shown : OneLine (leafPayload token).shown) :
    OneLine (leafLine token) := by
  rw [leafLine, oneLine_append, oneLine_append, leafValue]
  refine ⟨oneLine_indentation 2, oneLine_label token, ?_⟩
  split
  · exact oneLine_append.mpr ⟨by decide, shown⟩
  · exact oneLine_empty

theorem oneLine_groupLine (line : Nat) : OneLine (groupLine line) := by
  simp only [groupLine, oneLine_append]
  exact ⟨oneLine_indentation 1, ⟨by decide, oneLine_toString_nat line⟩, by decide⟩

/-- No line of a dump contains a newline. -/
theorem oneLine_of_mem_dumpLines
    {verbose : Bool}
    {tokens : List (Located Token)}
    (shown : ∀ token ∈ tokens, OneLine (leafPayload token.value).shown)
    {line : String}
    (member : line ∈ dumpLines verbose tokens) :
    OneLine line := by
  rcases List.mem_append.mp member with ofRoot | ofGroups
  · rw [rootLine] at ofRoot
    split at ofRoot
    · simp at ofRoot
    · rw [Option.toList_some, List.mem_singleton] at ofRoot
      subst ofRoot
      simp only [oneLine_append]
      exact ⟨⟨by decide, oneLine_toString_nat _⟩, by decide⟩
  · obtain ⟨group, groupMember, inGroup⟩ := List.mem_flatMap.mp ofGroups
    rcases List.mem_cons.mp inGroup with rfl | ofLeaf
    · exact oneLine_groupLine _
    · obtain ⟨token, tokenMember, rfl⟩ := List.mem_map.mp ofLeaf
      apply oneLine_leafLine
      apply shown
      rw [← flatten_groups tokens]
      exact List.mem_flatten.mpr ⟨group, groupMember, tokenMember⟩

/-! ## Reading a line back -/

/-- Equal lists that start with maximal runs of a class start with the same
run. -/
theorem run_append_inj
    {belongs : α → Bool}
    {left right leftRest rightRest : List α}
    (leftRun : ∀ member ∈ left, belongs member = true)
    (rightRun : ∀ member ∈ right, belongs member = true)
    (leftEnds : ∀ next ∈ leftRest.head?, belongs next = false)
    (rightEnds : ∀ next ∈ rightRest.head?, belongs next = false)
    (equal : left ++ leftRest = right ++ rightRest) :
    left = right ∧ leftRest = rightRest := by
  induction left generalizing right with
  | nil =>
      cases right with
      | nil => exact ⟨rfl, equal⟩
      | cons first right =>
          rw [List.nil_append] at equal
          subst equal
          exact absurd (rightRun first List.mem_cons_self) (by simp [leftEnds first rfl])
  | cons first left inductionHypothesis =>
      cases right with
      | nil =>
          rw [List.nil_append] at equal
          subst equal
          exact absurd (leftRun first List.mem_cons_self) (by simp [rightEnds first rfl])
      | cons other right =>
          rw [List.cons_append, List.cons_append, List.cons.injEq] at equal
          obtain ⟨rfl, rests⟩ := equal
          rw [List.forall_mem_cons] at leftRun rightRun
          obtain ⟨runs, rests⟩ := inductionHypothesis leftRun.2 rightRun.2 rests
          exact ⟨by rw [runs], rests⟩

/-- Kind of the leaves with a label. -/
def kindOfLabel : String → Kind
  | "INT" => .integer
  | "FLOAT" => .real
  | "ID" => .identifier
  | "TYPE" => .typeName
  | _ => .token

theorem leafKind_eq_kindOfLabel (token : Token) : leafKind token = kindOfLabel token.label := by
  cases token with
  | keyword word => cases word <;> rfl
  | mark symbol => cases symbol <;> rfl
  | _ => rfl

/-- A label contains no colon. -/
theorem ne_colon_of_mem_label
    {token : Token}
    {character : Char}
    (member : character ∈ token.label.toList) :
    (character != ':') = true := by
  rw [bne_iff_ne]
  rintro rfl
  exact absurd (isUpper_of_mem_label member) (by decide)

/-- A value is set off from the label in front of it by a colon. -/
theorem head?_leafValue
    (token : Token) :
    ∀ next ∈ (leafValue token).toList.head?, (next != ':') = false := by
  intro next head
  rw [leafValue] at head
  split at head
  · rw [String.toList_append] at head
    cases head
    rfl
  · cases head

/-- The line of a leaf tells its label and its value. -/
theorem leafLine_inj
    {left right : Token}
    (equal : leafLine left = leafLine right) :
    left.label = right.label ∧ leafValue left = leafValue right := by
  rw [leafLine, leafLine, String.append_right_inj, ← String.toList_inj, String.toList_append,
    String.toList_append] at equal
  obtain ⟨labels, values⟩ := run_append_inj (fun _ => ne_colon_of_mem_label)
    (fun _ => ne_colon_of_mem_label) (head?_leafValue left) (head?_leafValue right) equal
  exact ⟨String.toList_inj.mp labels, String.toList_inj.mp values⟩

theorem leafPayload_alike
    {left right : Token}
    (kinds : leafKind left = leafKind right)
    (values : leafValue left = leafValue right) :
    (leafPayload left).Alike (leafPayload right) := by
  have shown : (leafKind left).carriesValue = true →
      (leafPayload left).shown = (leafPayload right).shown := by
    intro carries
    have carriesToo := carries
    rw [kinds] at carriesToo
    rwa [leafValue, leafValue, if_pos carries, if_pos carriesToo, String.append_right_inj] at values
  cases left with
  | integer leftValue =>
      cases right with
      | integer rightValue =>
          have integers := Int.repr_inj.mp (shown rfl)
          rw [leafPayload, Int32.toInt_inj.mp integers]
          exact .same _
      | _ => contradiction
  | real leftValue =>
      cases right with
      | real rightValue => exact .shown (shown rfl)
      | _ => contradiction
  | identifier leftName =>
      cases right with
      | identifier rightName =>
          rw [leafPayload, show leftName = rightName from shown rfl]
          exact .same _
      | _ => contradiction
  | typeName leftType =>
      cases right with
      | typeName rightType =>
          rw [leafPayload, show leftType.spelling = rightType.spelling from shown rfl]
          exact .same _
      | _ => contradiction
  | keyword _ | relation _ | mark _ =>
      cases right with
      | keyword _ | relation _ | mark _ => exact .same _
      | _ => contradiction

/-- Leaves on one source line that are written alike are alike. -/
theorem leaf_alike
    {left right : Located Token}
    (lines : left.position.line = right.position.line)
    (equal : leafLine left.value = leafLine right.value) :
    (leaf left).Alike (leaf right) := by
  obtain ⟨labels, values⟩ := leafLine_inj equal
  have kinds : leafKind left.value = leafKind right.value := by
    rw [leafKind_eq_kindOfLabel, leafKind_eq_kindOfLabel, labels]
  rw [leaf_eq, leaf_eq]
  exact .node ⟨labels, kinds, lines, leafPayload_alike kinds values⟩ .nil

theorem groupLine_inj
    {left right : Nat}
    (equal : groupLine left = groupLine right) :
    left = right := by
  rw [groupLine, groupLine, String.append_right_inj, String.append_left_inj,
    String.append_right_inj] at equal
  exact Nat.repr_inj.mp equal

/-- Whether a line is indented like that of a leaf. -/
def isDeep (line : String) : Bool :=
  line.toList[2]? == some ' '

theorem isDeep_leafLine (token : Token) : isDeep (leafLine token) = true := by
  rw [isDeep, leafLine, String.toList_append]
  rfl

theorem isDeep_groupLine (line : Nat) : isDeep (groupLine line) = false := by
  rw [isDeep, groupLine, String.toList_append, String.toList_append, String.toList_append]
  rfl

theorem isDeep_of_mem_leafLines
    {group : List (Located Token)}
    {line : String}
    (member : line ∈ group.map (leafLine ·.value)) :
    isDeep line = true := by
  obtain ⟨token, -, rfl⟩ := List.mem_map.mp member
  exact isDeep_leafLine token.value

/-- The lines of a line of tokens start less deep than a leaf. -/
theorem isDeep_of_mem_head?
    {lines : List (List (Located Token))}
    {line : String}
    (head : line ∈ (lines.flatMap groupLines).head?) :
    isDeep line = false := by
  cases lines with
  | nil => cases head
  | cons group lines =>
      cases head
      exact isDeep_groupLine (lineOf group)

/-- Lines of tokens with one number whose leaves are written alike are alike. -/
theorem lineTree_alike
    {left right : List (Located Token)}
    (leftLine : IsLine left)
    (rightLine : IsLine right)
    (numbers : lineOf left = lineOf right)
    (equal : left.map (leafLine ·.value) = right.map (leafLine ·.value)) :
    (lineTree left).value.Alike (lineTree right).value := by
  have written : List.Forall₂ (fun left right => leafLine left.value = leafLine right.value)
      left right := by
    rwa [← List.forall₂_eq_eq_eq, List.forall₂_map_left_iff, List.forall₂_map_right_iff] at equal
  rw [lineTree_value, lineTree_value]
  refine .node ⟨rfl, rfl, numbers, .same _⟩ ?_
  rw [List.forall₂_map_left_iff, List.forall₂_map_right_iff]
  rw [List.forall₂_iff_zip] at written ⊢
  refine ⟨written.1, ?_⟩
  intro leftToken rightToken paired
  obtain ⟨leftMember, rightMember⟩ := List.of_mem_zip paired
  apply leaf_alike
  · rw [leftLine.line _ leftMember, rightLine.line _ rightMember, numbers]
  · exact written.2 paired

/-- The lines of a dump tell the lines of tokens. -/
theorem lineTrees_alike
    {left right : List (List (Located Token))}
    (leftLines : ∀ group ∈ left, IsLine group)
    (rightLines : ∀ group ∈ right, IsLine group)
    (equal : left.flatMap groupLines = right.flatMap groupLines) :
    List.Forall₂ Tree.Alike (left.map fun group => (lineTree group).value)
      (right.map fun group => (lineTree group).value) := by
  induction left generalizing right with
  | nil =>
      cases right with
      | nil => exact .nil
      | cons group right => simp [groupLines] at equal
  | cons group left inductionHypothesis =>
      cases right with
      | nil => simp [groupLines] at equal
      | cons other right =>
          rw [List.flatMap_cons, List.flatMap_cons, groupLines, groupLines, List.cons_append,
            List.cons_append, List.cons.injEq] at equal
          obtain ⟨headings, rests⟩ := equal
          rw [List.forall_mem_cons] at leftLines rightLines
          -- The leaves end where the next line of tokens starts, which is less deep.
          obtain ⟨leaves, others⟩ := run_append_inj (fun _ => isDeep_of_mem_leafLines)
            (fun _ => isDeep_of_mem_leafLines) (fun _ => isDeep_of_mem_head?)
            (fun _ => isDeep_of_mem_head?) rests
          exact .cons
            (lineTree_alike leftLines.1 rightLines.1 (groupLine_inj headings) leaves)
            (inductionHypothesis leftLines.2 rightLines.2 others)

theorem rootLine_cons
    (verbose : Bool)
    (first : Located Token)
    (tokens : List (Located Token)) :
    rootLine verbose (first :: tokens) =
      some ("Program (" ++ toString first.position.line ++ ")") := by
  rw [rootLine, if_neg (by simp)]
  rfl

/-- A tree without tokens has at most one line. -/
theorem length_dumpLines_nil (verbose : Bool) : (dumpLines verbose []).length ≤ 1 := by
  cases verbose <;> decide

/-- A tree with tokens has a line for the root, one for a line of tokens and one
for a token. -/
theorem length_dumpLines_cons
    (verbose : Bool)
    (first : Located Token)
    (tokens : List (Located Token)) :
    1 < (dumpLines verbose (first :: tokens)).length := by
  have someGroup : groups (first :: tokens) ≠ [] := by simp [groups]
  obtain ⟨group, others, isGroups⟩ := List.exists_cons_of_ne_nil someGroup
  rw [dumpLines, rootLine_cons, isGroups]
  simp [groupLines]

/-- The lines of a dump tell the tree. -/
theorem tree_alike
    {verbose : Bool}
    {left right : List (Located Token)}
    (equal : dumpLines verbose left = dumpLines verbose right) :
    (tree left).value.Alike (tree right).value := by
  have lengths := congrArg List.length equal
  cases left with
  | nil =>
      cases right with
      | nil => exact .node (Symbol.alike_refl _) .nil
      | cons other right =>
          have short := length_dumpLines_nil verbose
          have long := length_dumpLines_cons verbose other right
          omega
  | cons first left =>
      cases right with
      | nil =>
          have short := length_dumpLines_nil verbose
          have long := length_dumpLines_cons verbose first left
          omega
      | cons other right =>
          rw [dumpLines, dumpLines, rootLine_cons, rootLine_cons, Option.toList_some,
            Option.toList_some, List.singleton_append, List.singleton_append, List.cons.injEq,
            String.append_left_inj, String.append_right_inj] at equal
          rw [tree_value_cons, tree_value_cons]
          refine .node ⟨rfl, rfl, Nat.repr_inj.mp equal.1, .same _⟩ ?_
          exact lineTrees_alike (fun _ => isLine_of_mem_groups) (fun _ => isLine_of_mem_groups)
            equal.2

/-! ## Dumps of octets -/

/-- Text that is dumped for parsed octets. -/
theorem stored_dump_parseOctets (verbose : Bool) (octets : List UInt8) :
    (Tree.dump ⟨true, verbose⟩ {} (parseOctets octets).value.root).sink.stored =
      (String.join ((dumpLines verbose (tokens (segments octets))).map (· ++ "\n"))).toUTF8 := by
  rw [parseOctets_value, (Tree.dump_of_complete (complete_tree _) ⟨true, verbose⟩).2, if_pos rfl,
    dumpText, written_preorder_tree]

/-- No line of the dump of parsed octets contains a newline. -/
theorem oneLine_dumpLines_segments (verbose : Bool) (octets : List UInt8) :
    ∀ line ∈ dumpLines verbose (tokens (segments octets)), OneLine line := by
  intro line
  exact oneLine_of_mem_dumpLines fun _ => oneLine_shown_of_mem

/-- A dump tells the tree of the octets that were parsed: octets with equal
dumps have trees of the same shape, and all their symbols agree, floating-point
values up to the six places that are shown. -/
theorem dump_parseOctets_faithful
    (verbose : Bool)
    {left right : List UInt8}
    (equal : (Tree.dump ⟨true, verbose⟩ {} (parseOctets left).value.root).sink.stored =
      (Tree.dump ⟨true, verbose⟩ {} (parseOctets right).value.root).sink.stored) :
    ∃ leftRoot rightRoot,
      (parseOctets left).value.root = some leftRoot ∧
      (parseOctets right).value.root = some rightRoot ∧
      leftRoot.Alike rightRoot := by
  refine ⟨_, _, rfl, rfl, ?_⟩
  rw [stored_dump_parseOctets, stored_dump_parseOctets] at equal
  apply tree_alike
  apply eq_of_join_newlines
  · exact oneLine_dumpLines_segments verbose left
  · exact oneLine_dumpLines_segments verbose right
  · exact String.toByteArray_inj.mp equal

/-- Numbers that are shown alike need not be the same, and comments leave no
trace. -/
theorem dump_parseOctets_faithful_rounded :
    let left := [0x30, 0x2e, 0x31]
    let right := [0x30, 0x2e, 0x31, 0x30, 0x30, 0x30, 0x30, 0x30, 0x30, 0x31, 0x2f, 0x2f]
    let dumped := fun octets : List UInt8 =>
      (Tree.dump ⟨true, false⟩ {} (parseOctets octets).value.root).sink.stored
    dumped left = dumped right ∧
      (tokens (segments left)).map (·.value) ≠ (tokens (segments right)).map (·.value) ∧
      ∃ leftRoot rightRoot,
        (parseOctets left).value.root = some leftRoot ∧
        (parseOctets right).value.root = some rightRoot ∧
        leftRoot.Alike rightRoot := by
  intro left right dumped
  have equal : dumped left = dumped right := by decide +kernel
  exact ⟨equal, by decide +kernel, dump_parseOctets_faithful false equal⟩

end TokenLines
end SyntaxTree
