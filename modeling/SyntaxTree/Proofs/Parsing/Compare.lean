import SyntaxTree.Proofs.Parsing.TokenLines
import SyntaxTree.Proofs.Tree.Compare

/-!
# Comparing parsed trees

A floating-point literal is read by rounding a decimal number, which may give zero or
infinity but always gives a number.  So all payloads of a parsed tree agree with
themselves, and the tree equals its copies.
-/

namespace SyntaxTree

open Number Source

/-! ## Floating-point tokens -/

/-- A floating-point token is a number. -/
def Token.Numeric (token : Token) : Prop :=
  ∀ value, token = .real value → value.isNaN = false

theorem Token.numeric_ofWord (word : String) : (Token.ofWord word).Numeric := by
  intro value isReal
  unfold Token.ofWord at isReal
  split at isReal <;> cases isReal

namespace Literal

theorem numeric_of_integerReading
    {form : NumberForm}
    {radix : Nat}
    {text digits : List Char}
    {token : Token}
    (isRead : integerReading form radix text digits = .token token) :
    token.Numeric := by
  rintro value rfl
  unfold integerReading at isRead
  split at isRead
  · split at isRead <;> cases isRead
  · cases isRead

theorem numeric_of_digitsReading
    {first : Char}
    {digits : List Char}
    {token : Token}
    (isRead : digitsReading first digits = .token token) :
    token.Numeric := by
  unfold digitsReading at isRead
  split at isRead
  · exact numeric_of_integerReading isRead
  · exact numeric_of_integerReading isRead

theorem numeric_real_floatValue (whole fraction : List Char) (exponent : Int) :
    (Token.real (floatValue whole fraction exponent)).Numeric := by
  rintro value isReal
  rw [← Token.real.inj isReal]
  exact Binary32.isNaN_ofDecimal _ _

theorem NumberLexeme.numeric
    {first : Char}
    {tail following : List Char}
    {token : Token}
    (number : NumberLexeme first tail (.token token) following) :
    token.Numeric := by
  generalize isToken : Reading.token token = reading at number
  cases number with
  | hexadecimal => exact numeric_of_integerReading isToken.symm
  | integer => exact numeric_of_digitsReading isToken.symm
  | fractional | scientific =>
      rw [Reading.token.inj isToken]
      exact numeric_real_floatValue _ _ _
  | glued | brokenExponent => contradiction

end Literal

theorem Segment.Lexeme.numeric
    {lexeme following : List Char}
    {token : Token}
    (described : Lexeme lexeme (.token token) following) :
    token.Numeric := by
  generalize isToken : Reading.token token = reading at described
  cases described with
  | number isDigit number =>
      subst isToken
      exact number.numeric
  | word isStart isWord ends =>
      rw [Reading.token.inj isToken]
      exact Token.numeric_ofWord _
  | mark symbol ends | relation operator ends =>
      rw [Reading.token.inj isToken]
      intro value isReal
      cases isReal
  | _ => contradiction

/-! ## Parsed trees -/

namespace TokenLines

theorem numeric_leafPayload
    {token : Token}
    (numeric : token.Numeric) :
    (leafPayload token).Numeric := by
  intro value isReal
  cases token with
  | real number =>
      obtain rfl := Payload.real.inj isReal
      exact numeric number rfl
  | _ => cases isReal

/-- If all floating-point tokens are numbers, so are the payloads of their tree. -/
theorem everywhere_numeric_tree
    {tokens : List (Located Token)}
    (numeric : ∀ token ∈ tokens, token.value.Numeric) :
    (tree tokens).value.Everywhere fun symbol => symbol.payload.Numeric := by
  have unset : Payload.Numeric .unset := by
    intro value isReal
    cases isReal
  have lines : ∀ line ∈ (tree tokens).value.children,
      line.Everywhere fun symbol => symbol.payload.Numeric := by
    intro line member
    rw [children_tree] at member
    obtain ⟨group, groupMember, rfl⟩ := List.mem_map.mp member
    refine .node unset fun leafTree leafMember => ?_
    obtain ⟨token, tokenMember, rfl⟩ := List.mem_map.mp leafMember
    have isToken : token ∈ tokens := by
      rw [← flatten_groups tokens]
      exact List.mem_flatten.mpr ⟨group, groupMember, tokenMember⟩
    rw [leaf_eq]
    exact .leaf (numeric_leafPayload (numeric token isToken))
  cases tokens with
  | nil => exact .leaf unset
  | cons first tokens =>
      rw [children_tree] at lines
      rw [tree_value_cons]
      exact .node unset lines

/-- A parsed tree equals its copy. -/
theorem equals_copy_parseSource (source : String) :
    ∃ root, (parseSource source).value.root = some root ∧ root.equals root.copy = true := by
  refine ⟨(tree (tokens (Segment.scan source.toList))).value, rfl, ?_⟩
  apply Tree.equals_copy_iff.mpr
  intro path node found
  refine (Tree.Everywhere.of_at? (everywhere_numeric_tree fun token member => ?_) found).root
  obtain ⟨lexeme, following, described⟩ := Segment.lexeme_of_mem_tokens member
  exact described.numeric

end TokenLines

/-! ## Comparison -/

namespace Tree

/-- The comparison answers whether two trees agree: whether they have the same shape and
the symbols at corresponding nodes have the same names, kinds and lines and payloads of
one value.  It is symmetric and transitive.  A tree equals its copy if and only if all
its floating-point payloads are numbers, as they are in every parsed tree. -/
theorem equals_decides_agreement :
    (∀ left right : Tree, left.equals right = true ↔ left.Agrees right) ∧
    (∀ left right : Tree, left.equals right = right.equals left) ∧
    (∀ first second third : Tree, first.equals second = true → second.equals third = true →
      first.equals third = true) ∧
    (∀ tree : Tree, tree.equals tree.copy = true ↔
      ∀ path node, tree.at? path = some node →
        ∀ value, node.symbol.payload = .real value → value.isNaN = false) ∧
    ∀ source, ∃ root, (TokenLines.parseSource source).value.root = some root ∧
      root.equals root.copy = true := by
  refine ⟨fun left right => equals_iff, equals_comm, ?_, fun tree => equals_copy_iff,
    TokenLines.equals_copy_parseSource⟩
  intro first second third agrees further
  rw [equals_iff] at agrees further ⊢
  exact agrees.trans further

/-- The two zeros agree in a tree, and a tree with a not-a-number differs from its copy. -/
theorem equals_decides_agreement_specialNumbers :
    let tree : UInt32 → Tree := fun bits =>
      .node ⟨"Exp", .nonTerminal, 1, .unset⟩ [.leaf ⟨"FLOAT", .real, 1, .real ⟨bits⟩⟩]
    (tree 0).equals (tree 0x80000000) = true ∧ (tree 0x80000000).equals (tree 0) = true ∧
      (tree 0).equals (tree 0) = true ∧
      ¬ (tree 0x7fc00000).equals (tree 0x7fc00000).copy = true := by
  intro tree
  obtain ⟨-, symmetric, transitive, copies, -⟩ := equals_decides_agreement
  have zeros : (tree 0).equals (tree 0x80000000) = true := by
    decide +kernel
  have back : (tree 0x80000000).equals (tree 0) = true := symmetric _ _ ▸ zeros
  refine ⟨zeros, back, transitive _ _ _ zeros back, ?_⟩
  intro same
  have numeric := (copies _).mp same [0] _ rfl _ rfl
  exact absurd numeric (by decide)

end Tree
end SyntaxTree
