import SyntaxTree.Proofs.Number.Value
import SyntaxTree.Proofs.Tree.Building
import SyntaxTree.Tree.Compare

/-!
# Trees that agree

Two trees agree if the same paths lead to nodes in both and the symbols at the ends of
every path agree: their names, kinds and lines are the same and their payloads stand
for the same value.  The comparison pairs the subtrees of nodes only after it has
counted them, so it answers whether two trees agree.
-/

namespace SyntaxTree

open Number

/-! ## Symbols -/

/-- Payloads of one variant and one value.  Floating-point payloads agree if their bits
stand for one number, so those of the two zeros do, and not-a-number does not agree
with itself. -/
inductive Payload.Agrees : Payload → Payload → Prop
  | unset : Agrees .unset .unset
  | integer (value : Int32) : Agrees (.integer value) (.integer value)
  | real
      {left right : Binary32}
      {value : WithBot (WithTop ℚ)}
      (leftValue : left.value? = some value)
      (rightValue : right.value? = some value) :
      Agrees (.real left) (.real right)
  | text (value : String) : Agrees (.text value) (.text value)

namespace Payload

theorem equals_iff {left right : Payload} : left.equals right = true ↔ left.Agrees right := by
  constructor
  · intro same
    cases left <;> cases right <;> simp only [equals, Bool.false_eq_true, beq_iff_eq] at same
    case unset.unset => exact .unset
    case integer.integer value other =>
      subst same
      exact .integer value
    case real.real value other =>
      obtain ⟨number, leftValue, rightValue⟩ := Binary32.equals_iff_value?.mp same
      exact .real leftValue rightValue
    case text.text value other =>
      subst same
      exact .text value
  · intro agrees
    cases agrees with
    | unset => rfl
    | integer value => exact beq_self_eq_true value
    | real leftValue rightValue =>
        exact Binary32.equals_iff_value?.mpr ⟨_, leftValue, rightValue⟩
    | text value => exact beq_self_eq_true value

theorem Agrees.symm {left right : Payload} (agrees : left.Agrees right) : right.Agrees left := by
  cases agrees with
  | unset => exact .unset
  | integer value => exact .integer value
  | real leftValue rightValue => exact .real rightValue leftValue
  | text value => exact .text value

theorem Agrees.trans
    {first second third : Payload}
    (agrees : first.Agrees second)
    (further : second.Agrees third) :
    first.Agrees third := by
  cases agrees with
  | unset | integer value | text value => exact further
  | real firstValue secondValue =>
      cases further with
      | real sameValue thirdValue =>
          obtain rfl := Option.some.inj (sameValue.symm.trans secondValue)
          exact .real firstValue thirdValue

/-- A floating-point payload is a number. -/
def Numeric (payload : Payload) : Prop :=
  ∀ value, payload = .real value → value.isNaN = false

/-- A payload agrees with itself unless it is not a number. -/
theorem agrees_self_iff {payload : Payload} : payload.Agrees payload ↔ payload.Numeric := by
  constructor
  · rintro agrees value rfl
    cases agrees with
    | real isValue _ => exact Binary32.isNaN_eq_false_iff.mpr ⟨_, isValue⟩
  · intro numeric
    cases payload with
    | unset => exact .unset
    | integer value => exact .integer value
    | real value =>
        obtain ⟨number, isNumber⟩ := Binary32.isNaN_eq_false_iff.mp (numeric value rfl)
        exact .real isNumber isNumber
    | text value => exact .text value

end Payload

/-- Symbols with the same name, kind and line and with payloads that agree. -/
structure Symbol.Agrees (left right : Symbol) : Prop where
  name : left.name = right.name
  kind : left.kind = right.kind
  line : left.line = right.line
  payload : left.payload.Agrees right.payload

namespace Symbol

theorem equals_iff {left right : Symbol} : left.equals right = true ↔ left.Agrees right := by
  rw [equals]
  simp only [Bool.and_eq_true, beq_iff_eq, Payload.equals_iff]
  constructor
  · rintro ⟨⟨⟨name, kind⟩, line⟩, payload⟩
    exact ⟨name, kind, line, payload⟩
  · rintro ⟨name, kind, line, payload⟩
    exact ⟨⟨⟨name, kind⟩, line⟩, payload⟩

theorem Agrees.symm {left right : Symbol} (agrees : left.Agrees right) : right.Agrees left :=
  ⟨agrees.name.symm, agrees.kind.symm, agrees.line.symm, agrees.payload.symm⟩

theorem Agrees.trans
    {first second third : Symbol}
    (agrees : first.Agrees second)
    (further : second.Agrees third) :
    first.Agrees third :=
  ⟨agrees.name.trans further.name, agrees.kind.trans further.kind, agrees.line.trans further.line,
    agrees.payload.trans further.payload⟩

end Symbol

/-! ## Trees -/

namespace Tree

/-- Trees of one shape in which the symbols at the end of every path agree. -/
structure Agrees (left right : Tree) : Prop where
  shape : ∀ path, (left.at? path).isSome = (right.at? path).isSome
  symbols : ∀ {path : List Nat} {leftNode rightNode : Tree},
    left.at? path = some leftNode → right.at? path = some rightNode →
      leftNode.symbol.Agrees rightNode.symbol

namespace Agrees

theorem symm {left right : Tree} (agrees : left.Agrees right) : right.Agrees left :=
  ⟨fun path => (agrees.shape path).symm,
    fun rightFound leftFound => (agrees.symbols leftFound rightFound).symm⟩

theorem trans
    {first second third : Tree}
    (agrees : first.Agrees second)
    (further : second.Agrees third) :
    first.Agrees third := by
  refine ⟨fun path => (agrees.shape path).trans (further.shape path), ?_⟩
  intro path firstNode thirdNode firstFound thirdFound
  have isSome : (second.at? path).isSome = true := by
    rw [← agrees.shape path, firstFound, Option.isSome_some]
  obtain ⟨secondNode, secondFound⟩ := Option.isSome_iff_exists.mp isSome
  exact (agrees.symbols firstFound secondFound).trans (further.symbols secondFound thirdFound)

/-- The roots of trees that agree have the same number of subtrees. -/
theorem length_children
    {left right : Tree}
    (agrees : left.Agrees right) :
    left.children.length = right.children.length := by
  have beyond : ∀ index, left.children.length ≤ index ↔ right.children.length ≤ index := by
    intro index
    have sameChild := Option.isSome_eq_isSome.mp (agrees.shape [index])
    simpa [at?_cons] using sameChild
  exact Nat.le_antisymm ((beyond _).mpr (Nat.le_refl _)) ((beyond _).mp (Nat.le_refl _))

theorem child
    {left right leftChild rightChild : Tree}
    {index : Nat}
    (agrees : left.Agrees right)
    (isLeftChild : left.children[index]? = some leftChild)
    (isRightChild : right.children[index]? = some rightChild) :
    leftChild.Agrees rightChild := by
  constructor
  case shape =>
    intro path
    have sameShape := agrees.shape (index :: path)
    rwa [at?_cons, at?_cons, isLeftChild, isRightChild] at sameShape
  case symbols =>
    intro path leftNode rightNode leftFound rightFound
    exact agrees.symbols (at?_cons_eq_some_iff.mpr ⟨leftChild, isLeftChild, leftFound⟩)
      (at?_cons_eq_some_iff.mpr ⟨rightChild, isRightChild, rightFound⟩)

/-- Trees agree if their roots have agreeing symbols and equally many subtrees, which
agree one by one. -/
theorem of_children
    {left right : Tree}
    (symbols : left.symbol.Agrees right.symbol)
    (lengths : left.children.length = right.children.length)
    (below : ∀ {index : Nat} {leftChild rightChild : Tree},
      left.children[index]? = some leftChild → right.children[index]? = some rightChild →
        leftChild.Agrees rightChild) :
    left.Agrees right := by
  constructor
  case shape =>
    rintro (_ | ⟨index, path⟩)
    · rw [at?_nil, at?_nil, Option.isSome_some, Option.isSome_some]
    · rw [at?_cons, at?_cons]
      by_cases inRange : index < left.children.length
      · have isLeftChild := List.getElem?_eq_getElem inRange
        have isRightChild := List.getElem?_eq_getElem (lengths ▸ inRange)
        rw [isLeftChild, isRightChild]
        exact (below isLeftChild isRightChild).shape path
      · rw [List.getElem?_eq_none (Nat.not_lt.mp inRange),
          List.getElem?_eq_none (lengths ▸ Nat.not_lt.mp inRange)]
  case symbols =>
    rintro (_ | ⟨index, path⟩) leftNode rightNode leftFound rightFound
    · obtain rfl : left = leftNode := by simpa using leftFound
      obtain rfl : right = rightNode := by simpa using rightFound
      exact symbols
    · obtain ⟨leftChild, isLeftChild, leftLeads⟩ := at?_cons_eq_some_iff.mp leftFound
      obtain ⟨rightChild, isRightChild, rightLeads⟩ := at?_cons_eq_some_iff.mp rightFound
      exact (below isLeftChild isRightChild).symbols leftLeads rightLeads

end Agrees

/-! ## The comparison -/

theorem rootsAgree_iff {left right : Tree} :
    rootsAgree left right = true ↔
      left.symbol.Agrees right.symbol ∧ left.children.length = right.children.length := by
  rw [rootsAgree, Bool.and_eq_true, Symbol.equals_iff, beq_iff_eq]

/-- Since the roots have equally many subtrees, pairing them leaves none out. -/
theorem agrees_iff_zip {left right : Tree} :
    left.Agrees right ↔
      rootsAgree left right = true ∧
        ∀ pair ∈ left.children.zip right.children, pair.1.Agrees pair.2 := by
  rw [rootsAgree_iff]
  constructor
  · intro agrees
    refine ⟨⟨agrees.symbols (at?_nil left) (at?_nil right), agrees.length_children⟩, ?_⟩
    intro pair member
    obtain ⟨index, isPair⟩ := List.mem_iff_getElem?.mp member
    obtain ⟨isLeftChild, isRightChild⟩ := List.getElem?_zip_eq_some.mp isPair
    exact agrees.child isLeftChild isRightChild
  · rintro ⟨⟨symbols, lengths⟩, below⟩
    apply Agrees.of_children symbols lengths
    intro index leftChild rightChild isLeftChild isRightChild
    apply below (leftChild, rightChild)
    exact List.mem_of_getElem? (List.getElem?_zip_eq_some.mpr ⟨isLeftChild, isRightChild⟩)

/-- The comparison accepts an agenda if and only if all pairs on it agree. -/
theorem pairsAgree_iff (pairs : List (Tree × Tree)) :
    pairsAgree pairs = true ↔ ∀ pair ∈ pairs, pair.1.Agrees pair.2 := by
  fun_induction pairsAgree pairs with
  | case1 => simp
  | case2 left right agenda inductionHypothesis =>
      rw [Bool.and_eq_true, inductionHypothesis, List.forall_mem_append, List.forall_mem_cons,
        agrees_iff_zip, and_assoc]

theorem equals_iff {left right : Tree} : left.equals right = true ↔ left.Agrees right := by
  rw [equals, pairsAgree_iff, List.forall_mem_singleton]

theorem equals_comm (left right : Tree) : left.equals right = right.equals left := by
  rw [Bool.eq_iff_iff, equals_iff, equals_iff]
  exact ⟨Agrees.symm, Agrees.symm⟩

/-- A tree equals its copy if and only if no payload in it is not a number. -/
theorem equals_copy_iff {tree : Tree} :
    tree.equals tree.copy = true ↔
      ∀ path node, tree.at? path = some node → node.symbol.payload.Numeric := by
  rw [copy_eq, equals_iff]
  constructor
  · intro agrees path node found
    exact Payload.agrees_self_iff.mp (agrees.symbols found found).payload
  · intro numeric
    refine ⟨fun path => rfl, ?_⟩
    intro path node other found otherFound
    obtain rfl : node = other := Option.some.inj (found.symm.trans otherFound)
    exact ⟨rfl, rfl, rfl, Payload.agrees_self_iff.mpr (numeric path node found)⟩

end Tree
end SyntaxTree
