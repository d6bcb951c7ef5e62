import Mathlib.Data.List.Nodup
import SyntaxTree.Proofs.Text.OctetOrder
import SyntaxTree.Tree.Statistics

/-!
# Tables of tallies

A table lists names with their counts, no name twice.  Counting one more occurrence
raises the count of one name, wherever it is listed.  The order of tallies leaves no
two names of a table tied, so the table determines its ranking, in whatever order its
tallies are listed.
-/

namespace SyntaxTree
namespace Tally

/-! ## Counting -/

/-- Count of a name in a table, zero if the name is not listed. -/
def countOf (name : String) : List Tally → Nat
  | [] => 0
  | tally :: tallies => if tally.name = name then tally.count else countOf name tallies

/-- A table in which every name is listed once, with a positive count. -/
structure IsTable (tallies : List Tally) : Prop where
  distinct : (tallies.map (·.name)).Nodup
  positive : ∀ tally ∈ tallies, 0 < tally.count

theorem countOf_add (name other : String) (tallies : List Tally) :
    countOf other (add name tallies) = countOf other tallies + if name = other then 1 else 0 := by
  induction tallies with
  | nil => simp [add, countOf]
  | cons tally tallies inductionHypothesis =>
      rw [add]
      by_cases isName : tally.name = name
      · rw [if_pos isName, countOf, countOf, isName]
        split <;> rfl
      · rw [if_neg isName, countOf, countOf, inductionHypothesis]
        by_cases isOther : tally.name = other
        · rw [if_pos isOther, if_pos isOther, if_neg fun same => isName (isOther.trans same.symm)]
          rfl
        · rw [if_neg isOther, if_neg isOther]

/-- A name that is counted for the first time is listed behind the others. -/
theorem map_name_add (name : String) (tallies : List Tally) :
    (add name tallies).map (·.name) =
      if name ∈ tallies.map (·.name) then
        tallies.map (·.name)
      else
        tallies.map (·.name) ++ [name] := by
  induction tallies with
  | nil => simp [add]
  | cons tally tallies inductionHypothesis =>
      rw [add]
      by_cases isName : tally.name = name
      · simp [isName]
      · have notHead : ¬ name = tally.name := fun same => isName same.symm
        simp only [isName, if_false, List.map_cons, inductionHypothesis, List.mem_cons, notHead,
          false_or]
        split <;> rfl

theorem sum_count_add (name : String) (tallies : List Tally) :
    ((add name tallies).map (·.count)).sum = (tallies.map (·.count)).sum + 1 := by
  induction tallies with
  | nil => simp [add]
  | cons tally tallies inductionHypothesis =>
      rw [add]
      split
      · simp only [List.map_cons, List.sum_cons]
        omega
      · rw [List.map_cons, List.sum_cons, inductionHypothesis, List.map_cons, List.sum_cons]
        omega

namespace IsTable

variable {tallies : List Tally}

theorem nil : IsTable [] :=
  ⟨List.nodup_nil, by simp⟩

theorem tail
    {tally : Tally}
    (table : IsTable (tally :: tallies)) :
    IsTable tallies :=
  ⟨(List.nodup_cons.mp table.distinct).2,
    fun other member => table.positive other (List.mem_cons_of_mem tally member)⟩

theorem add (table : IsTable tallies) (name : String) : IsTable (add name tallies) := by
  constructor
  case distinct =>
    rw [map_name_add]
    split
    · exact table.distinct
    · rename_i isNew
      exact List.nodup_append.mpr ⟨table.distinct, List.nodup_singleton name, by simpa using isNew⟩
  case positive =>
    induction tallies with
    | nil => simp [Tally.add]
    | cons tally tallies inductionHypothesis =>
        rw [Tally.add]
        split
        · exact List.forall_mem_cons.mpr ⟨Nat.succ_pos _, table.tail.positive⟩
        · exact List.forall_mem_cons.mpr
            ⟨table.positive tally List.mem_cons_self, inductionHypothesis table.tail⟩

/-- The tallies of a table are the names with a positive count, each with its count. -/
theorem mem_iff (table : IsTable tallies) {tally : Tally} :
    tally ∈ tallies ↔
      0 < countOf tally.name tallies ∧ tally.count = countOf tally.name tallies := by
  induction tallies with
  | nil => simp [countOf]
  | cons first tallies inductionHypothesis =>
      rw [List.mem_cons, inductionHypothesis table.tail, countOf]
      by_cases isFirst : first.name = tally.name
      · -- No other tally has this name, so its count in the rest is zero.
        have notLater : ¬ (0 < countOf tally.name tallies ∧
            tally.count = countOf tally.name tallies) := by
          intro isLater
          have listed : tally.name ∈ tallies.map (·.name) :=
            List.mem_map_of_mem ((inductionHypothesis table.tail).mpr isLater)
          rw [← isFirst] at listed
          exact (List.nodup_cons.mp table.distinct).1 listed
        have positive := table.positive first List.mem_cons_self
        rw [if_pos isFirst]
        constructor
        · rintro (rfl | isLater)
          · exact ⟨positive, rfl⟩
          · exact absurd isLater notLater
        · rintro ⟨-, sameCount⟩
          obtain ⟨firstName, firstCount⟩ := first
          obtain ⟨name, count⟩ := tally
          obtain rfl : firstName = name := isFirst
          obtain rfl : count = firstCount := sameCount
          exact Or.inl rfl
      · have notFirst : tally ≠ first := by
          rintro rfl
          exact isFirst rfl
        rw [if_neg isFirst]
        simp only [notFirst, false_or]

end IsTable

/-! ## Ranking -/

/-- The first tally is ranked before the other one: it has the greater count, or the
same count and the smaller name, octet by octet. -/
def Before (left right : Tally) : Prop :=
  right.count < left.count ∨
    left.count = right.count ∧ left.name.toUTF8.data.toList < right.name.toUTF8.data.toList

theorem precedes_iff {left right : Tally} :
    precedes left right = true ↔
      right.count < left.count ∨ left.count = right.count ∧ left.name ≤ right.name := by
  simp [precedes]

theorem precedes_trans
    (first second third : Tally)
    (before : precedes first second = true)
    (after : precedes second third = true) :
    precedes first third = true := by
  rw [precedes_iff] at *
  rcases before with more | ⟨same, below⟩
  · left
    omega
  · rcases after with more | ⟨sameAgain, belowAgain⟩
    · left
      omega
    · exact Or.inr ⟨same.trans sameAgain, le_trans below belowAgain⟩

theorem precedes_total (left right : Tally) :
    (precedes left right || precedes right left) = true := by
  rw [Bool.or_eq_true, precedes_iff, precedes_iff]
  rcases Nat.lt_trichotomy left.count right.count with less | same | greater
  · exact Or.inr (Or.inl less)
  · rcases le_total left.name right.name with below | above
    · exact Or.inl (Or.inr ⟨same, below⟩)
    · exact Or.inr (Or.inr ⟨same.symm, above⟩)
  · exact Or.inl (Or.inl greater)

/-- No two different tallies are tied. -/
theorem precedes_antisymm
    {left right : Tally}
    (before : precedes left right = true)
    (after : precedes right left = true) :
    left = right := by
  rw [precedes_iff] at before after
  rcases before with more | ⟨sameCount, below⟩
  · omega
  · rcases after with more | ⟨-, above⟩
    · omega
    · obtain ⟨leftName, leftCount⟩ := left
      obtain ⟨rightName, rightCount⟩ := right
      obtain rfl : leftCount = rightCount := sameCount
      obtain rfl : leftName = rightName := le_antisymm below above
      rfl

theorem before_of_precedes
    {left right : Tally}
    (before : precedes left right = true)
    (otherName : left.name ≠ right.name) :
    left.Before right := by
  rcases precedes_iff.mp before with more | ⟨sameCount, below⟩
  · exact Or.inl more
  · exact Or.inr ⟨sameCount, Text.Utf8.toUTF8_lt_iff.mpr (lt_of_le_of_ne below otherName)⟩

/-- The tallies that are ranked first in a table, as many as the limit allows. -/
structure Ranks (limit : Nat) (tallies listed : List Tally) : Prop where
  length : listed.length = min limit tallies.length
  subset : ∀ tally ∈ listed, tally ∈ tallies
  distinct : (listed.map (·.name)).Nodup
  ordered : listed.Pairwise Before
  omitted : ∀ tally ∈ tallies, tally ∉ listed → ∀ better ∈ listed, better.Before tally

/-- A sorted table is ranked, and there is no tie in it. -/
theorem IsTable.pairwise_before
    {tallies : List Tally}
    (table : IsTable tallies) :
    (tallies.mergeSort precedes).Pairwise Before := by
  have sorted := List.pairwise_mergeSort precedes_trans precedes_total tallies
  have distinct : ((tallies.mergeSort precedes).map (·.name)).Nodup :=
    ((List.mergeSort_perm tallies precedes).map _).nodup_iff.mpr table.distinct
  rw [List.Nodup, List.pairwise_map] at distinct
  exact (sorted.and distinct).imp fun both => before_of_precedes both.1 both.2

end Tally

namespace Statistics

open Tally

theorem ranks_mostCommon
    {statistics : Statistics}
    (table : IsTable statistics.labels)
    (limit : Nat) :
    Ranks limit statistics.labels (statistics.mostCommon limit) := by
  have perm := List.mergeSort_perm statistics.labels precedes
  have ordered := table.pairwise_before
  have front : statistics.mostCommon limit <+: statistics.labels.mergeSort precedes :=
    List.take_prefix limit _
  constructor
  case length => rw [mostCommon, List.length_take, perm.length_eq]
  case subset =>
    intro tally member
    exact perm.mem_iff.mp (front.subset member)
  case distinct =>
    have distinct := (perm.map (·.name)).nodup_iff.mpr table.distinct
    exact distinct.sublist (front.sublist.map _)
  case ordered => exact ordered.sublist front.sublist
  case omitted =>
    intro tally member notListed better isBetter
    obtain ⟨rest, whole⟩ := front
    rw [← whole] at perm ordered
    have later : tally ∈ rest :=
      (List.mem_append.mp (perm.mem_iff.mpr member)).resolve_left notListed
    exact (List.pairwise_append.mp ordered).2.2 better isBetter tally later

/-- The order in which the tallies are listed does not matter to the ranking. -/
theorem mostCommon_of_perm
    {statistics : Statistics}
    {labels : List Tally}
    (perm : labels.Perm statistics.labels)
    (limit : Nat) :
    mostCommon limit { statistics with labels := labels } = statistics.mostCommon limit := by
  have sorted : ∀ tallies : List Tally,
      (tallies.mergeSort precedes).Pairwise fun left right => precedes left right = true :=
    List.pairwise_mergeSort precedes_trans precedes_total
  have samePerm : (labels.mergeSort precedes).Perm (statistics.labels.mergeSort precedes) :=
    (List.mergeSort_perm labels precedes).trans
      (perm.trans (List.mergeSort_perm statistics.labels precedes).symm)
  have same := List.Perm.eq_of_pairwise (fun _ _ _ _ before after => precedes_antisymm before after)
    (sorted labels) (sorted statistics.labels) samePerm
  rw [mostCommon, mostCommon, same]

end Statistics
end SyntaxTree
