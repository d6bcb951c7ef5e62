import Mathlib.Logic.Function.Iterate
import SyntaxTree.Tree.Agenda

/-!
# Loops over agendas

After as many rounds as the agenda costs, a loop has come to its end.  So what no
round changes is the same in the end as it was at the start.
-/

namespace SyntaxTree

theorem Task.agendaCost_eq_zero_iff {agenda : List Task} :
    agendaCost agenda = 0 ↔ agenda = [] := by
  cases agenda with
  | nil => exact ⟨fun _ => rfl, fun _ => rfl⟩
  | cons task agenda =>
      have positive := task.cost_pos
      rw [agendaCost_cons]
      constructor
      · omega
      · intro isNil
        cases isNil

namespace AgendaLoop

variable {State : Type} (loop : AgendaLoop State) {state : State}

theorem agenda_iterate_eq_nil
    {rounds : Nat}
    (enough : Task.agendaCost (loop.agenda state) ≤ rounds) :
    loop.agenda (loop.round^[rounds] state) = [] := by
  induction rounds generalizing state with
  | zero =>
      apply Task.agendaCost_eq_zero_iff.mp
      exact Nat.le_zero.mp enough
  | succ rounds inductionHypothesis =>
      rw [Function.iterate_succ_apply]
      apply inductionHypothesis
      by_cases ended : loop.agenda state = []
      · rw [loop.rests state ended, ended]
        exact Nat.zero_le rounds
      · have lower := loop.lowers state ended
        omega

@[simp] theorem run_iterate (rounds : Nat) :
    loop.run (loop.round^[rounds] state) = loop.run state := by
  refine Function.Iterate.rec (fun later => loop.run later = loop.run state) rfl ?_ rounds
  intro later same
  rw [run_round, same]

/-- With as many rounds as the agenda costs, the loop has come to its end. -/
theorem iterate_eq_run
    {rounds : Nat}
    (enough : Task.agendaCost (loop.agenda state) ≤ rounds) :
    loop.round^[rounds] state = loop.run state := by
  rw [← run_iterate loop rounds, run_of_nil (loop.agenda_iterate_eq_nil enough)]

@[simp] theorem agenda_run (state : State) : loop.agenda (loop.run state) = [] := by
  rw [← loop.iterate_eq_run (Nat.le_refl _)]
  exact loop.agenda_iterate_eq_nil (Nat.le_refl _)

/-- What no round changes is the same in the end. -/
theorem eq_of_round
    {Value : Type}
    {value : State → Value}
    (kept : ∀ state, value (loop.round state) = value state)
    (state : State) :
    value (loop.run state) = value state := by
  rw [← loop.iterate_eq_run (Nat.le_refl _)]
  refine Function.Iterate.rec (fun later => value later = value state) rfl ?_ _
  intro later same
  rw [kept, same]

end AgendaLoop
end SyntaxTree
