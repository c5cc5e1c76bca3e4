import DataFeed.Foundation.Transition

/-! # Work that is paid for

A system in which some actions are its own and the others its environment's. Its own actions
are paid for by a potential, which only the environment can raise, and by no more than what
it is recorded to have put in. So a run has no more actions of the system's own than the
potential it began with and what was put in meanwhile; and a system that can always go on of
its own until it is done gets there of its own.
-/

namespace Foundation

namespace System

variable {State Action : Type*}

/-- While the invariant holds, a potential pays for the system's own actions, and `given`
counts what the others put in. -/
structure Paid (system : System State Action) (invariant : State → Prop) (own : Action → Bool)
    (potential given : State → Nat) : Prop where
  keeps : ∀ state action next, invariant state → system.step state action = some next →
    invariant next
  spends : ∀ state action next, invariant state → own action = true →
    system.step state action = some next →
      potential next < potential state ∧ given next = given state
  receives : ∀ state action next, invariant state → own action = false →
    system.step state action = some next →
      potential next + given state ≤ potential state + given next

namespace Paid

variable {system : System State Action} {invariant : State → Prop} {own : Action → Bool}
  {potential given : State → Nat}

/-- The system's own actions of a run are paid for by the potential and by what was put in. -/
theorem runFrom (paid : system.Paid invariant own potential given) {actions : List Action}
    {state final : State} (holds : invariant state)
    (reached : system.runFrom state actions = some final) :
    actions.countP own + potential final + given state ≤ potential state + given final := by
  induction actions generalizing state with
  | nil =>
      obtain rfl := Option.some.inj reached
      simp only [List.countP_nil, Nat.zero_add, Nat.le_refl]
  | cons action rest ih =>
      obtain ⟨next, stepped, later⟩ := Option.bind_eq_some_iff.mp reached
      have spent := ih (paid.keeps state action next holds stepped) later
      rw [List.countP_cons]
      cases mine : own action with
      | true =>
          obtain ⟨less, same⟩ := paid.spends state action next holds mine stepped
          rw [if_pos rfl]
          omega
      | false =>
          have received := paid.receives state action next holds mine stepped
          rw [if_neg Bool.false_ne_true]
          omega

/-- A system that can go on of its own until it is done gets there of its own. -/
theorem ends (paid : system.Paid invariant own potential given) {done : State → Prop}
    (goes_on : ∀ state, invariant state → ¬ done state →
      ∃ action next, own action = true ∧ system.step state action = some next)
    {state : State} (holds : invariant state) :
    ∃ actions final, (∀ action ∈ actions, own action = true) ∧
      system.runFrom state actions = some final ∧ done final := by
  induction bound : potential state using Nat.strongRecOn generalizing state with
  | ind amount ih =>
      by_cases finished : done state
      · exact ⟨[], state, fun _ member => (List.not_mem_nil member).elim, rfl, finished⟩
      · obtain ⟨action, next, mine, stepped⟩ := goes_on state holds finished
        have less := (paid.spends state action next holds mine stepped).1
        obtain ⟨actions, final, all, reached, finished⟩ :=
          ih (potential next) (bound ▸ less) (paid.keeps state action next holds stepped) rfl
        refine ⟨action :: actions, final, ?_, ?_, finished⟩
        · exact List.forall_mem_cons.mpr ⟨mine, all⟩
        · exact Option.bind_eq_some_iff.mpr ⟨next, stepped, reached⟩

end Paid

end System

end Foundation
