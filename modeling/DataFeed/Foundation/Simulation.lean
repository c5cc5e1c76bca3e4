import DataFeed.Foundation.Transition

/-! # Two levels of one design

A system follows another, coarser one: each state has a view there, and what a step does
to the views is a list of moves of the coarse system, most often one move or none. What the
fine system has to preserve for this is part of the simulation. Its runs then show as runs
of the coarse system, so what holds of all of these holds of what is seen of it.
-/

namespace Foundation

variable {State Action View Move : Type*}

/-- What the fine system's steps are in the coarse one. -/
structure Simulation (fine : System State Action) (coarse : System View Move) where
  view : State → View
  /-- What holds of the states of the fine system's runs. -/
  kept : State → Prop
  /-- The moves that a step shows as. -/
  shows : State → Action → List Move
  init : view fine.init = coarse.init
  kept_init : kept fine.init
  kept_step : ∀ state action next, kept state → fine.step state action = some next → kept next
  follows : ∀ state action next, kept state → fine.step state action = some next →
    coarse.runFrom (view state) (shows state action) = some (view next)

namespace Simulation

variable {fine : System State Action} {coarse : System View Move}

/-- What a run shows as. -/
def moves (simulation : Simulation fine coarse) (state : State) : List Action → List Move
  | [] => []
  | action :: rest => simulation.shows state action ++
      ((fine.step state action).map fun next => moves simulation next rest).getD []

theorem runFrom (simulation : Simulation fine coarse) {state final : State}
    {actions : List Action} (kept : simulation.kept state)
    (reached : fine.runFrom state actions = some final) :
    coarse.runFrom (simulation.view state) (simulation.moves state actions) =
      some (simulation.view final) := by
  induction actions generalizing state with
  | nil =>
      obtain rfl := Option.some.inj reached
      rfl
  | cons action rest ih =>
      obtain ⟨next, stepped, later⟩ := Option.bind_eq_some_iff.mp reached
      have further := ih (simulation.kept_step state action next kept stepped) later
      rw [moves, stepped, Option.map_some, Option.getD_some, System.runFrom_append,
        simulation.follows state action next kept stepped, Option.bind_some, further]

/-- **A run of the fine system is one of the coarse system.** Its moves are those that the
steps show as. -/
theorem run (simulation : Simulation fine coarse) {state : State} {actions : List Action}
    (reached : fine.run actions = some state) :
    coarse.run (simulation.moves fine.init actions) = some (simulation.view state) := by
  rw [System.run, ← simulation.init]
  exact simulation.runFrom simulation.kept_init reached

end Simulation

end Foundation
