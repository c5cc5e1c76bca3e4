import Mathlib.Data.List.Induction

/-! # Transition systems

A system steps from state to state by actions; the scheduler's and the
environment's choices are part of the action, so a step is a function, and a run
is determined by its actions. An action that is not possible in a state has no
step there.
-/

namespace Foundation

/-- What stands somewhere in a list with one more item is that item, or stands in the list
without it. -/
theorem last_or_before {Item : Type*} {items before after : List Item} {item last : Item}
    (same : items ++ [last] = before ++ item :: after) :
    (items = before ∧ last = item ∧ after = []) ∨
      ∃ rest, after = rest ++ [last] ∧ items = before ++ item :: rest := by
  rcases List.eq_nil_or_concat after with rfl | ⟨rest, final, rfl⟩
  · obtain ⟨start, singleton⟩ := List.append_inj' same rfl
    exact .inl ⟨start, List.singleton_inj.mp singleton, rfl⟩
  · rw [List.concat_eq_append, ← List.cons_append, ← List.append_assoc] at same
    obtain ⟨start, singleton⟩ := List.append_inj' same rfl
    rw [List.concat_eq_append, List.singleton_inj.mp singleton]
    exact .inr ⟨rest, rfl, start⟩

/-- A transition system whose nondeterminism is in its actions. -/
structure System (State Action : Type*) where
  init : State
  step : State → Action → Option State

namespace System

variable {State Action : Type*} (system : System State Action)

/-- The state after a list of actions, if each was possible in turn. -/
def runFrom (state : State) : List Action → Option State
  | [] => some state
  | action :: rest => (system.step state action).bind fun next => runFrom next rest

/-- The state a run from the initial state ends in. -/
def run (actions : List Action) : Option State := system.runFrom system.init actions

/-- Some run ends in the state. -/
def Reachable (state : State) : Prop := ∃ actions, system.run actions = some state

/-- A run of two lists of actions is a run of the second from where the first leads. -/
theorem runFrom_append (state : State) (first second : List Action) :
    system.runFrom state (first ++ second) =
      (system.runFrom state first).bind fun next => system.runFrom next second := by
  induction first generalizing state with
  | nil => rfl
  | cons action rest ih =>
      simp only [List.cons_append, runFrom, Option.bind_assoc]
      congr 1
      funext next
      exact ih next

/-- A run with one more action is one more step. -/
theorem runFrom_concat (state : State) (actions : List Action) (action : Action) :
    system.runFrom state (actions ++ [action]) =
      (system.runFrom state actions).bind fun next => system.step next action := by
  rw [runFrom_append]
  congr 1
  funext next
  simp only [runFrom, Option.bind_fun_some]

/-- A run from the start of two lists of actions is a run of the second from where the first leads.
-/
theorem run_append (first second : List Action) :
    system.run (first ++ second) =
      (system.run first).bind fun next => system.runFrom next second :=
  system.runFrom_append _ first second

variable {system}

/-- One step is a run. -/
theorem runFrom_single {state next : State} {action : Action}
    (stepped : system.step state action = some next) :
    system.runFrom state [action] = some next :=
  Option.bind_eq_some_iff.mpr ⟨next, stepped, rfl⟩

/-- **Induction over runs.** A property of the actions taken and the state
reached that holds before any action and survives every step holds of every
run. -/
theorem run_induction {property : List Action → State → Prop} (initial : property [] system.init)
    (step : ∀ actions state action next, system.run actions = some state →
      property actions state → system.step state action = some next →
        property (actions ++ [action]) next)
    {actions : List Action} {state : State} (reached : system.run actions = some state) :
    property actions state := by
  induction actions using List.reverseRecOn generalizing state with
  | nil =>
      obtain rfl := Option.some.inj reached
      exact initial
  | append_singleton actions action ih =>
      rw [run, runFrom_concat] at reached
      obtain ⟨before, earlier, stepped⟩ := Option.bind_eq_some_iff.mp reached
      exact step actions before action state earlier (ih earlier) stepped

/-- What holds initially and survives every step from a reachable state holds of every
reachable state. -/
theorem Reachable.induction {property : State → Prop} {state : State}
    (reachable : system.Reachable state) (initial : property system.init)
    (step : ∀ state action next, system.Reachable state → property state →
      system.step state action = some next → property next) : property state := by
  obtain ⟨actions, reached⟩ := reachable
  exact run_induction initial
    (fun past before action next reached held stepped =>
      step before action next ⟨past, reached⟩ held stepped) reached

/-- An invariant of the steps that holds initially holds of every reachable
state. -/
theorem Reachable.invariant {invariant : State → Prop} {state : State}
    (reachable : system.Reachable state) (initial : invariant system.init)
    (step : ∀ state action next, invariant state → system.step state action = some next →
      invariant next) : invariant state := by
  apply reachable.induction
  · exact initial
  · exact fun state action next _ held stepped => step state action next held stepped

/-- What the allowed actions preserve holds at the end of a run of them. -/
theorem runFrom_invariant {invariant : State → Prop} {allowed : Action → Prop}
    (step : ∀ state action next, allowed action → invariant state →
      system.step state action = some next → invariant next)
    {actions : List Action} {state final : State} (initial : invariant state)
    (all : ∀ action ∈ actions, allowed action)
    (reached : system.runFrom state actions = some final) : invariant final := by
  induction actions generalizing state with
  | nil => exact Option.some.inj reached ▸ initial
  | cons action rest ih =>
      obtain ⟨next, stepped, later⟩ := Option.bind_eq_some_iff.mp reached
      apply ih
      · exact step state action next (all action List.mem_cons_self) initial stepped
      · exact fun other member => all other (List.mem_cons_of_mem _ member)
      · exact later

/-- What is reached from a reachable state is reachable. -/
theorem Reachable.runFrom {state final : State} {actions : List Action}
    (reachable : system.Reachable state) (reached : system.runFrom state actions = some final) :
    system.Reachable final := by
  obtain ⟨past, earlier⟩ := reachable
  refine ⟨past ++ actions, ?_⟩
  rw [run_append, earlier]
  exact reached

/-- The initial state is reachable. -/
theorem Reachable.init : system.Reachable system.init := ⟨[], rfl⟩

/-- A step from a reachable state leads to a reachable one. -/
theorem Reachable.step {state next : State} {action : Action} (reachable : system.Reachable state)
    (stepped : system.step state action = some next) : system.Reachable next := by
  obtain ⟨actions, reached⟩ := reachable
  refine ⟨actions ++ [action], ?_⟩
  rw [run, runFrom_concat]
  exact Option.bind_eq_some_iff.mpr ⟨state, reached, stepped⟩

/-- Every step of a run meets a condition on the state before it. -/
def Throughout (system : System State Action) (condition : State → Action → Prop)
    (actions : List Action) : Prop :=
  ∀ before action after state, actions = before ++ action :: after →
    system.run before = some state → condition state action

namespace Throughout

variable {condition : State → Action → Prop} {first second actions : List Action} {state : State}

/-- No action breaks a condition in an empty run. -/
theorem nil : system.Throughout condition [] := by
  intro before action after state same
  exact (List.append_ne_nil_of_right_ne_nil before (List.cons_ne_nil action after) same.symm).elim

/-- A condition met throughout a run is met throughout its beginning. -/
theorem of_append (met : system.Throughout condition (first ++ second)) :
    system.Throughout condition first := by
  intro before action after state same reached
  exact met before action (after ++ second) state
    (by rw [same, List.append_assoc, List.cons_append]) reached

/-- The steps of a run one by one. -/
theorem of_indices (met : ∀ index < actions.length, ∀ state ∈ system.run (actions.take index),
    ∀ action ∈ actions[index]?, condition state action) : system.Throughout condition actions := by
  intro before action after state same reached
  subst same
  apply met before.length
  · rw [List.length_append, List.length_cons]
    exact Nat.lt_add_of_pos_right (Nat.succ_pos _)
  · rw [List.take_left]
    exact reached
  · rw [List.getElem?_append_right (Nat.le_refl _), Nat.sub_self]
    rfl

/-- A condition met throughout a run and by one more action is met throughout both. -/
theorem concat {action : Action} (met : system.Throughout condition actions)
    (last : ∀ state, system.run actions = some state → condition state action) :
    system.Throughout condition (actions ++ [action]) := by
  intro before other after state same reached
  obtain ⟨rfl, rfl, _⟩ | ⟨rest, _, earlier⟩ := last_or_before same
  · exact last state reached
  · exact met before other rest state earlier reached

/-- What holds initially and survives every step that meets a condition holds at the end of
a run of such steps. -/
theorem invariant {invariant : State → Prop} (met : system.Throughout condition actions)
    (initial : invariant system.init)
    (step : ∀ state action next, condition state action → invariant state →
      system.step state action = some next → invariant next)
    (reached : system.run actions = some state) : invariant state := by
  refine @run_induction _ _ system
    (fun actions state => system.Throughout condition actions → invariant state)
    (fun _ => initial) ?_ _ _ reached met
  intro past before action next earlier held stepped met
  exact step before action next (met past action [] before rfl earlier) (held met.of_append) stepped

end Throughout

/-- Some run of allowed actions leads from the state to the goal. -/
def Leads (system : System State Action) (allowed : Action → Prop) (state : State)
    (goal : State → Prop) : Prop :=
  ∃ actions final, (∀ action ∈ actions, allowed action) ∧
    system.runFrom state actions = some final ∧ goal final

namespace Leads

variable {allowed : Action → Prop} {goal middle : State → Prop} {state next : State}

/-- The goal is met already. -/
theorem here (met : goal state) : system.Leads allowed state goal :=
  ⟨[], state, fun _ member => (List.not_mem_nil member).elim, rfl, met⟩

/-- An allowed action comes first. -/
theorem after {action : Action} (stepped : system.step state action = some next)
    (allows : allowed action) (leads : system.Leads allowed next goal) :
    system.Leads allowed state goal := by
  obtain ⟨actions, final, all, reached, met⟩ := leads
  refine ⟨action :: actions, final, List.forall_mem_cons.mpr ⟨allows, all⟩, ?_, met⟩
  rw [System.runFrom, stepped]
  exact reached

/-- What leads to a state that leads to the goal leads to the goal. -/
theorem trans (leads : system.Leads allowed state middle)
    (later : ∀ next, middle next → system.Leads allowed next goal) :
    system.Leads allowed state goal := by
  obtain ⟨actions, between, all, reached, met⟩ := leads
  obtain ⟨more, final, also, further, ends⟩ := later between met
  refine ⟨actions ++ more, final, List.forall_mem_append.mpr ⟨all, also⟩, ?_, ends⟩
  rw [runFrom_append, reached]
  exact further

/-- What the allowed actions preserve holds where they lead. -/
theorem invariant {invariant : State → Prop}
    (step : ∀ state action next, allowed action → invariant state →
      system.step state action = some next → invariant next)
    (leads : system.Leads allowed state goal) (initial : invariant state) :
    system.Leads allowed state fun final => goal final ∧ invariant final := by
  obtain ⟨actions, final, all, reached, met⟩ := leads
  exact ⟨actions, final, all, reached, met, runFrom_invariant step initial all reached⟩

/-- More may be allowed, and less asked for. -/
theorem mono {permitted : Action → Prop} {weaker : State → Prop}
    (leads : system.Leads allowed state goal) (allows : ∀ action, allowed action → permitted action)
    (implies : ∀ final, goal final → weaker final) : system.Leads permitted state weaker := by
  obtain ⟨actions, final, all, reached, met⟩ := leads
  exact ⟨actions, final, fun action member => allows action (all action member), reached,
    implies final met⟩

/-- A system leads to where one that it follows step by step does. -/
theorem lift {Outer Move : Type*} {outer : System Outer Move} {permitted : Move → Prop}
    (view : Outer → State) (kept : Outer → Prop)
    (follows : ∀ state action next, allowed action → kept state →
      system.step (view state) action = some next →
        ∃ move after, permitted move ∧ outer.step state move = some after ∧ view after = next ∧
          kept after)
    {start : Outer} (initial : kept start) (leads : system.Leads allowed (view start) goal) :
    outer.Leads permitted start fun after => goal (view after) ∧ kept after := by
  obtain ⟨actions, final, all, reached, met⟩ := leads
  induction actions generalizing start with
  | nil =>
      obtain rfl := Option.some.inj reached
      exact .here ⟨met, initial⟩
  | cons action rest ih =>
      obtain ⟨next, stepped, later⟩ := Option.bind_eq_some_iff.mp reached
      obtain ⟨allows, others⟩ := List.forall_mem_cons.mp all
      obtain ⟨move, after, permits, moved, rfl, kept⟩ := follows _ _ _ allows initial stepped
      exact .after moved permits (ih kept others later)

end Leads

end System

end Foundation
