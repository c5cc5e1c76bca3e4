import Mathlib.Data.List.Induction
import Mathlib.Data.List.Nodup

/-! # Linearizability

A concurrent history of calls is linearizable if the calls can be put in one order
in which a sequential specification allows them, and in which a call that ended
before another was made comes first. The order is built along the history: a call
joins it at the moment it takes effect, between its invocation and its response
(`Linearized.invoke`, `Linearized.effect`, `Linearized.respond`).
-/

namespace Foundation

/-- What is seen of a call from outside. -/
inductive CallEvent (Operation Outcome : Type*) where
  | invoke (call : Nat) (operation : Operation)
  | respond (call : Nat) (outcome : Outcome)

/-- A call and how it ended. -/
structure Effect (Operation Outcome : Type*) where
  call : Nat
  operation : Operation
  outcome : Outcome

variable {State Operation Outcome : Type*}

/-- What a sequential object allows: an operation with its outcome takes a state to
another. -/
abbrev Specification (State Operation Outcome : Type*) :=
  State → Operation → Outcome → State → Prop

/-- The calls, one after another, take the object from one state to another. -/
inductive Sequential (allowed : Specification State Operation Outcome) (start : State) :
    List (Effect Operation Outcome) → State → Prop
  | nil : Sequential allowed start [] start
  | concat {order : List (Effect Operation Outcome)} {state next : State}
      {effect : Effect Operation Outcome} :
      Sequential allowed start order state →
      allowed state effect.operation effect.outcome next →
        Sequential allowed start (order ++ [effect]) next

namespace Sequential

variable {allowed : Specification State Operation Outcome} {start state : State}

/-- No effects leave the state where it was. -/
theorem nil_iff : Sequential allowed start [] state ↔ state = start := by
  refine ⟨fun sequential => ?_, fun same => same ▸ .nil⟩
  generalize none : ([] : List (Effect Operation Outcome)) = order at sequential
  cases sequential with
  | nil => rfl
  | concat => exact (List.append_ne_nil_of_right_ne_nil _ (List.cons_ne_nil _ _) none.symm).elim

/-- Effects are taken one after the other, the last one last. -/
theorem concat_iff {order : List (Effect Operation Outcome)} {effect : Effect Operation Outcome} :
    Sequential allowed start (order ++ [effect]) state ↔
      ∃ middle, Sequential allowed start order middle ∧
        allowed middle effect.operation effect.outcome state := by
  refine ⟨fun sequential => ?_, fun ⟨_, before, last⟩ => before.concat last⟩
  generalize whole : order ++ [effect] = all at sequential
  cases sequential with
  | nil => exact (List.append_ne_nil_of_right_ne_nil _ (List.cons_ne_nil _ _) whole).elim
  | concat before last =>
      obtain ⟨rfl, same⟩ := List.append_inj' whole rfl
      obtain rfl := List.singleton_inj.mp same
      exact ⟨_, before, last⟩

/-- Effects are taken one after the other, the first list first. -/
theorem append_iff {first second : List (Effect Operation Outcome)} :
    Sequential allowed start (first ++ second) state ↔
      ∃ middle, Sequential allowed start first middle ∧
        Sequential allowed middle second state := by
  induction second using List.reverseRecOn generalizing state with
  | nil =>
      rw [List.append_nil]
      constructor
      · exact fun sequential => ⟨state, sequential, .nil⟩
      · rintro ⟨middle, before, after⟩
        exact nil_iff.mp after ▸ before
  | append_singleton second effect ih =>
      rw [← List.append_assoc, concat_iff]
      constructor
      · rintro ⟨last, sequential, allows⟩
        obtain ⟨middle, before, after⟩ := ih.mp sequential
        exact ⟨middle, before, after.concat allows⟩
      · rintro ⟨middle, before, after⟩
        obtain ⟨last, sequential, allows⟩ := concat_iff.mp after
        exact ⟨last, ih.mpr ⟨middle, before, sequential⟩, allows⟩

/-- Effects are taken one after the other, the first one first. -/
theorem cons_iff {effect : Effect Operation Outcome} {order : List (Effect Operation Outcome)} :
    Sequential allowed start (effect :: order) state ↔
      ∃ middle, allowed start effect.operation effect.outcome middle ∧
        Sequential allowed middle order state := by
  rw [← List.singleton_append, append_iff]
  constructor
  · rintro ⟨middle, one, rest⟩
    rw [← List.nil_append [effect], concat_iff] at one
    obtain ⟨_, same, allows⟩ := one
    exact ⟨middle, nil_iff.mp same ▸ allows, rest⟩
  · rintro ⟨middle, allows, rest⟩
    exact ⟨middle, Sequential.nil.concat allows, rest⟩

end Sequential

/-- The first call ended before the second was made. -/
def Precedes (history : List (CallEvent Operation Outcome)) (first second : Nat) : Prop :=
  ∃ past outcome later operation, history = past ++ .respond first outcome :: later ∧
    .invoke second operation ∈ later

/-- An order of a history's calls that explains it, and the state it leaves. -/
structure Linearized (allowed : Specification State Operation Outcome) (start : State)
    (history : List (CallEvent Operation Outcome)) (order : List (Effect Operation Outcome))
    (state : State) : Prop where
  sequential : Sequential allowed start order state
  once : (order.map Effect.call).Nodup
  invoked : ∀ effect ∈ order, .invoke effect.call effect.operation ∈ history
  answered : ∀ call outcome, .respond call outcome ∈ history →
    ∃ effect ∈ order, effect.call = call ∧ effect.outcome = outcome
  ordered : ∀ first ∈ order, ∀ second ∈ order, Precedes history first.call second.call →
    [first, second].Sublist order

/-- Some order of the calls explains the history. -/
def Linearizable (allowed : Specification State Operation Outcome) (start : State)
    (history : List (CallEvent Operation Outcome)) : Prop :=
  ∃ order state, Linearized allowed start history order state

/-- A new event makes calls precede another only if it is that call's invocation. -/
theorem Precedes.of_concat {history : List (CallEvent Operation Outcome)}
    {event : CallEvent Operation Outcome} {first second : Nat}
    (precedes : Precedes (history ++ [event]) first second) :
    Precedes history first second ∨ ∃ operation, event = .invoke second operation := by
  obtain ⟨past, outcome, later, operation, split, member⟩ := precedes
  rcases List.eq_nil_or_concat later with rfl | ⟨earlier, last, rfl⟩
  · exact (List.not_mem_nil member).elim
  · rw [List.concat_eq_append] at split member
    rw [← List.cons_append, ← List.append_assoc] at split
    obtain ⟨rfl, same⟩ := List.append_inj' split rfl
    obtain rfl := List.singleton_inj.mp same
    rcases List.mem_append.mp member with before | here
    · exact Or.inl ⟨past, outcome, earlier, operation, rfl, before⟩
    · exact Or.inr ⟨operation, (List.mem_singleton.mp here).symm⟩

/-- A call that precedes another has responded. -/
theorem Precedes.responded {history : List (CallEvent Operation Outcome)} {first second : Nat}
    (precedes : Precedes history first second) : ∃ outcome, .respond first outcome ∈ history := by
  obtain ⟨past, outcome, later, _, rfl, _⟩ := precedes
  exact ⟨outcome, List.mem_append_right _ List.mem_cons_self⟩

namespace Linearized

variable {allowed : Specification State Operation Outcome} {start state : State}
  {history : List (CallEvent Operation Outcome)} {order : List (Effect Operation Outcome)}

/-- A call takes effect once. -/
theorem effect_once {front back : List (Effect Operation Outcome)}
    {effect other : Effect Operation Outcome}
    (linearized : Linearized allowed start history (front ++ effect :: back) state)
    (member : other ∈ front ++ back) : other.call ≠ effect.call := by
  have once := linearized.once
  rw [List.map_append, List.map_cons, List.nodup_middle, List.nodup_cons, ← List.map_append] at once
  exact fun same => once.1 (List.mem_map.mpr ⟨other, member, same⟩)

/-- The empty history is linearized by no effects. -/
theorem nil : Linearized allowed start [] [] start where
  sequential := .nil
  once := List.nodup_nil
  invoked _ member := (List.not_mem_nil member).elim
  answered _ _ member := (List.not_mem_nil member).elim
  ordered _ member := (List.not_mem_nil member).elim

/-- A new call is made. -/
theorem invoke (linearized : Linearized allowed start history order state) {call : Nat}
    (fresh : ∀ operation, .invoke call operation ∉ history) (operation : Operation) :
    Linearized allowed start (history ++ [.invoke call operation]) order state where
  sequential := linearized.sequential
  once := linearized.once
  invoked effect member := List.mem_append_left _ (linearized.invoked effect member)
  answered other outcome member := by
    rcases List.mem_append.mp member with old | new
    · exact linearized.answered other outcome old
    · cases List.mem_singleton.mp new
  ordered first before second after precedes := by
    rcases precedes.of_concat with old | ⟨_, same⟩
    · exact linearized.ordered first before second after old
    · obtain ⟨rfl, _⟩ := CallEvent.invoke.inj same
      exact (fresh _ (linearized.invoked second after)).elim

/-- A call that was made takes effect. -/
theorem effect (linearized : Linearized allowed start history order state) {next : State}
    {effect : Effect Operation Outcome}
    (made : .invoke effect.call effect.operation ∈ history)
    (pending : ∀ other ∈ order, other.call ≠ effect.call)
    (allows : allowed state effect.operation effect.outcome next) :
    Linearized allowed start history (order ++ [effect]) next where
  sequential := linearized.sequential.concat allows
  once := by
    rw [List.map_append, List.map_singleton, ← List.concat_eq_append]
    refine List.Nodup.concat (fun member => ?_) linearized.once
    obtain ⟨other, listed, same⟩ := List.mem_map.mp member
    exact pending other listed same
  invoked other member := by
    rcases List.mem_append.mp member with old | new
    · exact linearized.invoked other old
    · rw [List.mem_singleton.mp new]
      exact made
  answered call outcome member := by
    obtain ⟨other, listed, same⟩ := linearized.answered call outcome member
    exact ⟨other, List.mem_append_left _ listed, same⟩
  ordered first before second after precedes := by
    rcases List.mem_append.mp before with old | new
    · rcases List.mem_append.mp after with earlier | last
      · exact (linearized.ordered first old second earlier precedes).trans
          (List.sublist_append_left _ _)
      · rw [List.mem_singleton.mp last]
        exact (List.singleton_sublist.mpr old).append (List.Sublist.refl [effect])
    · obtain ⟨outcome, responded⟩ := precedes.responded
      obtain ⟨other, listed, same, _⟩ := linearized.answered _ _ responded
      rw [List.mem_singleton.mp new] at same
      exact (pending other listed same).elim

/-- A call that took effect ends. -/
theorem respond (linearized : Linearized allowed start history order state)
    {effect : Effect Operation Outcome} (effected : effect ∈ order) :
    Linearized allowed start (history ++ [.respond effect.call effect.outcome]) order state where
  sequential := linearized.sequential
  once := linearized.once
  invoked other member := List.mem_append_left _ (linearized.invoked other member)
  answered call outcome member := by
    rcases List.mem_append.mp member with old | new
    · exact linearized.answered call outcome old
    · obtain ⟨rfl, rfl⟩ := CallEvent.respond.inj (List.mem_singleton.mp new)
      exact ⟨effect, effected, rfl, rfl⟩
  ordered first before second after precedes := by
    rcases precedes.of_concat with old | ⟨_, same⟩
    · exact linearized.ordered first before second after old
    · cases same

end Linearized

end Foundation
