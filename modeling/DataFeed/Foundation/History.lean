import Mathlib.Data.List.Induction
import Mathlib.Logic.Basic

/-! # Laws of a history

A history is the list of what has happened, oldest first. A law relates an
event to the events before it, and holds along a history when it holds of each
of its events. Such a statement is established one event at a time
(`along_concat`), so it fits the induction over the steps of a system.
-/

namespace Foundation

variable {Event : Type*} {law : List Event → Event → Prop}

/-- An event of a history extended by others is in the one part or the other. -/
theorem split_append {log events past later : List Event} {event : Event}
    (split : log ++ events = past ++ event :: later) :
    (∃ rest, log = past ++ event :: rest ∧ later = rest ++ events) ∨
      ∃ front, past = log ++ front ∧ events = front ++ event :: later := by
  rcases List.append_eq_append_iff.mp split with ⟨front, same, rest⟩ | ⟨rest, same, later⟩
  · exact Or.inr ⟨front, same, rest⟩
  · cases rest with
    | nil => exact Or.inr ⟨[], by rw [same, List.append_nil, List.append_nil], later.symm⟩
    | cons first rest =>
        obtain ⟨rfl, rfl⟩ := List.cons.inj later
        exact Or.inl ⟨rest, same, rfl⟩

/-- Every event of the history obeys the law, given the events before it. -/
def Along (law : List Event → Event → Prop) (history : List Event) : Prop :=
  ∀ past event future, history = past ++ event :: future → law past event

namespace Along

@[simp] theorem nil : Along law [] := by
  intro past event future split
  exact (List.append_ne_nil_of_right_ne_nil past (List.cons_ne_nil event future) split.symm).elim

/-- A history one event longer obeys the law if the new event does. -/
theorem concat {history : List Event} {event : Event} (held : Along law history)
    (next : law history event) : Along law (history ++ [event]) := by
  intro past last future split
  rcases List.eq_nil_or_concat future with rfl | ⟨earlier, final, rfl⟩
  · obtain ⟨rfl, same⟩ := List.append_inj' split rfl
    obtain rfl := List.singleton_inj.mp same
    exact next
  · have shorter : (history ++ [event]) = (past ++ last :: earlier) ++ [final] := by
      rw [split, List.append_assoc, List.cons_append, List.concat_eq_append]
    obtain ⟨rfl, _⟩ := List.append_inj' shorter rfl
    exact held past last earlier rfl

theorem of_append {earlier later : List Event} (held : Along law (earlier ++ later)) :
    Along law earlier := by
  rintro past event future rfl
  exact held past event (future ++ later) (by rw [List.append_assoc, List.cons_append])

theorem concat_iff {history : List Event} {event : Event} :
    Along law (history ++ [event]) ↔ Along law history ∧ law history event :=
  ⟨fun held => ⟨held.of_append, held history event [] rfl⟩, fun held => held.1.concat held.2⟩

/-- A history extended by several events obeys the law if each of them does. -/
theorem append {earlier later : List Event} (held : Along law earlier)
    (next : Along (fun past => law (earlier ++ past)) later) : Along law (earlier ++ later) := by
  induction later using List.reverseRecOn with
  | nil => rwa [List.append_nil]
  | append_singleton later event ih =>
      obtain ⟨before, last⟩ := concat_iff.mp next
      rw [← List.append_assoc]
      exact (ih before).concat last

end Along

end Foundation
