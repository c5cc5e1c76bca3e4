import Mathlib.Data.List.TakeWhile

/-! # A gate that opens once

A gate that is shut lets nothing pass until an item opens it, and then everything, that
item first.
-/

namespace Foundation

variable {Item : Type*} (opens : Item → Bool)

/-- What passes a gate. -/
def passing (shut : Bool) (items : List Item) : List Item :=
  if shut then items.dropWhile fun item => !opens item else items

variable {opens} {shut : Bool} {item : Item} {items less : List Item}

theorem mem_of_mem_passing (passes : item ∈ passing opens shut items) : item ∈ items := by
  unfold passing at passes
  split at passes
  · exact List.dropWhile_subset _ passes
  · exact passes

/-- A shut gate that no item opens lets none pass. -/
theorem not_mem_passing (closed : ∀ item ∈ items, opens item = false) :
    item ∉ passing opens true items := by
  unfold passing
  rw [if_pos rfl, List.dropWhile_eq_nil_iff.mpr]
  · exact List.not_mem_nil
  · intro item member
    rw [closed item member]
    rfl

theorem passing_cons_of_opens (opened : opens item = true) :
    passing opens shut (item :: items) = item :: items := by
  unfold passing
  split
  · rw [List.dropWhile_cons_of_neg]
    rw [opened]
    exact Bool.false_ne_true
  · rfl

theorem passing_cons_of_not_opens (closed : opens item = false) :
    passing opens true (item :: items) = passing opens true items := by
  unfold passing
  rw [if_pos rfl, if_pos rfl, List.dropWhile_cons_of_pos]
  rw [closed]
  rfl

/-- Of fewer items, fewer pass. -/
theorem mem_passing_of_sublist (fewer : less.Sublist items)
    (passes : item ∈ passing opens shut less) : item ∈ passing opens shut items := by
  cases shut with
  | false => exact fewer.subset passes
  | true =>
      induction fewer with
      | slnil => exact passes
      | @cons less items first _ ih =>
          cases opened : opens first with
          | true =>
              rw [passing_cons_of_opens opened]
              exact List.mem_cons_of_mem _ (mem_of_mem_passing (ih passes))
          | false =>
              rw [passing_cons_of_not_opens opened]
              exact ih passes
      | @cons_cons less items first same ih =>
          cases opened : opens first with
          | true =>
              rw [passing_cons_of_opens opened] at passes ⊢
              exact (same.cons_cons first).subset passes
          | false =>
              rw [passing_cons_of_not_opens opened] at passes ⊢
              exact ih passes

/-- What is added passes, or not; what was there before passes as before. -/
theorem mem_passing_append (passes : item ∈ passing opens shut (items ++ less)) :
    item ∈ passing opens shut items ∨ item ∈ less := by
  cases shut with
  | false => exact List.mem_append.mp passes
  | true =>
      unfold passing at passes ⊢
      rw [if_pos rfl] at passes ⊢
      rw [List.dropWhile_append] at passes
      split at passes
      · exact .inr (List.dropWhile_subset _ passes)
      · exact List.mem_append.mp passes

/-- An item that does not open a gate passes twice only if it passes once. -/
theorem mem_passing_twice (closed : opens item = false) {other : Item}
    (passes : other ∈ passing opens shut (items ++ [item] ++ [item])) :
    other ∈ passing opens shut (items ++ [item]) := by
  cases shut with
  | false =>
      rcases List.mem_append.mp passes with earlier | last
      · exact earlier
      · exact List.mem_append_right _ last
  | true =>
      unfold passing at passes ⊢
      rw [if_pos rfl] at passes ⊢
      rw [List.dropWhile_append] at passes
      split at passes
      · rw [List.dropWhile_cons_of_pos (by rw [closed]; rfl)] at passes
        cases passes
      · rename_i some_pass
        rcases List.mem_append.mp passes with earlier | last
        · exact earlier
        · rw [List.dropWhile_append] at some_pass ⊢
          split at some_pass
          · rw [List.dropWhile_cons_of_pos (by rw [closed]; rfl)] at some_pass
            exact (some_pass rfl).elim
          · rename_i opened
            rw [if_neg opened]
            exact List.mem_append_right _ last

end Foundation
