import Mathlib.Data.List.Chain

/-! # Numbers that show what was left out

A sender gives every item the next number and passes some of them on. Who sees
only what was passed on can tell from the numbers how many items were left out,
and that none were between two consecutive numbers, as long as the numbers have
not come round.
-/

namespace Foundation

variable {Item Frame : Type*} {number : Item → UInt64} {kept : Item → Option Frame}
  {label : Frame → UInt64}

/-- The items carry the numbers from `start` on, one each, in order. -/
def NumberedFrom (number : Item → UInt64) (start : Nat) : List Item → Prop
  | [] => True
  | item :: rest => number item = UInt64.ofNat start ∧ NumberedFrom number (start + 1) rest

namespace NumberedFrom

theorem append_iff {start : Nat} {first second : List Item} :
    NumberedFrom number start (first ++ second) ↔
      NumberedFrom number start first ∧ NumberedFrom number (start + first.length) second := by
  induction first generalizing start with
  | nil => simp only [List.nil_append, NumberedFrom, List.length_nil, Nat.add_zero, true_and]
  | cons item rest ih =>
      simp only [List.cons_append, NumberedFrom, ih, List.length_cons, and_assoc,
        Nat.add_assoc, Nat.add_comm 1]

/-- The number of the item after `earlier`. -/
theorem number_eq {start : Nat} {earlier later : List Item} {item : Item}
    (numbered : NumberedFrom number start (earlier ++ item :: later)) :
    number item = UInt64.ofNat (start + earlier.length) :=
  (append_iff.mp numbered).2.1

variable (labels : ∀ item frame, kept item = some frame → label frame = number item)
include labels

/-- Every frame passed on has one of the numbers given out. -/
theorem label_ge {start : Nat} {items : List Item} (numbered : NumberedFrom number start items)
    (few : start + items.length ≤ UInt64.size) :
    ∀ frame ∈ items.filterMap kept, start ≤ (label frame).toNat := by
  intro frame member
  obtain ⟨item, listed, passed⟩ := List.mem_filterMap.mp member
  obtain ⟨earlier, later, rfl⟩ := List.append_of_mem listed
  rw [List.length_append, List.length_cons] at few
  have small : start + earlier.length < UInt64.size := by omega
  rw [labels item frame passed, numbered.number_eq, UInt64.toNat_ofNat_of_lt' small]
  exact Nat.le_add_right _ _

/-- What is passed on has increasing numbers. -/
theorem increasing {start : Nat} {items : List Item} (numbered : NumberedFrom number start items)
    (few : start + items.length ≤ UInt64.size) :
    (items.filterMap kept).Pairwise fun first second => label first < label second := by
  induction items generalizing start with
  | nil => exact .nil
  | cons item rest ih =>
      obtain ⟨here, numbered⟩ := numbered
      rw [List.length_cons] at few
      have tail := ih numbered (by omega)
      rw [List.filterMap_cons]
      cases passed : kept item with
      | none => exact tail
      | some frame =>
          refine List.pairwise_cons.mpr ⟨fun other member => ?_, tail⟩
          have later := numbered.label_ge labels (by omega) other member
          have small : start < UInt64.size := by omega
          rw [UInt64.lt_iff_toNat_lt, labels item frame passed, here,
            UInt64.toNat_ofNat_of_lt' small]
          omega

/-- Between two frames passed on one after the other, exactly as many items were
left out as their numbers skip. -/
theorem skipped {start : Nat} {items : List Item} (numbered : NumberedFrom number start items)
    (few : start + items.length ≤ UInt64.size) {before after : List Frame} {first second : Frame}
    (adjacent : items.filterMap kept = before ++ first :: second :: after) :
    ∃ earlier left dropped right later, items = earlier ++ left :: (dropped ++ right :: later) ∧
      kept left = some first ∧ (∀ item ∈ dropped, kept item = none) ∧ kept right = some second ∧
      (label second).toNat = (label first).toNat + dropped.length + 1 := by
  obtain ⟨past, future, rfl, _, split⟩ := List.filterMap_eq_append_iff.mp adjacent
  obtain ⟨quiet, left, rest, rfl, _, passed, split⟩ := List.filterMap_eq_cons_iff.mp split
  obtain ⟨dropped, right, later, rfl, out, next, _⟩ := List.filterMap_eq_cons_iff.mp split
  refine ⟨past ++ quiet, left, dropped, right, later, ?_, passed, out, next, ?_⟩
  · simp only [List.append_assoc]
  · have numberLeft := (append_iff.mp numbered).2.number_eq
    have numberRight := ((append_iff.mp (append_iff.mp numbered).2).2.2).number_eq
    simp only [List.length_append, List.length_cons] at few
    have smallLeft : start + past.length + quiet.length < UInt64.size := by omega
    have smallRight :
        start + past.length + quiet.length + 1 + dropped.length < UInt64.size := by omega
    rw [labels left first passed, labels right second next, numberLeft, numberRight,
      UInt64.toNat_ofNat_of_lt' smallLeft, UInt64.toNat_ofNat_of_lt' smallRight]
    omega

/-- After an item passed on, frames with consecutive numbers stand for the items
that come next. -/
theorem consecutive_after {start : Nat} {left : Item} {rest : List Item}
    (numbered : NumberedFrom number start (left :: rest))
    (few : start + (left :: rest).length ≤ UInt64.size) {first : Frame} {block after : List Frame}
    (passed : kept left = some first) (following : rest.filterMap kept = block ++ after)
    (chain : (first :: block).IsChain fun first second => label second = label first + 1) :
    ∃ segment later, rest = segment ++ later ∧ segment.map kept = block.map some := by
  induction block generalizing start left rest first with
  | nil => exact ⟨[], rest, rfl, rfl⟩
  | cons second block ih =>
      obtain ⟨step, chain⟩ := List.isChain_cons_cons.mp chain
      obtain ⟨dropped, right, later, rfl, _, next, onward⟩ :=
        List.filterMap_eq_cons_iff.mp following
      obtain ⟨here, numbered⟩ := numbered
      simp only [List.length_cons, List.length_append] at few
      have numberRight := numbered.number_eq
      rw [labels left first passed, labels right second next, here, numberRight,
        ← UInt64.ofNat_one, ← UInt64.ofNat_add] at step
      have smallRight : start + 1 + dropped.length < UInt64.size := by omega
      have smallNext : start + 1 < UInt64.size := by omega
      have lengths := congrArg UInt64.toNat step
      rw [UInt64.toNat_ofNat_of_lt' smallRight, UInt64.toNat_ofNat_of_lt' smallNext] at lengths
      obtain rfl := List.length_eq_zero_iff.mp (by omega : dropped.length = 0)
      rw [List.nil_append] at numbered
      obtain ⟨segment, later, rfl, same⟩ := ih numbered
        (by simp only [List.length_cons]; omega) next onward chain
      exact ⟨right :: segment, later, rfl, by simp only [List.map_cons, next, same]⟩

/-- Frames with consecutive numbers, passed on one after the other, stand for
consecutive items: nothing was left out between them. -/
theorem consecutive {start : Nat} {items : List Item} (numbered : NumberedFrom number start items)
    (few : start + items.length ≤ UInt64.size) {before block after : List Frame}
    (passed : items.filterMap kept = before ++ block ++ after)
    (chain : block.IsChain fun first second => label second = label first + 1) :
    ∃ earlier segment later, items = earlier ++ segment ++ later ∧
      segment.map kept = block.map some := by
  cases block with
  | nil => exact ⟨items, [], [], by simp only [List.append_nil], rfl⟩
  | cons first block =>
      rw [List.append_assoc, List.cons_append] at passed
      obtain ⟨past, future, rfl, _, split⟩ := List.filterMap_eq_append_iff.mp passed
      obtain ⟨quiet, left, rest, rfl, _, keeps, following⟩ := List.filterMap_eq_cons_iff.mp split
      have numberedLeft := (append_iff.mp (append_iff.mp numbered).2).2
      simp only [List.length_append, List.length_cons] at few
      obtain ⟨segment, later, rfl, same⟩ := consecutive_after labels numberedLeft
        (by simp only [List.length_cons]; omega) keeps following chain
      refine ⟨past ++ quiet, left :: segment, later, ?_, ?_⟩
      · simp only [List.append_assoc, List.cons_append]
      · simp only [List.map_cons, keeps, same]

end NumberedFrom

end Foundation
