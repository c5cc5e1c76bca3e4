import Mathlib.Data.List.Basic
import Mathlib.Data.List.Range

/-! # Numbers that must follow each other

Whoever receives numbered items acts on an item whose number is higher than all
before it, and leaves the others alone. The numbers acted on are consecutive
(`Contiguous.consecutive`) if none skips past the one after the highest so far, which
whoever keeps the highest number can tell from that number alone.
-/

namespace Foundation

/-- What a number says about its item, given the highest number before it. -/
inductive Arrival where
  | stale
  | next
  | skipping
  deriving DecidableEq, Repr

/-- Compares a number with the highest before it. -/
def arrival (last : Option UInt64) (number : UInt64) : Arrival :=
  match last with
  | none => .next
  | some last =>
      if number ≤ last then .stale else if number.toNat = last.toNat + 1 then .next else .skipping

/-- A number is stale if it is none after the highest. -/
theorem arrival_eq_stale_iff {last number : UInt64} :
    arrival (some last) number = .stale ↔ number ≤ last := by
  unfold arrival
  dsimp only
  split
  · exact iff_of_true rfl ‹_›
  · split
    · exact iff_of_false nofun ‹_›
    · exact iff_of_false nofun ‹_›

/-- A number skips if it leaves out some after the highest. -/
theorem arrival_eq_skipping_iff {last number : UInt64} :
    arrival (some last) number = .skipping ↔ last.toNat + 1 < number.toNat := by
  unfold arrival
  dsimp only
  split
  · rename_i stale
    rw [UInt64.le_iff_toNat_le] at stale
    exact iff_of_false nofun (by omega)
  · rename_i higher
    rw [UInt64.le_iff_toNat_le] at higher
    split
    · exact iff_of_false nofun (by omega)
    · exact iff_of_true rfl (by omega)

/-- A number that is one after the highest is next, and so is the first of all. -/
theorem arrival_eq_next {last : Option UInt64} {number : UInt64}
    (follows : ∀ known, last = some known → number.toNat = known.toNat + 1) :
    arrival last number = .next := by
  cases last with
  | none => rfl
  | some known =>
      have one := follows known rfl
      have higher : ¬ number ≤ known := by
        rw [UInt64.le_iff_toNat_le]
        omega
      simp only [arrival, higher, if_false, one, if_true]

/-- The numbers higher than all before them. -/
def fresh (last : Option UInt64) : List UInt64 → List UInt64
  | [] => []
  | number :: rest =>
      match arrival last number with
      | .stale => fresh last rest
      | .next | .skipping => number :: fresh (some number) rest

/-- The highest number. -/
def latest (last : Option UInt64) (numbers : List UInt64) : Option UInt64 :=
  (fresh last numbers).getLast?.or last

/-- No number skips past the one after the highest before it. -/
def Contiguous (last : Option UInt64) : List UInt64 → Prop
  | [] => True
  | number :: rest =>
      match arrival last number with
      | .stale => Contiguous last rest
      | .next => Contiguous (some number) rest
      | .skipping => False

theorem latest_cons (last : Option UInt64) (number : UInt64) (rest : List UInt64) :
    latest last (number :: rest) =
      match arrival last number with
      | .stale => latest last rest
      | .next | .skipping => latest (some number) rest := by
  change (fresh last (number :: rest)).getLast?.or last = _
  rw [fresh]
  cases arrival last number with
  | stale => rfl
  | next | skipping =>
      dsimp only
      rw [List.getLast?_cons, latest]
      cases (fresh (some number) rest).getLast? <;> rfl

theorem fresh_append (last : Option UInt64) (first second : List UInt64) :
    fresh last (first ++ second) = fresh last first ++ fresh (latest last first) second := by
  induction first generalizing last with
  | nil => rfl
  | cons number rest ih =>
      rw [List.cons_append, fresh, latest_cons]
      cases present : arrival last number with
      | stale => simp only [fresh, present, ih]
      | next | skipping => simp only [fresh, present, ih, List.cons_append]

theorem latest_append (last : Option UInt64) (first second : List UInt64) :
    latest last (first ++ second) = latest (latest last first) second := by
  induction first generalizing last with
  | nil => rfl
  | cons number rest ih =>
      rw [List.cons_append, latest_cons, latest_cons]
      cases arrival last number with
      | stale => exact ih last
      | next | skipping => exact ih (some number)

theorem fresh_sublist (last : Option UInt64) (numbers : List UInt64) :
    (fresh last numbers).Sublist numbers := by
  induction numbers generalizing last with
  | nil => exact .slnil
  | cons number rest ih =>
      rw [fresh]
      cases arrival last number with
      | stale => exact (ih last).cons number
      | next | skipping => exact (ih (some number)).cons_cons number

/-- The highest of some numbers is one of them. -/
theorem latest_none {numbers : List UInt64} (started : numbers ≠ []) :
    ∃ highest ∈ numbers, latest none numbers = some highest := by
  obtain ⟨number, rest, rfl⟩ := List.exists_cons_of_ne_nil started
  have first : latest none (number :: rest) = latest (some number) rest := latest_cons _ _ _
  rw [first, latest]
  cases last : (fresh (some number) rest).getLast? with
  | none => exact ⟨number, List.mem_cons_self, rfl⟩
  | some highest =>
      have member := (fresh_sublist _ _).subset (List.mem_of_getLast? last)
      exact ⟨highest, List.mem_cons_of_mem _ member, rfl⟩

namespace Contiguous

theorem append_iff {last : Option UInt64} {first second : List UInt64} :
    Contiguous last (first ++ second) ↔
      Contiguous last first ∧ Contiguous (latest last first) second := by
  induction first generalizing last with
  | nil => exact (iff_of_eq (true_and _)).symm
  | cons number rest ih =>
      rw [List.cons_append, Contiguous, Contiguous, latest_cons]
      cases arrival last number with
      | stale => exact ih
      | next => exact ih
      | skipping => exact iff_of_false not_false And.left

/-- The numbers acted on are one after another. -/
theorem consecutive {last : Option UInt64} {numbers : List UInt64}
    (contiguous : Contiguous last numbers) :
    ∃ first, (fresh last numbers).map UInt64.toNat =
        List.range' first (fresh last numbers).length ∧
      ∀ highest, last = some highest → first = highest.toNat + 1 := by
  induction numbers generalizing last with
  | nil =>
      cases last with
      | none => exact ⟨0, rfl, fun _ none => nomatch none⟩
      | some highest => exact ⟨highest.toNat + 1, rfl, fun _ same => by rw [Option.some.inj same]⟩
  | cons number rest ih =>
      unfold Contiguous at contiguous
      unfold fresh
      cases present : arrival last number with
      | stale =>
          rw [present] at contiguous
          exact ih contiguous
      | skipping =>
          rw [present] at contiguous
          exact contiguous.elim
      | next =>
          rw [present] at contiguous
          obtain ⟨first, consecutive, follows⟩ := ih contiguous
          obtain rfl := follows number rfl
          refine ⟨number.toNat, ?_, fun highest known => ?_⟩
          · rw [List.map_cons, consecutive, List.length_cons, List.range'_succ]
          · subst known
            unfold arrival at present
            dsimp only at present
            split at present
            · contradiction
            · split at present
              · assumption
              · contradiction

/-- Every number is at most one past some number before it, unless it is the first. -/
theorem no_skip {numbers past later : List UInt64} {number : UInt64}
    (contiguous : Contiguous none numbers) (split : numbers = past ++ number :: later)
    (started : past ≠ []) : ∃ earlier ∈ past, number.toNat ≤ earlier.toNat + 1 := by
  rw [split, append_iff] at contiguous
  obtain ⟨highest, member, known⟩ := latest_none started
  have follows := contiguous.2
  rw [known, Contiguous, arrival] at follows
  refine ⟨highest, member, ?_⟩
  by_cases stale : number ≤ highest
  · exact Nat.le_succ_of_le (UInt64.le_iff_toNat_le.mp stale)
  · by_cases next : number.toNat = highest.toNat + 1
    · exact Nat.le_of_eq next
    · simp only [stale, next, ↓reduceIte] at follows

end Contiguous

end Foundation
