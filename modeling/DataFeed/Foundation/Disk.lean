import Mathlib.Data.List.Infix

/-! # A directory shared by several writers

A directory maps names to files, and a writer that has opened a file keeps it, whatever
becomes of its name. Opening a name truncates the file that has it; renaming takes the
name from the file that had it, and an unnamed file is lost. What is kept over a step is
said of the files (`Keeps`), which may get other names and more records.
-/

namespace Foundation

/-- A directory, and the records of its files. -/
structure Disk (Record : Type*) where
  entries : String → Option Nat
  records : Nat → List Record
  /-- The first number that no file has. -/
  next : Nat
  numbered : ∀ name file, entries name = some file → file < next

namespace Disk

variable {Record : Type*}

/-- Opens a name for writing: its file is emptied, or made if there is none. -/
def create (disk : Disk Record) (name : String) : Disk Record × Nat :=
  match known : disk.entries name with
  | some file =>
      ({ disk with records := fun other => if other = file then [] else disk.records other }, file)
  | none =>
      ({ entries := fun other => if other = name then some disk.next else disk.entries other
         records := fun other => if other = disk.next then [] else disk.records other
         next := disk.next + 1
         numbered := by
           intro other file listed
           split at listed
           · rw [← Option.some.inj listed]
             exact Nat.lt_succ_self _
           · exact Nat.lt_succ_of_lt (disk.numbered other file listed) },
        disk.next)

/-- Adds a record to a file. -/
def append (disk : Disk Record) (file : Nat) (record : Record) : Disk Record :=
  { disk with
    records := fun other =>
      if other = file then disk.records file ++ [record] else disk.records other }

/-- Gives a file another name, in place of the file that had it; fails without a file. -/
def rename (disk : Disk Record) (source target : String) : Option (Disk Record) :=
  match known : disk.entries source with
  | none => none
  | some file =>
      if disk.entries target = some file then some disk
      else some
        { disk with
          entries := fun other =>
            if other = target then some file
            else if other = source then none
            else disk.entries other
          numbered := by
            intro other listed same
            split at same
            · rw [← Option.some.inj same]
              exact disk.numbered source file known
            · split at same
              · contradiction
              · exact disk.numbered other listed same }

/-- Some file has the name. -/
def holds (disk : Disk Record) (name : String) : Bool := (disk.entries name).isSome

/-- Every file with a name and records still has a name, its records, and those that were
added to them. -/
def Keeps (before after : Disk Record) : Prop :=
  ∀ name file, before.entries name = some file → before.records file ≠ [] →
    (∃ name, after.entries name = some file) ∧ before.records file <+: after.records file

/-- A disk keeps its own contents. -/
theorem Keeps.refl (disk : Disk Record) : disk.Keeps disk := fun name _ listed _ =>
  ⟨⟨name, listed⟩, List.prefix_rfl⟩

/-- What is kept twice is kept. -/
theorem Keeps.trans {first second third : Disk Record} (earlier : first.Keeps second)
    (later : second.Keeps third) : first.Keeps third := by
  intro name file listed recorded
  obtain ⟨⟨other, moved⟩, kept⟩ := earlier name file listed recorded
  have still : second.records file ≠ [] := fun empty =>
    recorded (List.prefix_nil.mp (empty ▸ kept))
  obtain ⟨named, more⟩ := later other file moved still
  exact ⟨named, kept.trans more⟩

section Create

variable {disk : Disk Record} {name : String}

/-- Creating an existing name empties its file. -/
theorem create_of_some {file : Nat} (known : disk.entries name = some file) :
    disk.create name =
      ({ disk with records := fun other => if other = file then [] else disk.records other },
        file) := by
  unfold create
  split
  · rename_i other same
    obtain rfl := Option.some.inj (known.symm.trans same)
    rfl
  · rename_i missing
    rw [known] at missing
    contradiction

/-- Creating a new name makes a new, empty file. -/
theorem create_of_none (missing : disk.entries name = none) :
    (disk.create name).2 = disk.next ∧ (disk.create name).1.next = disk.next + 1 ∧
      (∀ other, (disk.create name).1.entries other =
        if other = name then some disk.next else disk.entries other) ∧
      ∀ other, (disk.create name).1.records other =
        if other = disk.next then [] else disk.records other := by
  unfold create
  split
  · rename_i file known
    rw [known] at missing
    contradiction
  · exact ⟨rfl, rfl, fun _ => rfl, fun _ => rfl⟩

/-- The name is the file's that was opened. -/
theorem entries_create_self : (disk.create name).1.entries name = some (disk.create name).2 := by
  cases known : disk.entries name with
  | some file =>
      rw [create_of_some known]
      exact known
  | none =>
      obtain ⟨file, _, entries, _⟩ := create_of_none known
      rw [file, entries, if_pos rfl]

/-- No other name changes. -/
theorem entries_create_of_ne {other : String} (different : other ≠ name) :
    (disk.create name).1.entries other = disk.entries other := by
  cases known : disk.entries name with
  | some file => rw [create_of_some known]
  | none =>
      obtain ⟨_, _, entries, _⟩ := create_of_none known
      rw [entries, if_neg different]

/-- A created file is empty. -/
theorem records_create_self : (disk.create name).1.records (disk.create name).2 = [] := by
  cases known : disk.entries name with
  | some file =>
      rw [create_of_some known]
      exact if_pos rfl
  | none =>
      obtain ⟨file, _, _, records⟩ := create_of_none known
      rw [file, records, if_pos rfl]

/-- No other file changes. -/
theorem records_create_of_ne {other : Nat} (different : other ≠ (disk.create name).2) :
    (disk.create name).1.records other = disk.records other := by
  cases known : disk.entries name with
  | some file =>
      rw [create_of_some known] at different ⊢
      exact if_neg different
  | none =>
      obtain ⟨file, _, _, records⟩ := create_of_none known
      rw [file] at different
      rw [records, if_neg different]

/-- The file that is opened had the name, or is new. -/
theorem create_eq (disk : Disk Record) (name : String) :
    disk.entries name = some (disk.create name).2 ∨
      disk.entries name = none ∧ (disk.create name).2 = disk.next := by
  cases known : disk.entries name with
  | some file =>
      rw [create_of_some known]
      exact Or.inl rfl
  | none => exact Or.inr ⟨rfl, (create_of_none known).1⟩

/-- Opening keeps every file if the one that has the name has no records. -/
theorem keeps_create (vacant : ∀ file, disk.entries name = some file → disk.records file = []) :
    disk.Keeps (disk.create name).1 := by
  intro other file listed recorded
  have different : file ≠ (disk.create name).2 := by
    rintro rfl
    rcases create_eq disk name with same | ⟨_, new⟩
    · exact recorded (vacant _ same)
    · exact absurd (disk.numbered other _ listed) (new ▸ Nat.lt_irrefl _)
  refine ⟨⟨other, ?_⟩, by rw [records_create_of_ne different]⟩
  by_cases same : other = name
  · subst same
    exact (recorded (vacant file listed)).elim
  · rw [entries_create_of_ne same, listed]

end Create

section Append

variable {disk : Disk Record} {file : Nat} {record : Record}

/-- A record is written at the end of its file. -/
theorem records_append_self :
    (disk.append file record).records file = disk.records file ++ [record] := if_pos rfl

/-- The other files are not written to. -/
theorem records_append_of_ne {other : Nat} (different : other ≠ file) :
    (disk.append file record).records other = disk.records other := if_neg different

/-- Writing at the end keeps what was written. -/
theorem keeps_append : disk.Keeps (disk.append file record) := by
  intro name other listed _
  refine ⟨⟨name, listed⟩, ?_⟩
  by_cases same : other = file
  · rw [same, records_append_self]
    exact List.prefix_append _ _
  · rw [records_append_of_ne same]

end Append

section Rename

variable {disk after : Disk Record} {source target : String} {file : Nat}

/-- A rename moves a name to its target and leaves every record where it is. -/
theorem rename_eq_some (renamed : disk.rename source target = some after) :
    ∃ file, disk.entries source = some file ∧ after.records = disk.records ∧
      after.next = disk.next ∧
      (disk.entries target = some file ∧ after = disk ∨
        disk.entries target ≠ some file ∧ ∀ other, after.entries other =
          if other = target then some file
          else if other = source then none
          else disk.entries other) := by
  unfold rename at renamed
  split at renamed
  · contradiction
  · rename_i file known
    refine ⟨file, known, ?_⟩
    split at renamed
    · rename_i same
      obtain rfl := Option.some.inj renamed
      exact ⟨rfl, rfl, Or.inl ⟨same, rfl⟩⟩
    · rename_i other
      obtain rfl := Option.some.inj renamed
      exact ⟨rfl, rfl, Or.inr ⟨other, fun _ => rfl⟩⟩

/-- A name that is neither given nor taken is as before. -/
theorem entries_rename_of_ne (renamed : disk.rename source target = some after) {other : String}
    (kept : other ≠ source) (free : other ≠ target) :
    after.entries other = disk.entries other := by
  obtain ⟨_, _, _, _, ⟨_, rfl⟩ | ⟨_, entries⟩⟩ := rename_eq_some renamed
  · rfl
  · rw [entries, if_neg free, if_neg kept]

/-- Renaming keeps every file if the one that has the new name has no records. -/
theorem keeps_rename (renamed : disk.rename source target = some after)
    (vacant : ∀ file, disk.entries target = some file → disk.records file = []) :
    disk.Keeps after := by
  obtain ⟨file, known, records, _, ⟨_, rfl⟩ | ⟨_, entries⟩⟩ := rename_eq_some renamed
  · exact Keeps.refl _
  · intro name other listed recorded
    refine ⟨?_, by rw [records]⟩
    by_cases here : name = source
    · refine ⟨target, ?_⟩
      rw [here, known] at listed
      rw [entries, ← listed]
      exact if_pos rfl
    · refine ⟨name, ?_⟩
      have apart : name ≠ target := by
        rintro rfl
        exact recorded (vacant other listed)
      rw [entries_rename_of_ne renamed here apart, listed]

end Rename

end Disk

end Foundation
