import Mathlib.Data.List.Sublists

/-! # A directory of append-only files

A directory as the list of its files in the order in which they were opened.
Opening truncates a file of the same name, renaming replaces one, so what a
program keeps depends on the names it picks: a name nobody has (`freeName`) is
safe to take.
-/

namespace Foundation

/-- A file: a header, then records. -/
structure File (Header Record : Type*) where
  name : String
  header : Header
  records : List Record

/-- The files of a directory, in the order in which they were opened. -/
abbrev Directory (Header Record : Type*) := List (File Header Record)

namespace Directory

variable {Header Record : Type*}

/-- Some file has the name. -/
def holds (directory : Directory Header Record) (name : String) : Bool :=
  directory.any fun file => file.name = name

/-- Opens a file for writing, and writes its header. -/
def create (directory : Directory Header Record) (name : String) (header : Header) :
    Directory Header Record :=
  directory.filter (fun file => file.name ≠ name) ++ [⟨name, header, []⟩]

/-- Appends a record to the file of a name. -/
def append (directory : Directory Header Record) (name : String) (record : Record) :
    Directory Header Record :=
  directory.map fun file =>
    if file.name = name then { file with records := file.records ++ [record] } else file

/-- Gives a file another name, in place of the file that had it. -/
def rename (directory : Directory Header Record) (source target : String) :
    Directory Header Record :=
  if source = target then directory
  else (directory.filter fun file => file.name ≠ target).map fun file =>
    if file.name = source then { file with name := target } else file

/-- The first of the names `candidate 0`, `candidate 1`, ... that no file has. One
more candidate than there are files is enough to find it. -/
def freeName (directory : Directory Header Record) (candidate : Nat → String) : String :=
  (((List.range (directory.length + 1)).map candidate).find? fun name =>
    !directory.holds name).getD (candidate directory.length)

theorem holds_eq_true_iff {directory : Directory Header Record} {name : String} :
    directory.holds name = true ↔ name ∈ directory.map File.name := by
  simp only [holds, List.any_eq_true, decide_eq_true_eq, List.mem_map]

/-- As many files cannot have one more name than there are files. -/
theorem freeName_free (directory : Directory Header Record) {candidate : Nat → String}
    (distinct : ∀ first second, candidate first = candidate second → first = second) :
    directory.freeName candidate ∉ directory.map File.name := by
  unfold freeName
  cases found : ((List.range (directory.length + 1)).map candidate).find? fun name =>
      !directory.holds name with
  | some name =>
      have free := List.find?_some found
      rw [Bool.not_eq_eq_eq_not, Bool.not_true] at free
      rw [Option.getD_some, ← holds_eq_true_iff, free]
      exact Bool.false_ne_true
  | none =>
      have taken : (List.range (directory.length + 1)).map candidate ⊆
          directory.map File.name := by
        intro name member
        have held := List.find?_eq_none.mp found name member
        rw [Bool.not_eq_eq_eq_not, Bool.not_true, Bool.not_eq_false, holds_eq_true_iff] at held
        exact held
      have once : ((List.range (directory.length + 1)).map candidate).Nodup :=
        List.nodup_range.map distinct
      have count := (once.subperm taken).length_le
      rw [List.length_map, List.length_map, List.length_range] at count
      omega

/-- The free name is one of the candidates. -/
theorem freeName_eq (directory : Directory Header Record) (candidate : Nat → String) :
    ∃ number, directory.freeName candidate = candidate number := by
  unfold freeName
  cases found : ((List.range (directory.length + 1)).map candidate).find? fun name =>
      !directory.holds name with
  | none => exact ⟨directory.length, rfl⟩
  | some name =>
      obtain ⟨number, _, same⟩ := List.mem_map.mp (List.mem_of_find?_eq_some found)
      exact ⟨number, same.symm⟩

/-- A record goes to the file last opened. -/
theorem append_last {others : Directory Header Record} {file : File Header Record} {name : String}
    (here : file.name = name) (elsewhere : ∀ other ∈ others, other.name ≠ name) (record : Record) :
    append (others ++ [file]) name record =
      others ++ [{ file with records := file.records ++ [record] }] := by
  unfold append
  rw [List.map_append, List.map_singleton, if_pos here]
  congr 1
  refine (List.map_congr_left fun other member => ?_).trans (List.map_id others)
  rw [if_neg (elsewhere other member)]
  rfl

/-- Giving the file last opened a free name changes no other file. -/
theorem rename_last {others : Directory Header Record} {file : File Header Record}
    {source target : String} (here : file.name = source)
    (elsewhere : ∀ other ∈ others, other.name ≠ source)
    (free : target ∉ (others ++ [file]).map File.name) :
    rename (others ++ [file]) source target = others ++ [{ file with name := target }] := by
  have apart : ∀ other ∈ others ++ [file], other.name ≠ target := fun other member same =>
    free (same ▸ List.mem_map_of_mem member)
  have moved : source ≠ target := here ▸ apart file (List.mem_append_right _
    (List.mem_singleton_self _))
  unfold rename
  rw [if_neg moved, List.filter_eq_self.mpr fun other member => decide_eq_true (apart other member),
    List.map_append, List.map_singleton, if_pos here]
  congr 1
  refine (List.map_congr_left fun other member => ?_).trans (List.map_id others)
  rw [if_neg (elsewhere other member)]
  rfl

end Directory

end Foundation
