import Mathlib.Data.List.ReduceOption
import DataFeed.L2.FileWriter

/-! # What a file writer leaves on disk

`Recorded` is what the writer's thread preserves: the files it opened hold, in the
order in which they were opened, exactly the messages it has consumed, and each
begins with a snapshot. It needs two facts about names: a file being opened does
not have the name of one that is closed, and a final name is free.
-/

namespace DataFeed.L2

open Foundation

/-- A recording and its records. -/
abbrev Recording := File FileHeader Message

/-- Where a writer's files are: `closed` ones under final names, and the `current` one if
it is open, among `kept` ones that were there before. -/
structure Placed (kept closed : Recordings) (current : Option Recording) (writer : FileWriter) :
    Prop where
  named : ∀ file ∈ closed, ∃ start finish number,
    file.name = FileWriter.finalName (FileWriter.openStem writer.symbolStem start) finish number
  isOpen : writer.isOpen = current.isSome
  here : ∀ file, current = some file → file.name = writer.path
  path : current.isSome → ∃ start,
    writer.fileStem = FileWriter.openStem writer.symbolStem start ∧
      writer.path = writer.fileStem ++ ".bin"
  apart : current.isSome → ∀ file ∈ kept, file.name ≠ writer.path

namespace Placed

variable {kept closed : Recordings} {current : Option Recording} {writer : FileWriter}

/-- The writer's closed files do not have the name of its open one. -/
theorem closed_apart (placed : Placed kept closed current writer) (seconds : Int64) :
    ∀ file ∈ closed, file.name ≠ FileWriter.openStem writer.symbolStem seconds ++ ".bin" := by
  intro file member same
  obtain ⟨start, finish, number, name⟩ := placed.named file member
  exact FileWriter.finalName_ne_open _ start finish seconds number (name.symm.trans same)

/-- No other file has the name of the one that is open. -/
theorem elsewhere {file : Recording} (placed : Placed kept closed (some file) writer) :
    ∀ other ∈ kept ++ closed, other.name ≠ writer.path := by
  obtain ⟨start, stem, path⟩ := placed.path rfl
  intro other member
  rcases List.mem_append.mp member with old | ours
  · exact placed.apart rfl other old
  · rw [path, stem]
    exact placed.closed_apart start other ours

/-- Opening a file adds an empty one, and takes at most files away that were there before. -/
theorem openFile (placed : Placed kept closed none writer) (nowNs : Int64) :
    ∃ kept' name, kept'.Sublist kept ∧
      (writer.openFile (kept ++ closed) nowNs).2 =
        kept' ++ closed ++ [⟨name, { writer.header with startTimeNs := nowNs }, []⟩] ∧
      Placed kept' closed (some ⟨name, { writer.header with startTimeNs := nowNs }, []⟩)
        (writer.openFile (kept ++ closed) nowNs).1 := by
  have free := placed.closed_apart (nowNs / FileWriter.nanosPerSecond)
  refine ⟨kept.filter fun file => file.name ≠
      FileWriter.openStem writer.symbolStem (nowNs / FileWriter.nanosPerSecond) ++ ".bin",
    FileWriter.openStem writer.symbolStem (nowNs / FileWriter.nanosPerSecond) ++ ".bin",
    List.filter_sublist, ?_, placed.named, rfl, ?_, fun _ => ⟨_, rfl, rfl⟩, ?_⟩
  · simp only [FileWriter.openFile, Directory.create, List.filter_append]
    rw [List.filter_eq_self.mpr fun file member => decide_eq_true (free file member)]
  · intro file same
    rw [← Option.some.inj same]
    rfl
  · intro _ file member
    exact of_decide_eq_true (List.mem_filter.mp member).2

/-- A message goes to the file that is open, and to no other. -/
theorem write {file : Recording} (placed : Placed kept closed (some file) writer)
    (message : Message) :
    (writer.write (kept ++ closed ++ [file]) message).2 =
        kept ++ closed ++ [{ file with records := file.records ++ [message] }] ∧
      Placed kept closed (some { file with records := file.records ++ [message] })
        (writer.write (kept ++ closed ++ [file]) message).1 := by
  refine ⟨Directory.append_last (placed.here file rfl) placed.elsewhere message, placed.named,
    placed.isOpen, ?_, fun _ => placed.path rfl, fun _ => placed.apart rfl⟩
  intro other same
  rw [← Option.some.inj same]
  exact placed.here file rfl

/-- The file that is open gets a final name, and no other changes. -/
theorem close {file : Recording} (placed : Placed kept closed (some file) writer)
    (nowSeconds : Int64) :
    ∃ name, (writer.close (kept ++ closed ++ [file]) nowSeconds).2 =
        kept ++ (closed ++ [{ file with name := name }]) ∧
      (writer.close (kept ++ closed ++ [file]) nowSeconds).1 = { writer with isOpen := false } ∧
      Placed kept (closed ++ [{ file with name := name }]) none
        (writer.close (kept ++ closed ++ [file]) nowSeconds).1 := by
  obtain ⟨start, stem, path⟩ := placed.path rfl
  have free := Directory.freeName_free (kept ++ closed ++ [file])
    (@FileWriter.finalName_inj writer.fileStem nowSeconds)
  have closing : (writer.close (kept ++ closed ++ [file]) nowSeconds).1 =
      { writer with isOpen := false } := by
    simp only [FileWriter.close, placed.isOpen, Option.isSome_some, Bool.not_true,
      Bool.false_eq_true, ↓reduceIte]
  refine ⟨FileWriter.finalPath (kept ++ closed ++ [file]) writer.fileStem nowSeconds, ?_, closing,
    ?_⟩
  · simp only [FileWriter.close, placed.isOpen, Option.isSome_some, Bool.not_true,
      Bool.false_eq_true, ↓reduceIte]
    rw [← List.append_assoc]
    exact Directory.rename_last (placed.here file rfl) placed.elsewhere free
  · rw [closing]
    refine ⟨?_, rfl, fun _ same => (Option.some_ne_none _ same.symm).elim,
      fun none => Bool.noConfusion none, fun none => Bool.noConfusion none⟩
    intro other member
    rcases List.mem_append.mp member with old | new
    · exact placed.named other old
    · obtain ⟨number, chosen⟩ := Directory.freeName_eq (kept ++ closed ++ [file])
        (FileWriter.finalName writer.fileStem nowSeconds)
      rw [List.mem_singleton.mp new]
      exact ⟨start, nowSeconds, number, by rw [← stem]; exact chosen⟩

end Placed

/-- The files a writer has opened: `closed` ones and the `current` one if it is open,
among `kept` ones that were there before. -/
structure Recorded (kept closed : Recordings) (current : Option Recording) (writer : FileWriter)
    (consumed : List Entry) : Prop where
  content : (closed ++ current.toList).flatMap File.records = consumed.reduceOption
  depth : ∀ file ∈ closed ++ current.toList, file.header.depth = writer.header.depth
  starts : ∀ file ∈ closed ++ current.toList, ∀ first rest,
    file.records = first :: rest → first.type = .snapshot
  named : ∀ file ∈ closed, ∃ start finish number,
    file.name = FileWriter.finalName (FileWriter.openStem writer.symbolStem start) finish number
  isOpen : writer.isOpen = current.isSome
  here : ∀ file, current = some file → file.name = writer.path
  path : current.isSome → ∃ start,
    writer.fileStem = FileWriter.openStem writer.symbolStem start ∧
      writer.path = writer.fileStem ++ ".bin"
  apart : current.isSome → ∀ file ∈ kept, file.name ≠ writer.path

/-- While no file is open, or the open one has no message yet, the next message
begins a stretch. -/
def Awaits (current : Option Recording) (consumed : List Entry) : Prop :=
  (∀ file, current = some file → file.records = []) → Fresh consumed

namespace Recorded

variable {kept closed : Recordings} {current : Option Recording} {writer : FileWriter}
  {consumed : List Entry}

/-- What is in the queue is not recorded yet. -/
theorem queue (recorded : Recorded kept closed current writer consumed) (queue : List Entry) :
    Recorded kept closed current { writer with queue := queue } consumed := { recorded with }

/-- Where the recorded files are. -/
theorem placed (recorded : Recorded kept closed current writer consumed) :
    Placed kept closed current writer :=
  ⟨recorded.named, recorded.isOpen, recorded.here, recorded.path, recorded.apart⟩

/-- Opening a file starts a new, empty one. -/
theorem openFile (recorded : Recorded kept closed none writer consumed) (nowNs : Int64) :
    ∃ kept' file, kept'.Sublist kept ∧ file.records = [] ∧
      (writer.openFile (kept ++ closed) nowNs).2 = kept' ++ closed ++ [file] ∧
      Recorded kept' closed (some file) (writer.openFile (kept ++ closed) nowNs).1 consumed := by
  obtain ⟨kept', name, fewer, created, placed⟩ := recorded.placed.openFile nowNs
  refine ⟨kept', _, fewer, rfl, created, ?_, ?_, ?_, placed.named, placed.isOpen, placed.here,
    placed.path, placed.apart⟩
  · rw [← recorded.content]
    simp only [Option.toList_some, List.flatMap_append, List.flatMap_cons, List.flatMap_nil,
      Option.toList_none, List.append_nil]
  · intro file member
    rcases List.mem_append.mp member with old | new
    · exact recorded.depth file (List.mem_append_left _ old)
    · rw [List.mem_singleton.mp new]
      rfl
  · intro file member first rest records
    rcases List.mem_append.mp member with old | new
    · exact recorded.starts file (List.mem_append_left _ old) first rest records
    · rw [List.mem_singleton.mp new] at records
      exact (List.cons_ne_nil first rest records.symm).elim

/-- A written message goes to the end of the open file. -/
theorem write {file : Recording} (recorded : Recorded kept closed (some file) writer consumed)
    {message : Message} (starts : file.records = [] → message.type = .snapshot) :
    (writer.write (kept ++ closed ++ [file]) message).2 =
        kept ++ closed ++ [{ file with records := file.records ++ [message] }] ∧
      Recorded kept closed (some { file with records := file.records ++ [message] })
        (writer.write (kept ++ closed ++ [file]) message).1 (consumed ++ [some message]) := by
  obtain ⟨written, placed⟩ := recorded.placed.write message
  refine ⟨written, ?_, ?_, ?_, placed.named, placed.isOpen, placed.here, placed.path,
    placed.apart⟩
  · rw [List.reduceOption_append, List.reduceOption_singleton, ← recorded.content]
    simp only [Option.toList_some, List.flatMap_append, List.flatMap_cons, List.flatMap_nil,
      List.append_nil, List.append_assoc]
  · intro other member
    rcases List.mem_append.mp member with old | new
    · exact recorded.depth other (List.mem_append_left _ old)
    · rw [List.mem_singleton.mp new]
      exact recorded.depth file (List.mem_append_right _ (List.mem_singleton_self _))
  · intro other member first rest records
    rcases List.mem_append.mp member with old | new
    · exact recorded.starts other (List.mem_append_left _ old) first rest records
    · rw [List.mem_singleton.mp new] at records
      cases stored : file.records with
      | nil =>
          rw [stored] at records
          rw [← (List.cons.inj records).1]
          exact starts stored
      | cons head tail =>
          rw [stored] at records
          rw [← (List.cons.inj records).1]
          exact recorded.starts file (List.mem_append_right _ (List.mem_singleton_self _)) head
            tail stored

/-- Closing a file renames it and leaves its records. -/
theorem close {file : Recording} (recorded : Recorded kept closed (some file) writer consumed)
    (nowSeconds : Int64) :
    ∃ name, (writer.close (kept ++ closed ++ [file]) nowSeconds).2 =
        kept ++ (closed ++ [{ file with name := name }]) ∧
      Recorded kept (closed ++ [{ file with name := name }]) none
        (writer.close (kept ++ closed ++ [file]) nowSeconds).1 consumed := by
  obtain ⟨name, renamed, closing, placed⟩ := recorded.placed.close nowSeconds
  refine ⟨name, renamed, ?_, ?_, ?_, placed.named, placed.isOpen, placed.here, placed.path,
    placed.apart⟩
  · rw [← recorded.content]
    simp only [Option.toList_some, List.flatMap_append, List.flatMap_cons, List.flatMap_nil,
      Option.toList_none, List.append_nil]
  · intro other member
    rw [closing]
    rw [Option.toList_none, List.append_nil] at member
    rcases List.mem_append.mp member with old | new
    · exact recorded.depth other (List.mem_append_left _ old)
    · rw [List.mem_singleton.mp new]
      exact recorded.depth file (List.mem_append_right _ (List.mem_singleton_self _))
  · intro other member first rest records
    rw [Option.toList_none, List.append_nil] at member
    rcases List.mem_append.mp member with old | new
    · exact recorded.starts other (List.mem_append_left _ old) first rest records
    · rw [List.mem_singleton.mp new] at records
      exact recorded.starts file (List.mem_append_right _ (List.mem_singleton_self _)) first
        rest records

/-- A gap is consumed without a trace but a closed file. -/
theorem gap (recorded : Recorded kept closed current writer consumed) :
    Recorded kept closed current writer (consumed ++ [none]) :=
  { recorded with
    content := by
      rw [List.reduceOption_append, List.reduceOption_singleton, Option.toList_none,
        List.append_nil]
      exact recorded.content }

end Recorded

/-- The files in a directory are those the writer's thread has left there. -/
def Holds (initial : Recordings) (writer : FileWriter) (files : Recordings)
    (consumed : List Entry) : Prop :=
  ∃ kept closed current, kept.Sublist initial ∧ files = kept ++ closed ++ current.toList ∧
    Recorded kept closed current writer consumed ∧ Awaits current consumed

/-- **One entry recorded.** A message goes to the file of its stretch, and a gap ends
it, whatever the clock says. -/
theorem Holds.consume {initial files : Recordings} {writer : FileWriter} {consumed : List Entry}
    (holds : Holds initial writer files consumed) {entry : Entry}
    (opens : OpensStretch consumed entry) (nowNs nowSeconds : Int64) :
    Holds initial (writer.consume files entry nowNs nowSeconds).1
      (writer.consume files entry nowNs nowSeconds).2 (consumed ++ [entry]) := by
  obtain ⟨kept, closed, current, sublist, rfl, recorded, awaits⟩ := holds
  cases entry with
  | none =>
      have gap := recorded.gap
      unfold FileWriter.consume
      dsimp only
      split
      · cases current with
        | none =>
            have shut : writer.isOpen = false := recorded.isOpen
            simp only [FileWriter.close, shut, Bool.not_false, ↓reduceIte]
            exact ⟨kept, closed, none, sublist, rfl, gap, fun _ => fresh_gap consumed⟩
        | some file =>
            obtain ⟨name, renamed, after⟩ := gap.close nowSeconds
            refine ⟨kept, _, none, sublist, ?_, after, fun _ => fresh_gap consumed⟩
            rw [Option.toList_some, renamed, Option.toList_none, List.append_nil]
      · exact ⟨kept, closed, current, sublist, rfl, gap, fun _ => fresh_gap consumed⟩
  | some message =>
      have written : ∀ {kept : Recordings} {file : Recording} {writer : FileWriter},
          kept.Sublist initial → Recorded kept closed (some file) writer consumed →
          (file.records = [] → message.type = .snapshot) →
          Holds initial (writer.write (kept ++ closed ++ [file]) message).1
            (writer.write (kept ++ closed ++ [file]) message).2 (consumed ++ [some message]) := by
        intro kept file writer sublist recorded starts
        obtain ⟨appended, after⟩ := recorded.write starts
        refine ⟨kept, closed, some { file with records := file.records ++ [message] }, sublist,
          appended, after, fun empty => ?_⟩
        exact (List.append_ne_nil_of_right_ne_nil _ (List.cons_ne_nil message [])
          (empty _ rfl)).elim
      unfold FileWriter.consume
      dsimp only
      cases current with
      | none =>
          have shut : writer.isOpen = false := recorded.isOpen
          obtain ⟨kept', file, fewer, empty, created, opened⟩ := recorded.openFile nowNs
          simp only [shut, Bool.not_false, ↓reduceIte, Option.toList_none, List.append_nil, created]
          exact written (fewer.trans sublist) opened fun _ =>
            opens message rfl (awaits fun _ same => (Option.some_ne_none _ same.symm).elim)
      | some file =>
          have opened : writer.isOpen = true := recorded.isOpen
          simp only [opened, Bool.not_true, Bool.false_eq_true, ↓reduceIte]
          refine written sublist recorded fun empty => ?_
          exact opens message rfl (awaits fun other same => Option.some.inj same ▸ empty)

/-- What is on disk of what the writer's thread has consumed, whether or not its file
is closed. -/
def Left (initial : Recordings) (writer : FileWriter) (files : Recordings)
    (consumed : List Entry) : Prop :=
  ∃ kept ours, kept.Sublist initial ∧ files = kept ++ ours ∧
    ours.flatMap File.records = consumed.reduceOption ∧
    ∀ file ∈ ours, file.header.depth = writer.header.depth ∧
      ∀ first rest, file.records = first :: rest → first.type = .snapshot

/-- What a writer holds it leaves behind. -/
theorem Holds.left {initial files : Recordings} {writer : FileWriter} {consumed : List Entry}
    (holds : Holds initial writer files consumed) : Left initial writer files consumed := by
  obtain ⟨kept, closed, current, sublist, rfl, recorded, _⟩ := holds
  exact ⟨kept, closed ++ current.toList, sublist, List.append_assoc _ _ _, recorded.content,
    fun file member => ⟨recorded.depth file member, recorded.starts file member⟩⟩

/-- Closing the last file takes nothing off the disk. -/
theorem Holds.close {initial files : Recordings} {writer : FileWriter} {consumed : List Entry}
    (holds : Holds initial writer files consumed) (nowSeconds : Int64) :
    Left initial (writer.close files nowSeconds).1 (writer.close files nowSeconds).2 consumed := by
  obtain ⟨kept, closed, current, sublist, rfl, recorded, awaits⟩ := holds
  cases current with
  | none =>
      have shut : writer.isOpen = false := recorded.isOpen
      simp only [FileWriter.close, shut, Bool.not_false, ↓reduceIte]
      exact Holds.left ⟨kept, closed, none, sublist, rfl, recorded, awaits⟩
  | some file =>
      obtain ⟨name, renamed, after⟩ := recorded.close nowSeconds
      rw [Option.toList_some, renamed]
      refine ⟨kept, _, sublist, rfl, ?_, fun file member => ?_⟩
      · rw [← after.content, Option.toList_none, List.append_nil]
      · have listed := List.mem_append_left (none : Option Recording).toList member
        exact ⟨after.depth file listed, after.starts file listed⟩

/-- A writer that has just been made has one file, without records. -/
theorem Holds.new (venue : String) (book : BookSpec) (precision : PairPrecision)
    (initial : Recordings) (nowNs : Int64) :
    Holds initial (FileWriter.new venue book precision initial nowNs).1
      (FileWriter.new venue book precision initial nowNs).2 [] := by
  have blank : Recorded initial [] none (FileWriter.unopened venue book precision) [] :=
    ⟨rfl, fun _ member => (List.not_mem_nil member).elim,
      fun _ member => (List.not_mem_nil member).elim,
      fun _ member => (List.not_mem_nil member).elim, rfl,
      fun _ same => (Option.some_ne_none _ same.symm).elim, fun none => Bool.noConfusion none,
      fun none => Bool.noConfusion none⟩
  obtain ⟨kept, file, fewer, _, created, recorded⟩ := blank.openFile nowNs
  rw [List.append_nil] at created recorded
  exact ⟨kept, [], some file, fewer, created, recorded, fun _ => fresh_nil⟩

namespace FileWriter

/-- Consuming an entry leaves the depth of the header. -/
theorem depth_consume (writer : FileWriter) (files : Recordings) (entry : Entry)
    (nowNs nowSeconds : Int64) :
    (writer.consume files entry nowNs nowSeconds).1.header.depth = writer.header.depth := by
  unfold consume
  cases entry with
  | none =>
      dsimp only
      split
      · unfold close
        split <;> rfl
      · rfl
  | some message =>
      dsimp only
      split <;> rfl

/-- Closing a file leaves the queue. -/
theorem queue_close (writer : FileWriter) (files : Recordings) (nowSeconds : Int64) :
    (writer.close files nowSeconds).1.queue = writer.queue := by
  unfold close
  split <;> rfl

/-- Consuming an entry leaves the queue. -/
theorem queue_consume (writer : FileWriter) (files : Recordings) (entry : Entry)
    (nowNs nowSeconds : Int64) :
    (writer.consume files entry nowNs nowSeconds).1.queue = writer.queue := by
  unfold consume
  cases entry with
  | none =>
      dsimp only
      split
      · exact queue_close writer files nowSeconds
      · rfl
  | some message =>
      dsimp only
      split <;> rfl

/-- A push that succeeds appends to the queue. -/
theorem push_eq {writer next : FileWriter} {entry : Entry} (pushed : writer.push entry = some next) :
    next = { writer with queue := writer.queue ++ [entry] } := by
  unfold push at pushed
  split at pushed
  · exact (Option.some.inj pushed).symm
  · exact (Option.some_ne_none _ pushed.symm).elim

end FileWriter

end DataFeed.L2
