import Mathlib.Data.List.Forall2
import DataFeed.Foundation.Transition
import DataFeed.L2.Recording
import DataFeed.L2.Serialize

/-! # One file for each unbroken stretch

A file writer, its caller and its thread in any order of their steps. Its first file is
opened at once, the others with the first message after a gap, and a file without
messages stays open over any number of gaps. So in the end there is one file for each run
of messages between gaps, or one without records if there was no message.
-/

namespace DataFeed.L2

open Foundation DataFeed.Core

/-- The messages between gaps, without the stretches that have none. -/
def runs (entries : List Entry) : List (List Message) :=
  ((entries.splitOnP Option.isNone).map List.reduceOption).filter (· ≠ [])

/-- What the files of a stream are to hold: its runs, or nothing, but then in one file. -/
def stretches (entries : List Entry) : List (List Message) :=
  if runs entries = [] then [[]] else runs entries

/-- A header as it is written, field by field. -/
def FileHeader.bytes (header : FileHeader) : List UInt8 :=
  header.magic ++ littleEndian 4 header.formatVersion.toNat ++
    littleEndian 4 header.depth.toNat ++ littleEndian 4 header.priceDecimals.toNat ++
    littleEndian 4 header.qtyDecimals.toNat ++ littleEndian 8 (signedBits header.startTimeNs) ++
    header.venue ++ header.symbol

/-- What is in a recording's file. -/
def contents (file : Recording) : List UInt8 :=
  file.header.bytes ++ file.records.flatMap Message.bytes

/-- A file writer, its directory, and how far its destructor is. -/
structure Writing where
  writer : FileWriter
  files : Recordings
  /-- The destructor has asked the thread to stop. -/
  stopping : Bool
  /-- The destructor has returned. -/
  destroyed : Bool

namespace Writing

/-- A step of the caller, of the writer's thread or of the destructor. -/
inductive Action where
  | receive (message : Message)
  | onGap (gap : Gap)
  | consume (nowNs nowSeconds : Int64)
  | destroy
  | close (nowSeconds : Int64)

/-- What a call hands to the writer. -/
def Action.entry? : Action → Option Entry
  | .receive message => some (some message)
  | .onGap _ => some none
  | .consume _ _ | .destroy | .close _ => none

/-- What the calls of a run handed to the writer, in order. -/
def received (actions : List Action) : List Entry := actions.filterMap Action.entry?

/-- A file cannot grow past the offsets that a file position has. -/
def Writable (file : Recording) : Prop := (contents file).length < 2 ^ 63

instance instDecidableWritable (file : Recording) : Decidable (Writable file) :=
  inferInstanceAs (Decidable (_ < _))

instance instDecidableFits (message : Message) : Decidable message.Fits :=
  inferInstanceAs (Decidable (_ < _))

/-- What a step does, if it is possible. Every file operation succeeds, so a message is
only written to a file that can grow by it. A message that is in memory is smaller than
the memory. The destructor closes the file once the thread has drained the queue. -/
def step (state : Writing) : Action → Option Writing
  | .receive message =>
      if state.stopping = false ∧ message.Fits then
        (state.writer.push (some message)).map fun writer => { state with writer := writer }
      else none
  | .onGap _ =>
      if state.stopping = false then
        (state.writer.push none).map fun writer => { state with writer := writer }
      else none
  | .consume nowNs nowSeconds =>
      (state.writer.drain state.files nowNs nowSeconds).bind fun next =>
        if ∀ file ∈ next.2, file.name = next.1.path → Writable file then
          some { state with writer := next.1, files := next.2 }
        else none
  | .destroy => if state.stopping then none else some { state with stopping := true }
  | .close nowSeconds =>
      if state.stopping = true ∧ state.destroyed = false ∧ state.writer.queue = [] then
        some { state with
          writer := (state.writer.close state.files nowSeconds).1
          files := (state.writer.close state.files nowSeconds).2
          destroyed := true }
      else none

/-- A writer that has just been made, in any order of the steps that follow. -/
def system (venue : String) (book : BookSpec) (precision : PairPrecision) (initial : Recordings)
    (nowNs : Int64) : System Writing Action where
  init :=
    { writer := (FileWriter.new venue book precision initial nowNs).1
      files := (FileWriter.new venue book precision initial nowNs).2
      stopping := false
      destroyed := false }
  step := step

end Writing

/-! ## Runs of messages -/

/-- The stream is at a gap, or at its start. -/
def Ended (entries : List Entry) : Prop := entries = [] ∨ ∃ earlier, entries = earlier ++ [none]

/-- A gap splits the entries in two. -/
theorem splitOnP_gap (entries rest : List Entry) :
    (entries ++ none :: rest).splitOnP Option.isNone =
      entries.splitOnP Option.isNone ++ rest.splitOnP Option.isNone :=
  List.splitOnP_append_cons entries rest rfl

/-- Messages without a gap are one stretch. -/
theorem splitOnP_messages (messages : List Message) :
    (messages.map (some : Message → Entry)).splitOnP Option.isNone = [messages.map some] := by
  apply List.splitOnP_eq_singleton
  intro entry member
  obtain ⟨message, _, rfl⟩ := List.mem_map.mp member
  rfl

/-- A gap begins no run and ends none that a message has not begun. -/
theorem runs_gap (entries : List Entry) : runs (entries ++ [none]) = runs entries := by
  unfold runs
  rw [splitOnP_gap, List.splitOnP_nil, List.map_append, List.filter_append]
  exact List.append_nil _

/-- The messages after a gap are a run, if there are any. -/
theorem runs_messages {entries : List Entry} (ended : Ended entries) (messages : List Message) :
    runs (entries ++ messages.map some) =
      runs entries ++ (if messages = [] then [] else [messages]) := by
  have last : (([messages.map (some : Message → Entry)]).map List.reduceOption).filter
      (· ≠ []) = if messages = [] then [] else [messages] := by
    have kept : (messages.map (some : Message → Entry)).reduceOption = messages := by
      rw [List.reduceOption, List.filterMap_map]
      exact List.filterMap_some
    rw [List.map_singleton, kept]
    by_cases empty : messages = []
    · rw [if_pos empty, empty]
      rfl
    · rw [if_neg empty]
      exact List.filter_cons_of_pos (decide_eq_true empty)
  rcases ended with rfl | ⟨earlier, rfl⟩
  · unfold runs
    rw [List.nil_append, splitOnP_messages, last]
    rfl
  · rw [runs_gap, List.append_assoc, List.singleton_append]
    unfold runs
    rw [splitOnP_gap, splitOnP_messages, List.map_append, List.filter_append, last]

/-- A stream is at a gap, or messages have come since it was. -/
theorem exists_ended (entries : List Entry) :
    ∃ earlier, ∃ messages : List Message, Ended earlier ∧
      entries = earlier ++ messages.map some := by
  induction entries using List.reverseRecOn with
  | nil => exact ⟨[], [], Or.inl rfl, rfl⟩
  | append_singleton entries entry ih =>
      cases entry with
      | none => exact ⟨entries ++ [none], [], Or.inr ⟨entries, rfl⟩, (List.append_nil _).symm⟩
      | some message =>
          obtain ⟨earlier, messages, ended, rfl⟩ := ih
          refine ⟨earlier, messages ++ [message], ended, ?_⟩
          rw [List.map_append, List.append_assoc]
          rfl

/-- Every message is in one run. -/
theorem flatten_runs (entries : List Entry) : (runs entries).flatten = entries.reduceOption := by
  induction entries using List.reverseRecOn with
  | nil => rfl
  | append_singleton entries entry ih =>
      rw [List.reduceOption_append, ← ih, List.reduceOption_singleton]
      cases entry with
      | none => rw [runs_gap, Option.toList_none, List.append_nil]
      | some message =>
          obtain ⟨earlier, messages, ended, rfl⟩ := exists_ended entries
          have more : earlier ++ messages.map some ++ [some message] =
              earlier ++ (messages ++ [message]).map some := by
            rw [List.map_append, List.append_assoc, List.map_singleton]
          rw [more, runs_messages ended, runs_messages ended, if_neg (by simp),
            List.flatten_append, List.flatten_append, List.append_assoc, Option.toList_some]
          split
          · rename_i empty
            rw [empty]
            rfl
          · rw [List.flatten_singleton, List.flatten_singleton]

/-- The stretches put together are the messages. -/
theorem flatten_stretches (entries : List Entry) :
    (stretches entries).flatten = entries.reduceOption := by
  unfold stretches
  split
  · rename_i none
    rw [← flatten_runs, none]
    rfl
  · exact flatten_runs entries

/-! ## The writer's thread -/

/-- What the writer's thread has made of the entries it has consumed: one closed file for
each run up to a gap, and in the open one the messages since then. -/
structure Parted (venue : String) (book : BookSpec) (precision : PairPrecision)
    (kept closed : Recordings) (current : Option Recording) (earlier : List Entry)
    (writer : FileWriter) (consumed : List Entry) : Prop where
  placed : Placed kept closed current writer
  stem : writer.symbolStem = (FileWriter.unopened venue book precision).symbolStem
  header : ∃ startNs, writer.header = makeFileHeader venue book precision startNs
  headers : ∀ file ∈ closed ++ current.toList,
    ∃ startNs, file.header = makeFileHeader venue book precision startNs
  ended : Ended earlier
  since : consumed = earlier ++ (current.elim [] File.records).map some
  content : closed.map File.records = runs earlier
  counted : ∀ file, current = some file →
    writer.messagesInFile = UInt64.ofNat file.records.length ∧ file.records.length < 2 ^ 63
  opened : current = none → closed ≠ []

namespace Parted

variable {venue : String} {book : BookSpec} {precision : PairPrecision}
  {kept closed : Recordings} {current : Option Recording} {earlier consumed : List Entry}
  {writer : FileWriter}

/-- What is in the queue is not consumed yet. -/
theorem queue (parted : Parted venue book precision kept closed current earlier writer consumed)
    (queue : List Entry) :
    Parted venue book precision kept closed current earlier { writer with queue := queue }
      consumed :=
  { parted with placed := { parted.placed with } }

/-- What is recorded, with the file that is open. -/
theorem runs_consumed
    (parted : Parted venue book precision kept closed current earlier writer consumed) :
    runs consumed = closed.map File.records ++
      (if current.elim [] File.records = [] then [] else [current.elim [] File.records]) := by
  rw [parted.since, runs_messages parted.ended, parted.content]

/-- The first message after a gap opens a file. -/
theorem openFile
    (parted : Parted venue book precision kept closed none earlier writer consumed)
    (nowNs : Int64) :
    ∃ kept' file, kept'.Sublist kept ∧ file.records = [] ∧
      (writer.openFile (kept ++ closed) nowNs).2 = kept' ++ closed ++ [file] ∧
      Parted venue book precision kept' closed (some file) consumed
        (writer.openFile (kept ++ closed) nowNs).1 consumed := by
  obtain ⟨kept', name, fewer, created, placed⟩ := parted.placed.openFile nowNs
  obtain ⟨startNs, header⟩ := parted.header
  have made : { writer.header with startTimeNs := nowNs } =
      makeFileHeader venue book precision nowNs := by
    rw [header]
    rfl
  have all : consumed = earlier := parted.since.trans (List.append_nil _)
  refine ⟨kept', _, fewer, rfl, created, placed, parted.stem, ⟨nowNs, made⟩, ?_,
    all ▸ parted.ended, (List.append_nil _).symm, all ▸ parted.content, ?_,
    fun none => (Option.some_ne_none _ none).elim⟩
  · intro file member
    rcases List.mem_append.mp member with old | new
    · exact parted.headers file (List.mem_append_left _ old)
    · rw [List.mem_singleton.mp new]
      exact ⟨nowNs, made⟩
  · intro file same
    rw [← Option.some.inj same]
    exact ⟨rfl, Nat.two_pow_pos 63⟩

/-- A gap without messages before it changes nothing. -/
theorem gap_kept (parted : Parted venue book precision kept closed current earlier writer consumed)
    (empty : current.elim [] File.records = []) :
    Parted venue book precision kept closed current (consumed ++ [none]) writer
      (consumed ++ [none]) :=
  { parted with
    ended := Or.inr ⟨consumed, rfl⟩
    since := by rw [empty, List.map_nil, List.append_nil]
    content := by rw [runs_gap, parted.runs_consumed, if_pos empty, List.append_nil] }

/-- The file that is open is closed with the messages of its run. -/
theorem close {file : Recording}
    (parted : Parted venue book precision kept closed (some file) earlier writer consumed)
    (nowSeconds : Int64) :
    ∃ name, (writer.close (kept ++ closed ++ [file]) nowSeconds).2 =
        kept ++ (closed ++ [{ file with name := name }]) ∧
      (writer.close (kept ++ closed ++ [file]) nowSeconds).1 = { writer with isOpen := false } ∧
      Placed kept (closed ++ [{ file with name := name }]) none
        (writer.close (kept ++ closed ++ [file]) nowSeconds).1 ∧
      (∀ other ∈ closed ++ [{ file with name := name }],
        ∃ startNs, other.header = makeFileHeader venue book precision startNs) ∧
      (closed ++ [{ file with name := name }]).map File.records =
        closed.map File.records ++ [file.records] := by
  obtain ⟨name, renamed, closing, placed⟩ := parted.placed.close nowSeconds
  refine ⟨name, renamed, closing, placed, fun other member => ?_, ?_⟩
  · rcases List.mem_append.mp member with old | new
    · exact parted.headers other (List.mem_append_left _ old)
    · rw [List.mem_singleton.mp new]
      exact parted.headers file (List.mem_append_right _ (List.mem_singleton_self _))
  · rw [List.map_append, List.map_singleton]

/-- A gap after messages closes their file. -/
theorem gap_closed {file : Recording}
    (parted : Parted venue book precision kept closed (some file) earlier writer consumed)
    (some_records : file.records ≠ []) (nowSeconds : Int64) :
    ∃ name, (writer.close (kept ++ closed ++ [file]) nowSeconds).2 =
        kept ++ (closed ++ [{ file with name := name }]) ∧
      Parted venue book precision kept (closed ++ [{ file with name := name }]) none
        (consumed ++ [none]) (writer.close (kept ++ closed ++ [file]) nowSeconds).1
        (consumed ++ [none]) := by
  obtain ⟨name, renamed, closing, placed, headers, content⟩ := parted.close nowSeconds
  refine ⟨name, renamed, placed, ?_, ?_, ?_, Or.inr ⟨consumed, rfl⟩, (List.append_nil _).symm, ?_,
    ?_, fun _ => List.append_ne_nil_of_right_ne_nil _ (List.cons_ne_nil _ _)⟩
  · rw [closing]
    exact parted.stem
  · rw [closing]
    exact parted.header
  · rw [Option.toList_none, List.append_nil]
    exact headers
  · rw [content, runs_gap, parted.runs_consumed]
    exact congrArg _ (if_neg some_records).symm
  · exact fun _ same => (Option.some_ne_none _ same.symm).elim

/-- Whether a gap closes the file, from the count of its messages. -/
theorem counts {file : Recording}
    (parted : Parted venue book precision kept closed (some file) earlier writer consumed) :
    writer.messagesInFile > 0 ↔ file.records ≠ [] := by
  obtain ⟨counted, small⟩ := parted.counted file rfl
  have size : (UInt64.ofNat file.records.length).toNat = file.records.length :=
    Nat.mod_eq_of_lt (small.trans (by decide))
  rw [counted, gt_iff_lt, UInt64.lt_iff_toNat_lt, size]
  exact List.length_pos_iff

/-- A message goes to the open file. -/
theorem write {file : Recording}
    (parted : Parted venue book precision kept closed (some file) earlier writer consumed)
    (message : Message) (small : file.records.length + 1 < 2 ^ 63) :
    (writer.write (kept ++ closed ++ [file]) message).2 =
        kept ++ closed ++ [{ file with records := file.records ++ [message] }] ∧
      Parted venue book precision kept closed
        (some { file with records := file.records ++ [message] }) earlier
        (writer.write (kept ++ closed ++ [file]) message).1 (consumed ++ [some message]) := by
  obtain ⟨written, placed⟩ := parted.placed.write message
  refine ⟨written, placed, parted.stem, parted.header, ?_, parted.ended, ?_, parted.content, ?_,
    fun none => (Option.some_ne_none _ none).elim⟩
  · intro other member
    rcases List.mem_append.mp member with old | new
    · exact parted.headers other (List.mem_append_left _ old)
    · rw [List.mem_singleton.mp new]
      exact parted.headers file (List.mem_append_right _ (List.mem_singleton_self _))
  · rw [parted.since, List.append_assoc]
    simp only [Option.elim_some, List.map_append, List.map_cons, List.map_nil]
  · intro other same
    obtain ⟨counted, _⟩ := parted.counted file rfl
    rw [← Option.some.inj same]
    dsimp only
    rw [List.length_append, List.length_singleton]
    refine ⟨?_, small⟩
    change writer.messagesInFile + 1 = _
    rw [counted, UInt64.ofNat_add]
    rfl

end Parted

/-! ## Sizes -/

/-- No message is written as nothing. -/
theorem length_pos_bytes {message : Message} (fits : message.Fits) : 0 < message.bytes.length := by
  rw [Message.bytes_eq fits, Message.length_parts]
  omega

/-- A file that can be written has fewer records than offsets. -/
theorem Writing.Writable.length_records {file : Recording} (writable : Writing.Writable file)
    (fits : ∀ message ∈ file.records, message.Fits) : file.records.length < 2 ^ 63 := by
  have counts : ∀ records : List Message, (∀ message ∈ records, message.Fits) →
      records.length ≤ (records.flatMap Message.bytes).length := by
    intro records fits
    induction records with
    | nil => exact Nat.le_refl 0
    | cons message records ih =>
        have first := length_pos_bytes (fits message List.mem_cons_self)
        have rest := ih fun other listed => fits other (List.mem_cons_of_mem _ listed)
        rw [List.flatMap_cons, List.length_append, List.length_cons]
        omega
  have records := counts file.records fits
  unfold Writing.Writable contents at writable
  rw [List.length_append] at writable
  omega

/-- A fixed text is sixteen bytes long. -/
theorem length_toFixedText (value : String) : (toFixedText value).length = 16 := by
  unfold toFixedText
  dsimp only
  rw [List.length_append, List.length_replicate]
  have cut := List.length_take_le 16 value.toUTF8.toList
  omega

/-- The header has 64 bytes, whatever is recorded. -/
theorem length_header (venue : String) (book : BookSpec) (precision : PairPrecision)
    (startNs : Int64) : (makeFileHeader venue book precision startNs).bytes.length = 64 := by
  unfold FileHeader.bytes makeFileHeader
  simp only [List.length_append, length_littleEndian, length_toFixedText, List.length_cons,
    List.length_nil]

/-! ## The writer's runs -/

/-- The directory has, besides files from before, those the writer's thread has made of
what it has consumed. Only the first is opened before it has a message. -/
def Keeps (venue : String) (book : BookSpec) (precision : PairPrecision) (initial : Recordings)
    (writer : FileWriter) (files : Recordings) (consumed : List Entry) : Prop :=
  ∃ kept closed current earlier, kept.Sublist initial ∧
    files = kept ++ closed ++ current.toList ∧
    Parted venue book precision kept closed current earlier writer consumed ∧
    ∀ file, current = some file → file.records = [] → closed = []

section Keeping

variable {venue : String} {book : BookSpec} {precision : PairPrecision}
  {initial files : Recordings} {writer : FileWriter} {consumed : List Entry}

/-- What is queued does not bear on what is kept. -/
theorem Keeps.queue (keeps : Keeps venue book precision initial writer files consumed)
    (queue : List Entry) :
    Keeps venue book precision initial { writer with queue := queue } files consumed := by
  obtain ⟨kept, closed, current, earlier, fewer, same, parted, first⟩ := keeps
  exact ⟨kept, closed, current, earlier, fewer, same, parted.queue queue, first⟩

/-- A writer that has just been made has one file, without records. -/
theorem Keeps.new (venue : String) (book : BookSpec) (precision : PairPrecision)
    (initial : Recordings) (nowNs : Int64) :
    Keeps venue book precision initial (FileWriter.new venue book precision initial nowNs).1
      (FileWriter.new venue book precision initial nowNs).2 [] := by
  have blank : Placed initial [] none (FileWriter.unopened venue book precision) :=
    ⟨fun _ member => (List.not_mem_nil member).elim, rfl,
      fun _ same => (Option.some_ne_none _ same.symm).elim, fun none => Bool.noConfusion none,
      fun none => Bool.noConfusion none⟩
  obtain ⟨kept, name, fewer, created, placed⟩ := blank.openFile nowNs
  rw [List.append_nil] at created placed
  refine ⟨kept, [], some ⟨name, makeFileHeader venue book precision nowNs, []⟩, [], fewer, created,
    ⟨placed, rfl, ⟨nowNs, rfl⟩, ?_, Or.inl rfl, rfl, rfl, ?_, fun _ => ?_⟩, fun _ _ _ => rfl⟩
  · intro file member
    rw [List.mem_singleton.mp member]
    exact ⟨nowNs, rfl⟩
  · intro file same
    rw [← Option.some.inj same]
    exact ⟨rfl, Nat.two_pow_pos 63⟩
  · contradiction

/-- A message that is written keeps the files as they are to be. -/
theorem Parted.keeps_write {kept closed : Recordings} {file : Recording} {earlier : List Entry}
    {message : Message}
    (parted : Parted venue book precision kept closed (some file) earlier writer consumed)
    (fewer : kept.Sublist initial)
    (fits : ∀ other ∈ (consumed ++ [some message]).reduceOption, other.Fits)
    (writable : ∀ other ∈ (writer.write (kept ++ closed ++ [file]) message).2,
      other.name = (writer.write (kept ++ closed ++ [file]) message).1.path →
        Writing.Writable other) :
    Keeps venue book precision initial (writer.write (kept ++ closed ++ [file]) message).1
      (writer.write (kept ++ closed ++ [file]) message).2 (consumed ++ [some message]) := by
  obtain ⟨appended, placed⟩ := parted.placed.write message
  have grown : Writing.Writable { file with records := file.records ++ [message] } := by
    apply writable
    · rw [appended]
      exact List.mem_append_right _ List.mem_cons_self
    · exact placed.here _ rfl
  have all : ∀ other ∈ file.records ++ [message], other.Fits := by
    intro other listed
    apply fits other
    rw [parted.since, List.append_assoc, List.reduceOption_append]
    apply List.mem_append_right
    rw [List.reduceOption_mem_iff]
    rcases List.mem_append.mp listed with old | new
    · exact List.mem_append_left _ (List.mem_map_of_mem old)
    · rw [List.mem_singleton.mp new]
      exact List.mem_append_right _ List.mem_cons_self
  have small : file.records.length + 1 < 2 ^ 63 := by
    have count := grown.length_records all
    rwa [List.length_append, List.length_singleton] at count
  obtain ⟨_, after⟩ := parted.write message small
  refine ⟨kept, closed, some { file with records := file.records ++ [message] }, earlier, fewer,
    appended, after, fun other same empty => ?_⟩
  rw [← Option.some.inj same] at empty
  exact (List.append_ne_nil_of_right_ne_nil _ (List.cons_ne_nil _ _) empty).elim

/-- **One entry consumed.** A message is added to its run's file, which a gap closes. -/
theorem Keeps.consume (keeps : Keeps venue book precision initial writer files consumed)
    (entry : Entry) (nowNs nowSeconds : Int64)
    (fits : ∀ message ∈ (consumed ++ [entry]).reduceOption, message.Fits)
    (writable : ∀ file ∈ (writer.consume files entry nowNs nowSeconds).2,
      file.name = (writer.consume files entry nowNs nowSeconds).1.path → Writing.Writable file) :
    Keeps venue book precision initial (writer.consume files entry nowNs nowSeconds).1
      (writer.consume files entry nowNs nowSeconds).2 (consumed ++ [entry]) := by
  obtain ⟨kept, closed, current, earlier, fewer, rfl, parted, first⟩ := keeps
  cases entry with
  | none =>
      unfold FileWriter.consume
      dsimp only
      cases current with
      | none =>
          have shut : writer.isOpen = false := parted.placed.isOpen
          have kept' := parted.gap_kept rfl
          split
          · simp only [FileWriter.close, shut, Bool.not_false, ↓reduceIte]
            exact ⟨kept, closed, none, _, fewer, rfl, kept', first⟩
          · exact ⟨kept, closed, none, _, fewer, rfl, kept', first⟩
      | some file =>
          split
          · rename_i counted
            obtain ⟨name, renamed, after⟩ := parted.gap_closed (parted.counts.mp counted)
              nowSeconds
            refine ⟨kept, _, none, _, fewer, ?_, after, fun _ same =>
              (Option.some_ne_none _ same.symm).elim⟩
            rw [Option.toList_some, renamed, Option.toList_none, List.append_nil]
          · rename_i uncounted
            have empty : file.records = [] :=
              not_not.mp fun some_records => uncounted (parted.counts.mpr some_records)
            exact ⟨kept, closed, some file, _, fewer, rfl, parted.gap_kept empty, first⟩
  | some message =>
      unfold FileWriter.consume at writable ⊢
      dsimp only at writable ⊢
      cases current with
      | none =>
          have shut : writer.isOpen = false := parted.placed.isOpen
          obtain ⟨kept', file, fewer', empty, created, opened⟩ := parted.openFile nowNs
          simp only [shut, Bool.not_false, ↓reduceIte, Option.toList_none, List.append_nil,
            created] at writable ⊢
          exact opened.keeps_write (fewer'.trans fewer) fits writable
      | some file =>
          have opened : writer.isOpen = true := parted.placed.isOpen
          simp only [opened, Bool.not_true, Bool.false_eq_true, ↓reduceIte] at writable ⊢
          exact parted.keeps_write fewer fits writable

end Keeping

/-- A closed file of a run: the header of its subscription, and the messages of the run. -/
def Recording.IsOf (venue : String) (book : BookSpec) (precision : PairPrecision)
    (file : Recording) (run : List Message) : Prop :=
  (∃ startNs, contents file =
    (makeFileHeader venue book precision startNs).bytes ++ run.flatMap Message.bytes) ∧
  ∃ start finish number, file.name = FileWriter.finalName
    (FileWriter.openStem (FileWriter.unopened venue book precision).symbolStem start) finish number

/-- The directory has a file for each stretch, in the order of the stretches, and besides
these only files from before. -/
def Partition (venue : String) (book : BookSpec) (precision : PairPrecision)
    (initial files : Recordings) (entries : List Entry) : Prop :=
  ∃ kept ours, kept.Sublist initial ∧ files = kept ++ ours ∧
    List.Forall₂ (Recording.IsOf venue book precision) ours (stretches entries)

section Result

variable {venue : String} {book : BookSpec} {precision : PairPrecision}
  {initial files : Recordings} {writer : FileWriter} {consumed : List Entry}

/-- Every closed file is a recording of the writer's book. -/
theorem isOf_of_parted {kept closed : Recordings} (placed : Placed kept closed none writer)
    (stem : writer.symbolStem = (FileWriter.unopened venue book precision).symbolStem)
    (headers : ∀ file ∈ closed, ∃ startNs,
      file.header = makeFileHeader venue book precision startNs) :
    List.Forall₂ (Recording.IsOf venue book precision) closed (closed.map File.records) := by
  rw [List.forall₂_map_right_iff, List.forall₂_same]
  intro file member
  obtain ⟨startNs, header⟩ := headers file member
  obtain ⟨start, finish, number, name⟩ := placed.named file member
  refine ⟨⟨startNs, ?_⟩, start, finish, number, ?_⟩
  · rw [contents, header]
  · rw [name, stem]

/-- Closing what is open leaves a file for each stretch. -/
theorem Keeps.close (keeps : Keeps venue book precision initial writer files consumed)
    (nowSeconds : Int64) :
    Partition venue book precision initial (writer.close files nowSeconds).2 consumed ∧
      (writer.close files nowSeconds).1.isOpen = false := by
  obtain ⟨kept, closed, current, earlier, fewer, rfl, parted, first⟩ := keeps
  have recorded := parted.runs_consumed
  cases current with
  | none =>
      have shut : writer.isOpen = false := parted.placed.isOpen
      have same : ∀ all, writer.close all nowSeconds = (writer, all) := fun all => by
        simp only [FileWriter.close, shut, Bool.not_false, ↓reduceIte]
      rw [same, Option.toList_none, List.append_nil]
      refine ⟨⟨kept, closed, fewer, rfl, ?_⟩, shut⟩
      rw [Option.elim_none, if_pos rfl, List.append_nil] at recorded
      have some_runs : runs consumed ≠ [] := by
        rw [recorded]
        exact fun empty => parted.opened rfl (List.map_eq_nil_iff.mp empty)
      rw [stretches, if_neg some_runs, recorded]
      apply isOf_of_parted parted.placed parted.stem
      intro file member
      exact parted.headers file (List.mem_append_left _ member)
  | some file =>
      obtain ⟨name, renamed, closing, placed, headers, content⟩ := parted.close nowSeconds
      rw [Option.toList_some, renamed, closing]
      refine ⟨⟨kept, closed ++ [{ file with name := name }], fewer, rfl, ?_⟩, rfl⟩
      have same : stretches consumed =
          (closed ++ [{ file with name := name }]).map File.records := by
        rw [content]
        rw [Option.elim_some] at recorded
        by_cases empty : file.records = []
        · rw [stretches, recorded, if_pos empty, first file rfl empty, empty]
          rfl
        · rw [if_neg empty] at recorded
          rw [stretches, recorded, if_neg (List.append_ne_nil_of_right_ne_nil _
            (List.cons_ne_nil _ _))]
      rw [same]
      rw [closing] at placed
      exact isOf_of_parted placed parted.stem headers

end Result

namespace Writing

variable {venue : String} {book : BookSpec} {precision : PairPrecision} {initial : Recordings}
  {nowNs : Int64} {actions : List Action} {state : Writing}

/-- What was handed to the writer is consumed or in its queue, and until the destructor
has returned the files are those of what is consumed. -/
structure Sound (venue : String) (book : BookSpec) (precision : PairPrecision)
    (initial : Recordings) (actions : List Action) (state : Writing) : Prop where
  fits : ∀ message ∈ (received actions).reduceOption, message.Fits
  running : state.destroyed = false → ∃ consumed,
    received actions = consumed ++ state.writer.queue ∧
      Keeps venue book precision initial state.writer state.files consumed
  finished : state.destroyed = true →
    Partition venue book precision initial state.files (received actions) ∧
      state.writer.isOpen = false ∧ state.stopping = true ∧ state.writer.queue = []

/-- What is received by one more action is received last. -/
theorem received_concat (actions : List Action) (action : Action) :
    received (actions ++ [action]) = received actions ++ action.entry?.toList := by
  unfold received
  rw [List.filterMap_append]
  cases action with
  | receive | onGap => rfl
  | consume | destroy | close => rfl

/-- An entry is queued. -/
theorem Sound.push (sound : Sound venue book precision initial actions state)
    {action : Action} {entry : Entry} {writer : FileWriter} (hands : action.entry? = some entry)
    (going : state.stopping = false) (fits : ∀ message, entry = some message → message.Fits)
    (pushed : state.writer.push entry = some writer) :
    Sound venue book precision initial (actions ++ [action])
      { state with writer := writer } := by
  have more : received (actions ++ [action]) = received actions ++ [entry] := by
    rw [received_concat, hands, Option.toList_some]
  refine ⟨?_, fun running => ?_, fun destroyed => ?_⟩
  · intro message member
    rw [more, List.reduceOption_append] at member
    rcases List.mem_append.mp member with old | new
    · exact sound.fits message old
    · apply fits message
      rw [List.reduceOption_mem_iff] at new
      exact (List.mem_singleton.mp new).symm
  · obtain ⟨consumed, handed, keeps⟩ := sound.running running
    rw [FileWriter.push_eq pushed]
    refine ⟨consumed, ?_, keeps.queue _⟩
    rw [more, handed, List.append_assoc]
  · have stopping := (sound.finished destroyed).2.2.1
    rw [going] at stopping
    contradiction

/-- The thread takes the oldest entry. -/
theorem Sound.consume {nowNs nowSeconds : Int64} {writer : FileWriter} {files : Recordings}
    (sound : Sound venue book precision initial actions state)
    (drained : state.writer.drain state.files nowNs nowSeconds = some (writer, files))
    (writable : ∀ file ∈ files, file.name = writer.path → Writable file) :
    Sound venue book precision initial (actions ++ [.consume nowNs nowSeconds])
      { state with writer := writer, files := files } := by
  have same : received (actions ++ [.consume nowNs nowSeconds]) = received actions := by
    rw [received_concat]
    exact List.append_nil _
  have waiting : state.writer.queue ≠ [] := by
    intro empty
    rw [FileWriter.drain, empty] at drained
    contradiction
  refine ⟨same ▸ sound.fits, fun running => ?_, fun destroyed => ?_⟩
  · obtain ⟨consumed, handed, keeps⟩ := sound.running running
    obtain ⟨entry, rest, queue⟩ := List.exists_cons_of_ne_nil waiting
    rw [FileWriter.drain, queue] at drained
    have result : FileWriter.consume { state.writer with queue := rest } state.files entry nowNs
        nowSeconds = (writer, files) := Option.some.inj drained
    have fits : ∀ message ∈ (consumed ++ [entry]).reduceOption, message.Fits := by
      intro message member
      apply sound.fits message
      rw [handed, queue, List.append_cons, List.reduceOption_append]
      exact List.mem_append_left _ member
    have later := (keeps.queue rest).consume entry nowNs nowSeconds fits
    have left := FileWriter.queue_consume { state.writer with queue := rest } state.files entry
      nowNs nowSeconds
    rw [result] at later left
    refine ⟨consumed ++ [entry], ?_, later writable⟩
    rw [same, handed, queue, left, List.append_cons]
  · exact (waiting (sound.finished destroyed).2.2.2).elim

/-- Every step keeps the files a partition of what was consumed. -/
theorem Sound.step {action : Action} {next : Writing}
    (sound : Sound venue book precision initial actions state)
    (stepped : step state action = some next) :
    Sound venue book precision initial (actions ++ [action]) next := by
  cases action with
  | receive message =>
      unfold Writing.step at stepped
      dsimp only at stepped
      split at stepped
      · rename_i allowed
        obtain ⟨writer, pushed, rfl⟩ := Option.map_eq_some_iff.mp stepped
        exact sound.push rfl allowed.1
          (fun other same => Option.some.inj same ▸ allowed.2) pushed
      · contradiction
  | onGap gap =>
      unfold Writing.step at stepped
      dsimp only at stepped
      split at stepped
      · rename_i going
        obtain ⟨writer, pushed, rfl⟩ := Option.map_eq_some_iff.mp stepped
        exact sound.push rfl going (fun other same => (Option.some_ne_none _ same.symm).elim)
          pushed
      · contradiction
  | consume nowNs nowSeconds =>
      obtain ⟨⟨writer, files⟩, drained, stepped⟩ := Option.bind_eq_some_iff.mp stepped
      split at stepped
      · rename_i writable
        obtain rfl := Option.some.inj stepped
        exact sound.consume drained writable
      · contradiction
  | destroy =>
      unfold Writing.step at stepped
      dsimp only at stepped
      split at stepped
      · contradiction
      · rename_i going
        obtain rfl := Option.some.inj stepped
        have same : received (actions ++ [.destroy]) = received actions := by
          rw [received_concat]
          exact List.append_nil _
        refine ⟨same ▸ sound.fits, same ▸ sound.running, fun destroyed => ?_⟩
        exact (going (sound.finished destroyed).2.2.1).elim
  | close nowSeconds =>
      unfold Writing.step at stepped
      dsimp only at stepped
      split at stepped
      · rename_i allowed
        obtain ⟨stopping, running, drained⟩ := allowed
        obtain rfl := Option.some.inj stepped
        have same : received (actions ++ [.close nowSeconds]) = received actions := by
          rw [received_concat]
          exact List.append_nil _
        obtain ⟨consumed, handed, keeps⟩ := sound.running running
        rw [drained, List.append_nil] at handed
        obtain ⟨parted, shut⟩ := keeps.close nowSeconds
        refine ⟨same ▸ sound.fits, fun running => by contradiction, fun _ => ?_⟩
        rw [same, handed]
        refine ⟨parted, shut, stopping, ?_⟩
        dsimp only
        rw [FileWriter.queue_close, drained]
      · contradiction

/-- **Recordings partition the stream.** In every run to the end of its destructor a file
writer leaves, besides files from before, one file for each run of messages between gaps,
in their order, or one without records if there was no message: each with the header of
the subscription, 64 bytes, and the messages of its run, closed and renamed. -/
theorem recordings_partition_stream
    (reached : (system venue book precision initial nowNs).run actions = some state)
    (destroyed : state.destroyed = true) :
    Partition venue book precision initial state.files (received actions) ∧
      (stretches (received actions)).flatten = (received actions).reduceOption ∧
      state.writer.isOpen = false ∧
      ∀ startNs, (makeFileHeader venue book precision startNs).bytes.length = 64 := by
  have sound : Sound venue book precision initial actions state :=
    @System.run_induction _ _ (system venue book precision initial nowNs)
      (fun actions state => Sound venue book precision initial actions state)
      ⟨fun _ member => (List.not_mem_nil member).elim,
        fun _ => ⟨[], rfl, Keeps.new venue book precision initial nowNs⟩,
        fun destroyed => Bool.noConfusion destroyed⟩
      (fun _ _ _ _ _ sound stepped => sound.step stepped) _ _ reached
  obtain ⟨parted, shut, _⟩ := sound.finished destroyed
  exact ⟨parted, flatten_stretches _, shut, length_header venue book precision⟩

/-- A snapshot of an empty book. -/
def emptySnapshot : Message := ⟨.snapshot, 0, 0, 0, "BTC/USD", [], []⟩

/-- A message, two gaps, and another message while the destructor waits. -/
def twoStretches : List Action :=
  [.receive emptySnapshot, .consume 1 1, .onGap .disconnected, .onGap .disconnected,
    .consume 2 2, .receive emptySnapshot, .destroy, .consume 3 3, .consume 4 4, .close 5]

/-- Two files, one for each message. -/
theorem recordings_partition_stream_two :
    ∃ state, (system "kraken" ⟨"BTC/USD", 10⟩ ⟨1, 8⟩ [] 0).run twoStretches = some state ∧
      Partition "kraken" ⟨"BTC/USD", 10⟩ ⟨1, 8⟩ [] state.files (received twoStretches) ∧
      (stretches (received twoStretches)).flatten = (received twoStretches).reduceOption ∧
      state.writer.isOpen = false ∧
      ∀ startNs, (makeFileHeader "kraken" ⟨"BTC/USD", 10⟩ ⟨1, 8⟩ startNs).bytes.length = 64 := by
  have ends : ((system "kraken" ⟨"BTC/USD", 10⟩ ⟨1, 8⟩ [] 0).run twoStretches).map
      Writing.destroyed = some true := by
    decide +kernel
  obtain ⟨state, reached, destroyed⟩ := Option.map_eq_some_iff.mp ends
  exact ⟨state, reached, recordings_partition_stream reached destroyed⟩

end Writing

end DataFeed.L2
