import Mathlib.Data.String.Basic
import DataFeed.Foundation.Directory
import DataFeed.L2.Stretch

/-! # The writer of one pair's recordings

A file writer is a receiver: messages and gaps go through a bounded queue to the
writer's own thread, which appends the messages to the open file and closes it at
a gap. A file is recorded under the time it was opened and gets its final name
when it is closed.

The clock readings are arguments, in nanoseconds where a file is opened and in
seconds where it is closed. File operations succeed, so the writer never fails.
-/

namespace DataFeed.L2

open Foundation

/-- Text in 16 bytes, zero padded or cut off. -/
def toFixedText (value : String) : List UInt8 :=
  let bytes := value.toUTF8.toList.take 16
  bytes ++ List.replicate (16 - bytes.length) 0

/-- The preamble of a recording. -/
structure FileHeader where
  magic : List UInt8
  formatVersion : UInt32
  depth : UInt32
  priceDecimals : UInt32
  qtyDecimals : UInt32
  startTimeNs : Int64
  venue : List UInt8
  symbol : List UInt8
  deriving DecidableEq, Repr

/-- The preamble of a recording of a book. -/
def makeFileHeader (venue : String) (book : BookSpec) (precision : PairPrecision)
    (startTimeNs : Int64) : FileHeader where
  magic := [75, 82, 75, 78, 76, 50, 0, 0]
  formatVersion := 1
  depth := book.depth
  priceDecimals := precision.priceDecimals
  qtyDecimals := precision.qtyDecimals
  startTimeNs := startTimeNs
  venue := toFixedText venue
  symbol := toFixedText book.symbol

/-- The working directory of the recordings. -/
abbrev Recordings := Directory FileHeader Message

/-- Records the messages of a single pair. -/
structure FileWriter where
  queue : List Entry
  symbolStem : String
  header : FileHeader
  fileStem : String
  path : String
  isOpen : Bool
  messagesInFile : UInt64

namespace FileWriter

/-- Capacity of the queue between the parser and the writer's thread. -/
def maxQueuedMessages : Nat := 256

def nanosPerSecond : Int64 := 1000000000

/-- The name of a recording that is still open, without its suffix. -/
def openStem (symbolStem : String) (seconds : Int64) : String :=
  symbolStem ++ "-" ++ toString seconds

/-- The name of a closed recording, the `number`th of its start and end time. -/
def finalName (stem : String) (finish : Int64) : Nat → String
  | 0 => stem ++ "-" ++ toString finish ++ ".bin"
  | number + 1 => stem ++ "-" ++ toString finish ++ "-" ++ toString (number + 1) ++ ".bin"

/-- The first of a recording's final names that is free, so that it never replaces
one that started and ended in the same seconds. -/
def finalPath (files : Recordings) (stem : String) (finish : Int64) : String :=
  files.freeName (finalName stem finish)

/-- Opens a file under the current time, and writes its header. -/
def openFile (writer : FileWriter) (files : Recordings) (nowNs : Int64) :
    FileWriter × Recordings :=
  let header := { writer.header with startTimeNs := nowNs }
  let stem := openStem writer.symbolStem (nowNs / nanosPerSecond)
  ({ writer with
      header := header
      fileStem := stem
      path := stem ++ ".bin"
      isOpen := true
      messagesInFile := 0 },
    files.create (stem ++ ".bin") header)

/-- Appends a message to the open file. -/
def write (writer : FileWriter) (files : Recordings) (message : Message) :
    FileWriter × Recordings :=
  ({ writer with messagesInFile := writer.messagesInFile + 1 },
    files.append writer.path message)

/-- Closes the file, if one is open, and gives it its final name. -/
def close (writer : FileWriter) (files : Recordings) (nowSeconds : Int64) :
    FileWriter × Recordings :=
  if !writer.isOpen then (writer, files)
  else
    ({ writer with isOpen := false },
      files.rename writer.path (finalPath files writer.fileStem nowSeconds))

/-- A writer that has no file yet. -/
def unopened (venue : String) (book : BookSpec) (precision : PairPrecision) : FileWriter where
  queue := []
  symbolStem := String.ofList (book.symbol.toList.filter (· ≠ '/'))
  header := makeFileHeader venue book precision 0
  fileStem := ""
  path := ""
  isOpen := false
  messagesInFile := 0

/-- A writer, with its first file opened. -/
def new (venue : String) (book : BookSpec) (precision : PairPrecision) (files : Recordings)
    (nowNs : Int64) : FileWriter × Recordings :=
  (unopened venue book precision).openFile files nowNs

/-- What the thread does with one entry. A file without messages is kept for the
next stretch. -/
def consume (writer : FileWriter) (files : Recordings) (entry : Entry) (nowNs nowSeconds : Int64) :
    FileWriter × Recordings :=
  match entry with
  | none => if writer.messagesInFile > 0 then writer.close files nowSeconds else (writer, files)
  | some message =>
      let opened := if !writer.isOpen then writer.openFile files nowNs else (writer, files)
      opened.1.write opened.2 message

/-- Queues an entry, if there is room: the caller waits while the queue is full. -/
def push (writer : FileWriter) (entry : Entry) : Option FileWriter :=
  if writer.queue.length < maxQueuedMessages then
    some { writer with queue := writer.queue ++ [entry] }
  else none

/-- One round of the thread: it takes the oldest entry, if there is one. -/
def drain (writer : FileWriter) (files : Recordings) (nowNs nowSeconds : Int64) :
    Option (FileWriter × Recordings) :=
  match writer.queue with
  | [] => none
  | entry :: rest => some (consume { writer with queue := rest } files entry nowNs nowSeconds)

end FileWriter

section Names

theorem dash_not_mem_repr (number : Nat) : '-' ∉ number.repr.toList := by
  rw [Nat.toList_repr]
  intro member
  have digit := Nat.isDigit_of_mem_toDigits (by decide) (by decide) member
  exact absurd digit (by decide)

theorem repr_inj {first second : Nat} (same : first.repr = second.repr) : first = second := by
  have digits : Nat.toDigits 10 first = Nat.toDigits 10 second := by
    rw [← Nat.toList_repr, ← Nat.toList_repr, same]
  rw [← @Nat.ofDigitChars_ten_toDigits first, digits, Nat.ofDigitChars_ten_toDigits]

/-- A number's text is not empty, and has a dash at its front at most. -/
theorem toList_toString (value : Int64) :
    ∃ first rest, (toString value).toList = first :: rest ∧ '-' ∉ rest := by
  change ∃ first rest, value.toInt.repr.toList = first :: rest ∧ '-' ∉ rest
  cases value.toInt with
  | ofNat number =>
      have digits := dash_not_mem_repr number
      change ∃ first rest, number.repr.toList = first :: rest ∧ '-' ∉ rest
      cases text : number.repr.toList with
      | nil =>
          rw [Nat.toList_repr] at text
          exact (Nat.toDigits_ne_nil text).elim
      | cons first rest =>
          rw [text] at digits
          exact ⟨first, rest, rfl, fun member => digits (List.mem_cons_of_mem _ member)⟩
  | negSucc number =>
      refine ⟨'-', number.succ.repr.toList, ?_, dash_not_mem_repr _⟩
      change ("-" ++ number.succ.repr).toList = _
      rw [String.toList_append]
      rfl

end Names

namespace FileWriter

/-- No two of a recording's final names are the same. -/
theorem finalName_inj {stem : String} {finish : Int64} (first second : Nat)
    (same : finalName stem finish first = finalName stem finish second) : first = second := by
  have texts := congrArg String.toList same
  cases first with
  | zero =>
      cases second with
      | zero => rfl
      | succ second =>
          simp only [finalName, String.toList_append, List.append_assoc,
            List.append_cancel_left_eq] at texts
          exact absurd (List.cons.inj texts).1 (by decide)
  | succ first =>
      cases second with
      | zero =>
          simp only [finalName, String.toList_append, List.append_assoc,
            List.append_cancel_left_eq] at texts
          exact absurd (List.cons.inj texts).1 (by decide)
      | succ second =>
          simp only [finalName, String.toList_append, List.append_assoc,
            List.append_cancel_left_eq, List.append_cancel_right_eq] at texts
          exact repr_inj (String.toList_inj.mp texts)

theorem finalName_prefix (stem : String) (finish : Int64) (number : Nat) :
    ∃ rest, finalName stem finish number = stem ++ ("-" ++ rest) := by
  cases number with
  | zero => exact ⟨toString finish ++ ".bin", by simp only [finalName, String.append_assoc]⟩
  | succ number =>
      exact ⟨toString finish ++ ("-" ++ (toString (number + 1) ++ ".bin")),
        by simp only [finalName, String.append_assoc]⟩

/-- A closed recording does not have the name of one that is open. -/
theorem finalName_ne_open (symbolStem : String) (start finish seconds : Int64) (number : Nat) :
    finalName (openStem symbolStem start) finish number ≠
      openStem symbolStem seconds ++ ".bin" := by
  intro same
  obtain ⟨tail, closed⟩ := finalName_prefix (openStem symbolStem start) finish number
  obtain ⟨_, starting, startText, _⟩ := toList_toString start
  obtain ⟨_, opened, openText, digits⟩ := toList_toString seconds
  have texts := congrArg String.toList (closed.symm.trans same)
  simp only [openStem, String.toList_append, List.append_assoc, List.append_cancel_left_eq,
    startText, openText] at texts
  have later : starting ++ ("-".toList ++ tail.toList) = opened ++ ".bin".toList :=
    (List.cons.inj texts).2
  have dash : '-' ∈ opened ++ ".bin".toList :=
    later ▸ List.mem_append_right starting (List.mem_append_left _ (by decide))
  rcases List.mem_append.mp dash with within | suffix
  · exact digits within
  · exact absurd suffix (by decide)

end FileWriter

end DataFeed.L2
