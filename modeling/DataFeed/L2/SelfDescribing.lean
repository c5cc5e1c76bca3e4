import DataFeed.L2.Partition

/-! # Reading a recording back

A reader of a recording has nothing but the bytes of its file. It takes the 64 bytes of
the header field by field, refuses a file that does not begin with the magic or has
another version, and with the symbol from the header reads the records up to the end of
the file. The fixed width texts have no terminator if they fill their field, so they end
with the field or with the first zero in it.

What such a reader makes of the files that a writer has left is what the writer was told
of its subscription and what it was handed.
-/

namespace DataFeed.L2

open Foundation

/-! ## Texts of a fixed width -/

/-- The text in a field: its bytes up to the first zero, if they are UTF-8. -/
def fieldText (field : List UInt8) : Option String :=
  String.fromUTF8? ⟨(field.takeWhile (· ≠ 0)).toArray⟩

/-- The text has room in a field, and can be told from what fills the field up. -/
def FitsField (value : String) : Prop :=
  value.toUTF8.data.toList.length ≤ 16 ∧ ∀ byte ∈ value.toUTF8.data.toList, byte ≠ 0

instance instDecidableFitsField (value : String) : Decidable (FitsField value) :=
  inferInstanceAs (Decidable (_ ∧ _))

/-- The loop that lists a byte array has read what is before its index. -/
theorem byteArray_toList_loop (bytes : ByteArray) (index : Nat) (taken : List UInt8) :
    ByteArray.toList.loop bytes index taken =
      taken.reverse ++ bytes.data.toList.drop index := by
  fun_induction ByteArray.toList.loop bytes index taken with
  | case1 index taken inside ih =>
      have first : bytes.data.toList.drop index =
          bytes.get! index :: bytes.data.toList.drop (index + 1) := by
        rw [List.drop_eq_getElem_cons inside]
        exact congrArg (· :: _) (getElem!_pos bytes.data index inside).symm
      rw [ih, first, List.reverse_cons, List.append_assoc, List.singleton_append]
  | case2 index taken outside =>
      have none : bytes.data.toList.drop index = [] :=
        List.drop_of_length_le (Nat.le_of_not_lt outside)
      rw [none, List.append_nil]

theorem byteArray_toList (bytes : ByteArray) : bytes.toList = bytes.data.toList :=
  byteArray_toList_loop bytes 0 []

/-- A text that fits is read from its field. -/
theorem fieldText_toFixedText {value : String} (fits : FitsField value) :
    fieldText (toFixedText value) = some value := by
  obtain ⟨short, ended⟩ := fits
  have field : toFixedText value = value.toUTF8.data.toList ++
      List.replicate (16 - value.toUTF8.data.toList.length) 0 := by
    rw [toFixedText, byteArray_toList, List.take_of_length_le short]
  have until_zero : (toFixedText value).takeWhile (· ≠ 0) = value.toUTF8.data.toList := by
    rw [field, List.takeWhile_append_of_pos fun byte member => by simpa using ended byte member,
      List.takeWhile_replicate, if_neg (by decide), List.append_nil]
  rw [fieldText, until_zero, Array.toArray_toList]
  exact dif_pos value.isValidUTF8

/-! ## The header -/

/-- The fields of the header, in order. -/
def preamble : Codec (List UInt8 × UInt32 × UInt32 × UInt32 × UInt32 × Int64 × List UInt8 ×
    List UInt8) :=
  (Codec.raw 8).pair (unsigned.pair (unsigned.pair (unsigned.pair (unsigned.pair (signed.pair
    ((Codec.raw 16).pair (Codec.raw 16)))))))

/-- The first 64 bytes of a recording. -/
def header : Codec FileHeader :=
  preamble.via
    (fun header => (header.magic, header.formatVersion, header.depth, header.priceDecimals,
      header.qtyDecimals, header.startTimeNs, header.venue, header.symbol))
    (fun parts => some ⟨parts.1, parts.2.1, parts.2.2.1, parts.2.2.2.1, parts.2.2.2.2.1,
      parts.2.2.2.2.2.1, parts.2.2.2.2.2.2.1, parts.2.2.2.2.2.2.2⟩)
    (fun header => header.magic.length = 8 ∧ header.venue.length = 16 ∧
      header.symbol.length = 16)
    fun _ valid => ⟨⟨valid.1, trivial, trivial, trivial, trivial, trivial, valid.2.1, valid.2.2⟩,
      rfl⟩

/-- The writer copies the header's memory, which is its fields one after another. -/
theorem header_write (preamble : FileHeader) : header.write preamble = preamble.bytes := by
  simp only [header, L2.preamble, unsigned, signed, Codec.via, Codec.pair, Codec.number, Codec.raw,
    FileHeader.bytes, List.append_assoc]

/-- What is written of a header is read again. -/
theorem header_read (venue : String) (book : BookSpec) (precision : PairPrecision)
    (startNs : Int64) (rest : List UInt8) :
    header.read ((makeFileHeader venue book precision startNs).bytes ++ rest) =
      some (makeFileHeader venue book precision startNs, rest) := by
  rw [← header_write]
  exact header.read_write _ ⟨rfl, length_toFixedText venue, length_toFixedText book.symbol⟩ rest

/-! ## A reader -/

/-- What a reader makes of a recording. -/
structure Reading where
  venue : String
  book : BookSpec
  precision : PairPrecision
  startTimeNs : Int64
  messages : List Message
  deriving DecidableEq

/-- Reads a recording from its bytes: none if it is not one, is of another version or is
damaged. -/
def readRecording (bytes : List UInt8) : Option Reading :=
  (header.read bytes).bind fun parts =>
    if parts.1.magic = [75, 82, 75, 78, 76, 50, 0, 0] ∧ parts.1.formatVersion = 1 then
      (fieldText parts.1.venue).bind fun venue =>
        (fieldText parts.1.symbol).bind fun symbol =>
          ((record symbol).readAll parts.2).map fun messages =>
            { venue := venue
              book := ⟨symbol, parts.1.depth⟩
              precision := ⟨parts.1.priceDecimals, parts.1.qtyDecimals⟩
              startTimeNs := parts.1.startTimeNs
              messages := messages }
    else none

/-- A reader gets back what the writer of a file was told, and the messages in it. -/
theorem readRecording_isOf {venue : String} {book : BookSpec} {precision : PairPrecision}
    {file : Recording} {run : List Message} (venueFits : FitsField venue)
    (symbolFits : FitsField book.symbol) (fits : ∀ message ∈ run, message.Fits)
    (recorded : file.IsOf venue book precision run) :
    ∃ startNs, readRecording (contents file) =
      some ⟨venue, book, precision, startNs, run.map (Message.named book.symbol)⟩ := by
  obtain ⟨⟨startNs, whole⟩, -⟩ := recorded
  refine ⟨startNs, ?_⟩
  have venueText : fieldText (makeFileHeader venue book precision startNs).venue = some venue :=
    fieldText_toFixedText venueFits
  have symbolText :
      fieldText (makeFileHeader venue book precision startNs).symbol = some book.symbol :=
    fieldText_toFixedText symbolFits
  rw [readRecording, whole, header_read, Option.bind_some, if_pos ⟨rfl, rfl⟩, venueText,
    Option.bind_some, symbolText, Option.bind_some, Message.readAll_bytes _ fits, Option.map_some]
  rfl

/-- A reader gets back what is in each of some files. -/
theorem readRecordings_isOf {venue : String} {book : BookSpec} {precision : PairPrecision}
    {files : List Recording} {parts : List (List Message)} (venueFits : FitsField venue)
    (symbolFits : FitsField book.symbol) (fits : ∀ run ∈ parts, ∀ message ∈ run, message.Fits)
    (recorded : List.Forall₂ (Recording.IsOf venue book precision) files parts) :
    List.Forall₂ (fun file run => ∃ startNs, readRecording (contents file) =
      some ⟨venue, book, precision, startNs, run.map (Message.named book.symbol)⟩) files parts := by
  induction recorded with
  | nil => exact List.Forall₂.nil
  | cons first _ ih =>
      refine List.Forall₂.cons ?_ (ih fun run listed => fits run (List.mem_cons_of_mem _ listed))
      exact readRecording_isOf venueFits symbolFits (fits _ List.mem_cons_self) first

/-! ## The writer's files -/

/-- A message of a stretch was handed to the writer. -/
theorem mem_of_stretch {entries : List Entry} {run : List Message} {message : Message}
    (listed : run ∈ stretches entries) (member : message ∈ run) :
    message ∈ entries.reduceOption := by
  rw [← flatten_stretches]
  exact List.mem_flatten_of_mem listed member

namespace Writing

/-- **A recording describes itself.** In every run of a file writer to the end of its
destructor, each file that it leaves can be read from its bytes alone: its reader gets the
venue, the symbol, the depth and the precision that the writer was made with, and the
messages of the file's stretch, all of them and in order. -/
theorem recording_describes_itself {venue : String} {book : BookSpec} {precision : PairPrecision}
    {initial : Recordings} {nowNs : Int64} {actions : List Action} {state : Writing}
    (venueFits : FitsField venue) (symbolFits : FitsField book.symbol)
    (reached : (system venue book precision initial nowNs).run actions = some state)
    (destroyed : state.destroyed = true) :
    ∃ kept ours, kept.Sublist initial ∧ state.files = kept ++ ours ∧
      List.Forall₂ (fun file run => ∃ startNs, readRecording (contents file) =
          some ⟨venue, book, precision, startNs, run.map (Message.named book.symbol)⟩)
        ours (stretches (received actions)) := by
  have sound : Sound venue book precision initial actions state :=
    @System.run_induction _ _ (system venue book precision initial nowNs)
      (fun actions state => Sound venue book precision initial actions state)
      ⟨fun _ member => (List.not_mem_nil member).elim,
        fun _ => ⟨[], rfl, Keeps.new venue book precision initial nowNs⟩,
        fun destroyed => Bool.noConfusion destroyed⟩
      (fun _ _ _ _ _ sound stepped => sound.step stepped) _ _ reached
  obtain ⟨⟨kept, ours, fewer, same, parted⟩, -⟩ := sound.finished destroyed
  have all : ∀ run ∈ stretches (received actions), ∀ message ∈ run, message.Fits :=
    fun run listed message member => sound.fits message (mem_of_stretch listed member)
  exact ⟨kept, ours, fewer, same, readRecordings_isOf venueFits symbolFits all parted⟩

/-- The files of two stretches are read back. -/
theorem recording_describes_itself_two :
    ∃ state, (system "kraken" ⟨"BTC/USD", 10⟩ ⟨1, 8⟩ [] 0).run twoStretches = some state ∧
      ∃ kept ours, kept.Sublist [] ∧ state.files = kept ++ ours ∧
        List.Forall₂ (fun file run => ∃ startNs, readRecording (contents file) =
            some ⟨"kraken", ⟨"BTC/USD", 10⟩, ⟨1, 8⟩, startNs, run.map (Message.named "BTC/USD")⟩)
          ours (stretches (received twoStretches)) := by
  have ends : ((system "kraken" ⟨"BTC/USD", 10⟩ ⟨1, 8⟩ [] 0).run twoStretches).map
      Writing.destroyed = some true := by
    decide +kernel
  obtain ⟨state, reached, destroyed⟩ := Option.map_eq_some_iff.mp ends
  have venue : FitsField "kraken" := by decide +kernel
  have symbol : FitsField "BTC/USD" := by decide +kernel
  exact ⟨state, reached, recording_describes_itself venue symbol reached destroyed⟩

end Writing

end DataFeed.L2
