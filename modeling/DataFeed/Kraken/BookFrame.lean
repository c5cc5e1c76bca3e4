import DataFeed.Venue.ExactLevels

/-! # Which book frames are taken

Kraken documents a book frame as a snapshot or an update whose "data" is one book change.
The decoder throws at most frames that are laid out otherwise. It does not look at the
entries after the first, takes any type but "snapshot" to be an update, and any text that
is not a number to be no checksum.
-/

namespace DataFeed.Kraken

open DataFeed.Core L2 Net Venue Decoding Foundation

/-- A book change as Kraken documents it. -/
structure BookChange where
  type : MessageType
  symbol : String
  /-- Zero if none is sent. -/
  checksum : UInt32
  shown : Source
  deriving DecidableEq, Repr

/-- The number a text of digits stands for, if it has 32 bits. -/
def decimalU32 (text : String) : Option UInt32 :=
  if bytes text ≠ [] ∧ AllDigits (bytes text) ∧ numeral (bytes text) < 2 ^ 32 then
    some (UInt32.ofNat (numeral (bytes text)))
  else none

/-- The checksum, if it is missing or a number. -/
def documentedChecksum (data : Json) : Option UInt32 :=
  match data.findMember "checksum" with
  | none => some 0
  | some (.string text) => decimalU32 text
  | some _ => none

/-- The only entry of the "data" array. -/
def documentedData (document : Json) : Option Json :=
  match document.findMember "data" with
  | some (.array [.object members]) => some (.object members)
  | _ => none

/-- The book change of a frame that is laid out as documented. -/
def documented (document : Json) : Option BookChange :=
  ((document.textOf "type").bind documentedType).bind fun type =>
    (documentedData document).bind fun data =>
      (data.textOf "symbol").bind fun symbol =>
        (documentedChecksum data).bind fun checksum =>
          (sideText data "bids").bind fun bids =>
            (sideText data "asks").map fun asks => ⟨type, symbol, checksum, ⟨bids, asks⟩⟩

/-- A message has all of a book change. -/
structure BookChange.Carried (scale : String → UInt32 → Int64) (precision : PairPrecision)
    (captureTimeNs : Int64) (change : BookChange) (message : Message) : Prop where
  type : message.type = change.type
  symbol : message.symbol = change.symbol
  checksum : message.checksum = change.checksum
  captured : message.captureTimeNs = captureTimeNs
  levels : change.shown.Drawn scale precision message

/-- The pairs that a frame has book changes of. -/
def pairs (document : Json) : List String :=
  match document.findMember "data" with
  | some (.array entries) => entries.filterMap fun entry => entry.textOf "symbol"
  | _ => []

variable {State : Type}

/-- The output wants a book change of the pair: of the frame's type, if that is a
documented one, and of either type if it is not. -/
def Wanted (output : Output State) (state : State) (document : Json) (symbol : String) : Prop :=
  ∃ type, (∀ known, (document.textOf "type").bind documentedType = some known → type = known) ∧
    (output.find state symbol type).isSome

/-- Nothing in the frame is lost: what is documented is emitted, and what is not is thrown
at, unless all that it has is of pairs that are not wanted. -/
def Faithful (scale : String → UInt32 → Int64) (output : Output State) (state : State)
    (frame : RawFrame) (document : Json) (outcome : Outcome State L2Decoder) : Prop :=
  (∀ change precision, documented document = some change →
      output.find state change.symbol change.type = some precision →
        ∃ message, change.Carried scale precision frame.captureTimeNs message ∧
          outcome.emitted = [message] ∧ ∃ after, outcome.result = .ok after) ∧
    (documented document = none →
      (pairs document = [] ∨ ∃ symbol ∈ pairs document, Wanted output state document symbol) →
        outcome.emitted = [] ∧ ∃ what, outcome.result = .error what)

/-- What the decoder does not look at is as documented: in a frame whose first entry it
gets to, the pair it asks for is wanted if any is, and where both sides are levels, type,
entries and checksum are as documented just if checksum and time are texts. -/
def Settled (output : Output State) (state : State) (document : Json) : Prop :=
  ∀ data symbol text, bookData document = .ok data → data.textOf "symbol" = some symbol →
    document.textOf "type" = some text →
      match output.find state symbol (if text = "snapshot" then .snapshot else .update) with
      | none => ∀ named ∈ pairs document, ¬ Wanted output state document named
      | some _ =>
          (sideText data "bids").isSome → (sideText data "asks").isSome →
            (((documentedType text).isSome ∧ documentedData document = some data ∧
                (documentedChecksum data).isSome) ↔
              data.TextIfAny "checksum" ∧ data.TextIfAny "timestamp")

section Reading

variable {document data : Json} {text : String}

/-- The decoder reads the first object of a nonempty array of data. -/
theorem bookData_eq_ok_iff :
    bookData document = .ok data ↔ ∃ members rest, data = .object members ∧
      document.findMember "data" = some (.array (data :: rest)) := by
  constructor
  · intro holds
    obtain ⟨rest, entries⟩ := findMember_of_bookData holds
    unfold bookData at holds
    rw [Json.requireArray_eq_ok_iff.mpr entries] at holds
    cases data with
    | object members => exact ⟨members, rest, rfl, entries⟩
    | null | boolean | string | array => contradiction
  · rintro ⟨members, rest, rfl, entries⟩
    unfold bookData
    rw [Json.requireArray_eq_ok_iff.mpr entries]
    rfl

/-- The documented layout has one object of data and no more. -/
theorem documentedData_eq_some_iff :
    documentedData document = some data ↔ ∃ members, data = .object members ∧
      document.findMember "data" = some (.array [data]) := by
  unfold documentedData
  constructor
  · intro only
    split at only
    · rename_i members entries
      obtain rfl := Option.some.inj only
      exact ⟨members, rfl, entries⟩
    · contradiction
  · rintro ⟨members, rfl, entries⟩
    rw [entries]

/-- The only entry is the one that is decoded. -/
theorem bookData_of_documentedData (only : documentedData document = some data) :
    bookData document = .ok data := by
  obtain ⟨members, object, entries⟩ := documentedData_eq_some_iff.mp only
  exact bookData_eq_ok_iff.mpr ⟨members, [], object, entries⟩

/-- Both read a documented type alike. -/
theorem readType_of_documentedType {type : MessageType} (known : documentedType text = some type) :
    (if text = "snapshot" then MessageType.snapshot else .update) = type := by
  unfold documentedType at known
  split at known
  · rename_i snapshot
    rw [if_pos snapshot]
    exact Option.some.inj known
  · rename_i other
    rw [if_neg other]
    split at known
    · exact Option.some.inj known
    · contradiction

/-- A number of 32 bits is read as it is. -/
theorem fromCharsU32_of_decimalU32 {value : UInt32} (decimal : decimalU32 text = some value) :
    UInt32.ofNat ((fromCharsU32 (bytes text)).valueOr 0).toNat = value := by
  unfold decimalU32 at decimal
  split at decimal
  · rename_i number
    obtain ⟨some, digits, small⟩ := number
    obtain rfl := Option.some.inj decimal
    have range : (0 : Int) ≤ numeral (bytes text) ∧
        (numeral (bytes text) : Int) ≤ 4294967295 := by
      omega
    unfold fromCharsU32 fromChars
    simp only [Bool.false_and, Bool.false_eq_true, if_false, leadingDigits_eq digits, some,
      range, and_self, if_true, FromChars.valueOr, Int.toNat_natCast]
  · contradiction

/-- Both read a documented checksum alike. -/
theorem parseChecksum_of_documentedChecksum {value : UInt32}
    (known : documentedChecksum data = some value) : parseChecksum data = .ok value := by
  unfold documentedChecksum at known
  unfold parseChecksum
  split at known
  · rename_i missing
    obtain rfl := Option.some.inj known
    rw [(@Json.findString_eq_ok_iff _ _ none).mpr missing]
    rfl
  · rename_i text member
    rw [(@Json.findString_eq_ok_iff _ _ (some text)).mpr member]
    exact congrArg Except.ok (fromCharsU32_of_decimalU32 known)
  · contradiction

end Reading

section Levels

variable {scale : String → UInt32 → Int64} {precision : PairPrecision}

/-- A level with two texts is parsed to their values. -/
theorem parseLevel_of_levelText {level : Json} {text : LevelText}
    (spelled : levelText level = some text) :
    parseLevel scale precision level = .ok (text.scaled scale precision) := by
  unfold levelText at spelled
  split at spelled
  · rename_i price quantity priced counted
    obtain rfl := Option.some.inj spelled
    unfold parseLevel parseScaled
    rw [Json.requireString_eq_ok_iff.mpr priced, Json.requireString_eq_ok_iff.mpr counted]
    rfl
  · contradiction

/-- Levels with two texts each are parsed to their values, in order. -/
theorem parseLevels_of_texts {levels : List Json} {texts : List LevelText}
    (spelled : levels.mapM levelText = some texts) :
    levels.mapM (parseLevel scale precision) =
      .ok (texts.map (LevelText.scaled scale precision)) := by
  induction levels generalizing texts with
  | nil =>
      obtain rfl := Option.some.inj spelled
      rfl
  | cons level levels ih =>
      rw [List.mapM_cons, Option.bind_eq_bind, Option.bind_eq_some_iff] at spelled
      obtain ⟨text, first, spelled⟩ := spelled
      rw [Option.bind_eq_bind, Option.bind_eq_some_iff] at spelled
      obtain ⟨others, rest, same⟩ := spelled
      obtain rfl := Option.some.inj same
      rw [List.mapM_cons, parseLevel_of_levelText first, ih rest]
      rfl

/-- A side of levels is parsed. -/
theorem parseSide_of_sideText {data : Json} {name : String} {texts : List LevelText}
    (side : sideText data name = some texts) :
    parseSide scale data name precision = .ok (texts.map (LevelText.scaled scale precision)) := by
  unfold sideText at side
  split at side
  · rename_i levels listed
    unfold parseSide
    rw [Json.requireArray_eq_ok_iff.mpr listed]
    exact parseLevels_of_texts side
  · contradiction

/-- What is not a side of levels is thrown at. -/
theorem parseSide_of_sideText_none {data : Json} {name : String}
    (side : sideText data name = none) :
    ∃ what, parseSide scale data name precision = .error what := by
  cases parsed : parseSide scale data name precision with
  | error what => exact ⟨what, rfl⟩
  | ok levels =>
      obtain ⟨texts, spelled, _⟩ := sideText_of_parseSide parsed
      rw [side] at spelled
      contradiction

end Levels

section Taking

variable {scale : String → UInt32 → Int64} {parse : String → Option Json} {decoder : L2Decoder}
  {frame : RawFrame} {document data : Json} {symbol text : String} {output : Output State}
  {state : State} {precision : PairPrecision}

/-- Everything that is parsed of a book change after its pair is found is what it must be. -/
def Parses (data : Json) : Prop :=
  data.TextIfAny "checksum" ∧ data.TextIfAny "timestamp" ∧ (sideText data "bids").isSome ∧
    (sideText data "asks").isSome

/-- A frame on the book channel is decoded in these steps, each of which may throw. -/
theorem decode_of_book (parsed : parse frame.json = some document)
    (book : document.findMember "channel" = some (.string "book")) :
    decode scale parse decoder frame =
      .attempt (bookData document) fun data =>
        .attempt (data.requireString "symbol") fun symbol =>
          .attempt ((document.requireString "type").map fun type =>
              if type = "snapshot" then MessageType.snapshot else .update) fun type =>
            .find symbol type fun precision =>
              match precision with
              | none => .done decoder
              | some precision =>
                  .attempt (parseChecksum data) fun checksum =>
                    .attempt (parseVenueTime data) fun time =>
                      .attempt (parseSide scale data "bids" precision) fun buys =>
                        .attempt (parseSide scale data "asks" precision) fun sells =>
                          .emit ⟨type, checksum, time, frame.captureTimeNs, symbol, buys, sells⟩
                            (.done decoder) := by
  cases document with
  | object members =>
      unfold decode
      rw [parsed]
      dsimp only
      rw [book]
      exact if_neg (not_not_intro rfl)
  | null | boolean | string | array => contradiction

/-- A frame whose pair cannot be read is thrown at. -/
theorem run_unread (parsed : parse frame.json = some document)
    (book : document.findMember "channel" = some (.string "book"))
    (unread : ∀ data symbol text, bookData document = .ok data →
      data.textOf "symbol" = some symbol → document.textOf "type" ≠ some text) :
    (run output state (decode scale parse decoder frame)).emitted = [] ∧
      ∃ what, (run output state (decode scale parse decoder frame)).result = .error what := by
  rw [decode_of_book parsed book]
  cases first : bookData document with
  | error what => exact ⟨rfl, what, rfl⟩
  | ok data =>
      rw [run_attempt_ok]
      cases pair : data.textOf "symbol" with
      | none =>
          obtain ⟨what, missing⟩ := Json.requireString_of_textOf_none pair
          rw [missing]
          exact ⟨rfl, what, rfl⟩
      | some symbol =>
          rw [Json.requireString_eq_ok_iff_textOf.mpr pair, run_attempt_ok]
          cases type : document.textOf "type" with
          | none =>
              obtain ⟨what, missing⟩ := Json.requireString_of_textOf_none type
              rw [missing]
              exact ⟨rfl, what, rfl⟩
          | some text => exact (unread data symbol text first pair type).elim

variable (parsed : parse frame.json = some document)
  (book : document.findMember "channel" = some (.string "book"))
  (first : bookData document = .ok data) (pair : data.textOf "symbol" = some symbol)
  (typed : document.textOf "type" = some text)

include parsed book first pair typed

/-- A book change that is not wanted is skipped. -/
theorem run_unwanted
    (unwanted : output.find state symbol (if text = "snapshot" then .snapshot else .update) =
      none) :
    run output state (decode scale parse decoder frame) = ⟨[], state, .ok decoder⟩ := by
  rw [decode_of_book parsed book, first, run_attempt_ok,
    Json.requireString_eq_ok_iff_textOf.mpr pair, run_attempt_ok,
    Json.requireString_eq_ok_iff_textOf.mpr typed, Except.map, run_attempt_ok, run_find,
    unwanted, run_done]

/-- A wanted book change is emitted if all of it parses, and thrown at otherwise. -/
theorem run_wanted
    (wanted : output.find state symbol (if text = "snapshot" then .snapshot else .update) =
      some precision) :
    (∃ checksum time bids asks, parseChecksum data = .ok checksum ∧
        sideText data "bids" = some bids ∧ sideText data "asks" = some asks ∧ Parses data ∧
        (run output state (decode scale parse decoder frame)).emitted =
          [⟨if text = "snapshot" then .snapshot else .update, checksum, time, frame.captureTimeNs,
            symbol, bids.map (LevelText.scaled scale precision),
            asks.map (LevelText.scaled scale precision)⟩] ∧
        (run output state (decode scale parse decoder frame)).result = .ok decoder) ∨
      (¬ Parses data ∧ (run output state (decode scale parse decoder frame)).emitted = [] ∧
        ∃ what, (run output state (decode scale parse decoder frame)).result = .error what) := by
  rw [decode_of_book parsed book, first, run_attempt_ok,
    Json.requireString_eq_ok_iff_textOf.mpr pair, run_attempt_ok,
    Json.requireString_eq_ok_iff_textOf.mpr typed, Except.map, run_attempt_ok, run_find,
    wanted]
  dsimp only
  cases summed : parseChecksum data with
  | error what =>
      refine Or.inr ⟨fun parses => ?_, rfl, what, rfl⟩
      obtain ⟨found, read⟩ := Json.textIfAny_iff.mp parses.1
      unfold parseChecksum at summed
      rw [read] at summed
      contradiction
  | ok checksum =>
      obtain ⟨sum, readSum, _⟩ := map_eq_ok summed
      rw [run_attempt_ok]
      cases timed : parseVenueTime data with
      | error what =>
          refine Or.inr ⟨fun parses => ?_, rfl, what, rfl⟩
          obtain ⟨found, read⟩ := Json.textIfAny_iff.mp parses.2.1
          unfold parseVenueTime at timed
          rw [read] at timed
          contradiction
      | ok time =>
          obtain ⟨sent, readTime, _⟩ := map_eq_ok timed
          rw [run_attempt_ok]
          cases bidding : sideText data "bids" with
          | none =>
              obtain ⟨what, refused⟩ :=
                @parseSide_of_sideText_none scale precision _ _ bidding
              rw [refused]
              refine Or.inr ⟨fun parses => ?_, rfl, what, rfl⟩
              exact absurd parses.2.2.1 (by rw [bidding]; exact Bool.false_ne_true)
          | some bids =>
              rw [parseSide_of_sideText bidding, run_attempt_ok]
              cases asking : sideText data "asks" with
              | none =>
                  obtain ⟨what, refused⟩ :=
                    @parseSide_of_sideText_none scale precision _ _ asking
                  rw [refused]
                  refine Or.inr ⟨fun parses => ?_, rfl, what, rfl⟩
                  exact absurd parses.2.2.2 (by rw [asking]; exact Bool.false_ne_true)
              | some asks =>
                  rw [parseSide_of_sideText asking, run_attempt_ok, run_emit, run_done]
                  refine Or.inl ⟨checksum, time, bids, asks, rfl, rfl, rfl, ⟨?_, ?_, ?_, ?_⟩, rfl,
                    rfl⟩
                  · exact Json.textIfAny_iff.mpr ⟨sum, readSum⟩
                  · exact Json.textIfAny_iff.mpr ⟨sent, readTime⟩
                  · rw [bidding]
                    rfl
                  · rw [asking]
                    rfl

end Taking

section Law

variable {document data : Json} {symbol text : String} {change : BookChange}
  {output : Output State} {state : State}

/-- A documented frame has a pair and a type, and no further entry. -/
theorem reads_of_documented (known : documented document = some change) :
    ∃ data text, bookData document = .ok data ∧ data.textOf "symbol" = some change.symbol ∧
      document.textOf "type" = some text ∧ documentedType text = some change.type ∧
      documentedData document = some data ∧ documentedChecksum data = some change.checksum ∧
      sideText data "bids" = some change.shown.bids ∧
      sideText data "asks" = some change.shown.asks := by
  unfold documented at known
  obtain ⟨type, typed, known⟩ := Option.bind_eq_some_iff.mp known
  obtain ⟨text, typed, type⟩ := Option.bind_eq_some_iff.mp typed
  obtain ⟨data, only, known⟩ := Option.bind_eq_some_iff.mp known
  obtain ⟨symbol, pair, known⟩ := Option.bind_eq_some_iff.mp known
  obtain ⟨checksum, summed, known⟩ := Option.bind_eq_some_iff.mp known
  obtain ⟨bids, bidding, known⟩ := Option.bind_eq_some_iff.mp known
  obtain ⟨asks, asking, rfl⟩ := Option.map_eq_some_iff.mp known
  exact ⟨data, text, bookData_of_documentedData only, pair, typed, type, only, summed, bidding,
    asking⟩

/-- A document each part of which is documented is documented. -/
theorem documented_isSome (pair : data.textOf "symbol" = some symbol)
    (typed : document.textOf "type" = some text) (type : (documentedType text).isSome)
    (only : documentedData document = some data) (summed : (documentedChecksum data).isSome)
    (bidding : (sideText data "bids").isSome) (asking : (sideText data "asks").isSome) :
    (documented document).isSome := by
  obtain ⟨type, known⟩ := Option.isSome_iff_exists.mp type
  obtain ⟨checksum, sum⟩ := Option.isSome_iff_exists.mp summed
  obtain ⟨bids, bid⟩ := Option.isSome_iff_exists.mp bidding
  obtain ⟨asks, ask⟩ := Option.isSome_iff_exists.mp asking
  unfold documented
  rw [typed, Option.bind_some, known, Option.bind_some, only, Option.bind_some, pair,
    Option.bind_some, sum, Option.bind_some, bid, Option.bind_some, ask]
  rfl

/-- The pair that is asked for is one that the frame has. -/
theorem mem_pairs (first : bookData document = .ok data)
    (pair : data.textOf "symbol" = some symbol) : symbol ∈ pairs document := by
  obtain ⟨members, rest, _, entries⟩ := bookData_eq_ok_iff.mp first
  unfold pairs
  rw [entries]
  exact List.mem_filterMap.mpr ⟨data, List.mem_cons_self, pair⟩

/-- A documented frame has one pair only. -/
theorem eq_of_mem_pairs (known : documented document = some change) {named : String}
    (listed : named ∈ pairs document) : named = change.symbol := by
  obtain ⟨data, text, _, pair, _, _, only, _⟩ := reads_of_documented known
  obtain ⟨members, _, entries⟩ := documentedData_eq_some_iff.mp only
  unfold pairs at listed
  rw [entries] at listed
  obtain ⟨entry, only, spelled⟩ := List.mem_filterMap.mp listed
  obtain rfl := List.mem_singleton.mp only
  exact Option.some.inj (spelled.symm.trans pair)

variable (first : bookData document = .ok data) (pair : data.textOf "symbol" = some symbol)
  (typed : document.textOf "type" = some text)

include first pair typed

/-- A documented frame is asked about as it is documented. -/
theorem asked_of_documented (known : documented document = some change) :
    symbol = change.symbol ∧
      (if text = "snapshot" then MessageType.snapshot else .update) = change.type ∧
      documentedType text = some change.type ∧ documentedData document = some data ∧
      documentedChecksum data = some change.checksum ∧
      sideText data "bids" = some change.shown.bids ∧
      sideText data "asks" = some change.shown.asks := by
  obtain ⟨_, _, entry, named, spelled, type, rest⟩ := reads_of_documented known
  obtain rfl := Except.ok.inj (first.symm.trans entry)
  obtain rfl := Option.some.inj (typed.symm.trans spelled)
  exact ⟨Option.some.inj (pair.symm.trans named), readType_of_documentedType type, type, rest⟩

/-- Whether a frame is settled is decided by what the output finds for its pair. -/
theorem settled_iff :
    Settled output state document ↔
      match output.find state symbol (if text = "snapshot" then .snapshot else .update) with
      | none => ∀ named ∈ pairs document, ¬ Wanted output state document named
      | some _ =>
          (sideText data "bids").isSome → (sideText data "asks").isSome →
            (((documentedType text).isSome ∧ documentedData document = some data ∧
                (documentedChecksum data).isSome) ↔
              data.TextIfAny "checksum" ∧ data.TextIfAny "timestamp") := by
  refine ⟨fun settled => settled data symbol text first pair typed, fun settled => ?_⟩
  intro other named spelled entry pairOther typedOther
  obtain rfl := Except.ok.inj (first.symm.trans entry)
  obtain rfl := Option.some.inj (pair.symm.trans pairOther)
  obtain rfl := Option.some.inj (typed.symm.trans typedOther)
  exact settled

omit first pair in
/-- A pair that the output answers for is wanted. -/
theorem wanted_of_find {precision : PairPrecision}
    (found : output.find state symbol (if text = "snapshot" then .snapshot else .update) =
      some precision) : Wanted output state document symbol := by
  refine ⟨_, fun known type => ?_, Option.isSome_iff_exists.mpr ⟨precision, found⟩⟩
  rw [typed, Option.bind_some] at type
  exact readType_of_documentedType type

variable {scale : String → UInt32 → Int64} {parse : String → Option Json} {decoder : L2Decoder}
  {frame : RawFrame} (parsed : parse frame.json = some document)
  (book : document.findMember "channel" = some (.string "book"))

include parsed book

/-- A frame whose first pair is not wanted is decoded faithfully exactly if no pair of it is. -/
theorem faithful_iff_of_unwanted
    (unwanted : output.find state symbol (if text = "snapshot" then .snapshot else .update) =
      none) :
    Faithful scale output state frame document
        (run output state (decode scale parse decoder frame)) ↔
      ∀ named ∈ pairs document, ¬ Wanted output state document named := by
  rw [run_unwanted parsed book first pair typed unwanted]
  constructor
  · rintro ⟨_, refuses⟩ named listed wanted
    cases known : documented document with
    | none =>
        obtain ⟨_, what, failed⟩ := refuses known (Or.inr ⟨named, listed, wanted⟩)
        contradiction
    | some change =>
        obtain ⟨same, type, kind, _⟩ := asked_of_documented first pair typed known
        obtain ⟨asked, agrees, found⟩ := wanted
        rw [typed, Option.bind_some] at agrees
        rw [eq_of_mem_pairs known listed, agrees _ kind, ← same, ← type, unwanted] at found
        contradiction
  · intro none_wanted
    refine ⟨fun change precision known found => ?_, fun _ wants => ?_⟩
    · obtain ⟨same, type, _⟩ := asked_of_documented first pair typed known
      rw [← same, ← type, unwanted] at found
      contradiction
    · rcases wants with none_named | ⟨named, listed, wanted⟩
      · have listed := mem_pairs first pair
        rw [none_named] at listed
        exact (List.not_mem_nil listed).elim
      · exact (none_wanted named listed wanted).elim

/-- A frame whose first pair is wanted is decoded faithfully exactly if, where its sides are levels,
it is laid out as documented just when the decoder can read its texts. -/
theorem faithful_iff_of_wanted {precision : PairPrecision}
    (found : output.find state symbol (if text = "snapshot" then .snapshot else .update) =
      some precision) :
    Faithful scale output state frame document
        (run output state (decode scale parse decoder frame)) ↔
      ((sideText data "bids").isSome → (sideText data "asks").isSome →
        (((documentedType text).isSome ∧ documentedData document = some data ∧
            (documentedChecksum data).isSome) ↔
          data.TextIfAny "checksum" ∧ data.TextIfAny "timestamp")) := by
  have runs := @run_wanted State scale parse decoder frame document data symbol text output state
    precision parsed book first pair typed found
  constructor
  · rintro ⟨emits, refuses⟩ bidding asking
    constructor
    · rintro ⟨type, only, summed⟩
      obtain ⟨change, known⟩ := Option.isSome_iff_exists.mp
        (documented_isSome pair typed type only summed bidding asking)
      obtain ⟨same, read, _⟩ := asked_of_documented first pair typed known
      obtain ⟨message, _, emitted, _⟩ := emits change precision known (same ▸ read ▸ found)
      rcases runs with ⟨_, _, _, _, _, _, _, parses, _⟩ | ⟨_, nothing, _⟩
      · exact ⟨parses.1, parses.2.1⟩
      · rw [nothing] at emitted
        contradiction
    · rintro ⟨sum, time⟩
      rcases runs with ⟨_, _, _, _, _, _, _, _, _, ends⟩ | ⟨fails, _⟩
      · cases known : documented document with
        | none =>
            obtain ⟨_, what, failed⟩ := refuses known (Or.inr ⟨symbol, mem_pairs first pair,
              wanted_of_find typed found⟩)
            rw [ends] at failed
            contradiction
        | some change =>
            obtain ⟨_, _, type, only, summed, _⟩ := asked_of_documented first pair typed known
            exact ⟨Option.isSome_iff_exists.mpr ⟨_, type⟩, only,
              Option.isSome_iff_exists.mpr ⟨_, summed⟩⟩
      · exact (fails ⟨sum, time, bidding, asking⟩).elim
  · intro settled
    constructor
    · intro change asked known answered
      obtain ⟨same, read, type, only, summed, bidding, asking⟩ :=
        asked_of_documented first pair typed known
      obtain rfl : precision = asked :=
        Option.some.inj (found.symm.trans (same ▸ read ▸ answered))
      have sides : (sideText data "bids").isSome ∧ (sideText data "asks").isSome :=
        ⟨Option.isSome_iff_exists.mpr ⟨_, bidding⟩, Option.isSome_iff_exists.mpr ⟨_, asking⟩⟩
      obtain ⟨sum, time⟩ := (settled sides.1 sides.2).mp ⟨Option.isSome_iff_exists.mpr ⟨_, type⟩,
        only, Option.isSome_iff_exists.mpr ⟨_, summed⟩⟩
      rcases runs with ⟨checksum, sent, bids, asks, read', bid, ask, _, emitted, ends⟩ | ⟨fails, _⟩
      · refine ⟨_, ⟨read, same, ?_, rfl, ?_, ?_⟩, emitted, decoder, ends⟩
        · exact Except.ok.inj (read'.symm.trans (parseChecksum_of_documentedChecksum summed))
        · rw [Option.some.inj (bid.symm.trans bidding)]
        · rw [Option.some.inj (ask.symm.trans asking)]
      · exact (fails ⟨sum, time, sides.1, sides.2⟩).elim
    · intro unknown _
      rcases runs with ⟨_, _, bids, asks, _, bid, ask, parses, _⟩ | ⟨_, refused⟩
      · obtain ⟨type, only, summed⟩ := (settled parses.2.2.1 parses.2.2.2).mpr
          ⟨parses.1, parses.2.1⟩
        have known := documented_isSome pair typed type only summed parses.2.2.1 parses.2.2.2
        rw [unknown] at known
        contradiction
      · exact refused

end Law

/-- **What book frames lose.** On every frame of the "book" channel the decoder emits what
the frame documents and throws at the rest just if what it does not look at is as
documented. -/
theorem decode_faithful_iff {scale : String → UInt32 → Int64} {parse : String → Option Json}
    {decoder : L2Decoder} {frame : RawFrame} {document : Json} (output : Output State)
    (state : State) (parsed : parse frame.json = some document)
    (book : document.findMember "channel" = some (.string "book")) :
    Faithful scale output state frame document
        (run output state (decode scale parse decoder frame)) ↔
      Settled output state document := by
  by_cases reads : ∃ data symbol text, bookData document = .ok data ∧
      data.textOf "symbol" = some symbol ∧ document.textOf "type" = some text
  · obtain ⟨data, symbol, text, first, pair, typed⟩ := reads
    rw [settled_iff first pair typed]
    split
    · rename_i unwanted
      exact faithful_iff_of_unwanted first pair typed parsed book unwanted
    · rename_i precision found
      exact faithful_iff_of_wanted first pair typed parsed book found
  · have unread : ∀ data symbol text, bookData document = .ok data →
        data.textOf "symbol" = some symbol → document.textOf "type" ≠ some text :=
      fun data symbol text first pair typed => reads ⟨data, symbol, text, first, pair, typed⟩
    refine iff_of_true ⟨fun change _ known _ => ?_, fun _ _ => run_unread parsed book unread⟩
      fun data symbol text first pair typed => (unread data symbol text first pair typed).elim
    obtain ⟨data, text, first, pair, typed, _⟩ := reads_of_documented known
    exact (unread data change.symbol text first pair typed).elim

/-- An output that wants every book change. -/
def everything : Output Unit where
  find _ _ _ := some ⟨1, 2⟩
  emit _ _ := ()

/-- An entry of a book frame, without levels. -/
def emptyEntry (symbol : String) : Json :=
  .object [("symbol", .string symbol), ("bids", .array []), ("asks", .array [])]

/-- A book frame with some entries. -/
def bookFrame (type : String) (entries : List Json) : Json :=
  .object [("channel", .string "book"), ("type", .string type), ("data", .array entries)]

/-- A level of a book frame. -/
def levelEntry (price quantity : String) : Json :=
  .object [("price", .string price), ("qty", .string quantity)]

/-- A snapshot with three levels, a checksum and a time. -/
def snapshotFrame : Json :=
  bookFrame "snapshot" [.object [("symbol", .string "BTC/USD"),
    ("bids", .array [levelEntry "45283.5" "0.10", levelEntry "45283.4" "1.54"]),
    ("asks", .array [levelEntry "45285.2" "0.01"]), ("checksum", .string "2439117997"),
    ("timestamp", .string "2023-10-06T17:35:55.440295Z")]]

/-- All of a snapshot is emitted, as the source scales it. -/
theorem decode_faithful_iff_snapshot :
    let scale : String → UInt32 → Int64 := fun text decimals =>
      (scaleDecimalStringToI64 text decimals).getD 0
    let outcome := run everything () (decode scale (fun _ => some snapshotFrame) {} ⟨"", 7⟩)
    outcome.emitted = [⟨.snapshot, 2439117997, 1696613755440295000, 7, "BTC/USD",
        [⟨452835, 10⟩, ⟨452834, 154⟩], [⟨452852, 1⟩]⟩] ∧
      (Faithful scale everything () ⟨"", 7⟩ snapshotFrame outcome ↔
        Settled everything () snapshotFrame) := by
  intro scale outcome
  exact ⟨by decide +kernel, decode_faithful_iff everything () rfl rfl⟩

/-- Of two entries the second is dropped, and nothing is thrown. -/
theorem drops_further_entries :
    ¬ ∀ scale parse decoder frame document (output : Output Unit) state,
      parse frame.json = some document →
        document.findMember "channel" = some (.string "book") →
          Faithful scale output state frame document
            (run output state (decode scale parse decoder frame)) := by
  intro faithful
  have twice := faithful (fun _ _ => 0)
    (fun _ => some (bookFrame "update" [emptyEntry "BTC/USD", emptyEntry "ETH/USD"])) {} ⟨"", 7⟩ _
    everything () rfl rfl
  have undocumented : documented
      (bookFrame "update" [emptyEntry "BTC/USD", emptyEntry "ETH/USD"]) = none := rfl
  have wanted : ∀ symbol, Wanted everything ()
      (bookFrame "update" [emptyEntry "BTC/USD", emptyEntry "ETH/USD"]) symbol :=
    fun _ => ⟨.update, fun _ known => Option.some.inj known, rfl⟩
  obtain ⟨nothing, _⟩ := twice.2 undocumented
    (Or.inr ⟨"BTC/USD", List.mem_cons_self, wanted "BTC/USD"⟩)
  exact List.cons_ne_nil _ _ nothing

end DataFeed.Kraken
