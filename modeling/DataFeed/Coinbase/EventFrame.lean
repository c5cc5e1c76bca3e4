import DataFeed.Venue.ExactLevels

/-! # What a malformed frame leaves behind

The decoder emits each event of a frame before it reads the next. What it throws at one
of them, or at the frame itself, comes after all that is emitted for the events before.
-/

namespace DataFeed.Coinbase

open DataFeed.Core L2 Net Venue Decoding

/-- The pair and the type of an event that is laid out as documented. -/
def eventHead (event : Json) : Option (String × MessageType) :=
  (event.textOf "product_id").bind fun product =>
    ((event.textOf "type").bind documentedType).map fun type => (product, type)

/-- A number that a book of the product can hold. -/
def Holdable (text : String) (decimals : UInt32) : Prop :=
  (bytes text).head? ≠ some 45 ∧ fractionDigits text ≤ decimals

instance instDecidableHoldable (text : String) (decimals : UInt32) :
    Decidable (Holdable text decimals) :=
  inferInstanceAs (Decidable (_ ∧ _))

/-- The side and the texts of a level that a book of the product can hold. -/
def heldText (precision : PairPrecision) (update : Json) : Option (String × LevelText) :=
  (updateText update).bind fun text =>
    if Holdable text.2.price precision.priceDecimals ∧
        Holdable text.2.quantity precision.qtyDecimals then
      some text
    else none

/-- The levels of an event that is laid out as documented. -/
def eventLevels (precision : PairPrecision) (event : Json) : Option Source :=
  match event.findMember "updates" with
  | some (.array updates) =>
      (updates.mapM (heldText precision)).map fun texts =>
        ⟨onSide "bid" texts, onSide "offer" texts⟩
  | _ => none

variable {State : Type}

/-- An event that is not laid out as documented, or has a level that no book of the product
can hold. The levels of an event that is not wanted are not looked at. -/
def Faulty (output : Output State) (state : State) (event : Json) : Prop :=
  eventHead event = none ∨
    ∃ product type precision, eventHead event = some (product, type) ∧
      output.find state product type = some precision ∧ eventLevels precision event = none

variable (scale : String → UInt32 → Int64)

/-- The book change of an event. -/
def changeOf (time capture : Int64) (product : String) (type : MessageType)
    (precision : PairPrecision) (levels : Source) : Message :=
  ⟨type, 0, time, capture, product, levels.bids.map (LevelText.scaled scale precision),
    levels.asks.map (LevelText.scaled scale precision)⟩

/-- The changes of the wanted events, in order, and the output after them. -/
inductive Shows (time capture : Int64) (output : Output State) :
    State → List Json → List Message → State → Prop
  | nil {state : State} : Shows time capture output state [] [] state
  | unwanted {state final : State} {event : Json} {events : List Json} {changes : List Message}
      {product : String} {type : MessageType} :
      eventHead event = some (product, type) → output.find state product type = none →
        Shows time capture output state events changes final →
          Shows time capture output state (event :: events) changes final
  | wanted {state final : State} {event : Json} {events : List Json} {changes : List Message}
      {product : String} {type : MessageType} {precision : PairPrecision} {levels : Source} :
      eventHead event = some (product, type) → output.find state product type = some precision →
        eventLevels precision event = some levels →
          Shows time capture output
            (output.emit state (changeOf scale time capture product type precision levels)) events
            changes final →
              Shows time capture output state (event :: events)
                (changeOf scale time capture product type precision levels :: changes) final

variable (parse : String → Option Json)

/-- A frame of book changes that follows the last frame, its time and its events. -/
def Reaches (decoder : L2Decoder) (frame : RawFrame) (time : Int64) (events : List Json) : Prop :=
  ∃ document number last, parse frame.json = some document ∧
    document.TextIfAny "type" ∧ document.textOf "type" ≠ some "error" ∧
    document.textOf "channel" = some "l2_data" ∧
    requireUnsigned document "sequence_num" = .ok number ∧
    advance decoder.lastSequence number "sequence numbers" = .ok (last, true) ∧
    document.findMember "events" = some (.array events) ∧ venueTime document = .ok time

/-- All or nothing: a throw leaves nothing emitted, and without one the changes of the
wanted events are emitted in order, and nothing else. -/
def AllOrNothing (output : Output State) (state : State) (decoder : L2Decoder) (frame : RawFrame)
    (outcome : Decoding.Outcome State L2Decoder) : Prop :=
  (∀ what, outcome.result = .error what → outcome.emitted = []) ∧
    ∀ after, outcome.result = .ok after →
      (∀ time events, Reaches parse decoder frame time events →
          Shows scale time frame.captureTimeNs output state events outcome.emitted outcome.state) ∧
        ((¬ ∃ time events, Reaches parse decoder frame time events) → outcome.emitted = [])

/-- In a frame of book changes no wanted event comes before the first faulty one. -/
def FaultFirst (output : Output State) (state : State) (decoder : L2Decoder)
    (frame : RawFrame) : Prop :=
  ∀ time events before event after changes reached, Reaches parse decoder frame time events →
    events = before ++ event :: after →
      Shows scale time frame.captureTimeNs output state before changes reached →
        Faulty output reached event → changes = []

section Levels

variable {scale : String → UInt32 → Int64} {precision : PairPrecision} {text : String}

/-- A documented type is parsed. -/
theorem parseType_of_documentedType {type : MessageType} (known : documentedType text = some type) :
    parseType text = .ok type := by
  unfold documentedType at known
  unfold parseType
  split at known
  · rename_i snapshot
    rw [if_pos snapshot, Option.some.inj known]
  · rename_i other
    rw [if_neg other]
    split at known
    · rename_i update
      rw [if_pos update, Option.some.inj known]
    · contradiction

/-- A type that is not documented is refused. -/
theorem parseType_of_undocumented (unknown : documentedType text = none) :
    ∃ what, parseType text = .error what := by
  unfold documentedType at unknown
  unfold parseType
  split at unknown
  · contradiction
  · rename_i other
    rw [if_neg other]
    split at unknown
    · contradiction
    · rename_i neither
      rw [if_neg neither]
      exact ⟨_, rfl⟩

/-- A text the level can hold is scaled. -/
theorem requireScaled_of_holdable {level : Json} {name : String} {decimals : UInt32}
    (spelled : level.findMember name = some (.string text)) (holdable : Holdable text decimals) :
    requireScaled scale level name decimals = .ok (scale text decimals) := by
  unfold requireScaled
  rw [Json.requireString_eq_ok_iff.mpr spelled, Except.bind, if_neg holdable.1,
    if_neg (UInt32.not_lt.mpr holdable.2)]

/-- A number that is accepted can be held. -/
theorem holdable_of_requireScaled {level : Json} {name : String} {decimals : UInt32}
    {value : Int64} (scaled : requireScaled scale level name decimals = .ok value)
    (spelled : level.findMember name = some (.string text)) : Holdable text decimals := by
  unfold requireScaled at scaled
  rw [Json.requireString_eq_ok_iff.mpr spelled, Except.bind] at scaled
  split at scaled
  · contradiction
  · rename_i nonnegative
    split at scaled
    · contradiction
    · rename_i coarse
      exact ⟨nonnegative, UInt32.not_lt.mp coarse⟩

/-- An update with a side and a level has these members. -/
theorem findMember_of_updateText {update : Json} {side : String} {level : LevelText}
    (known : updateText update = some (side, level)) :
    update.findMember "side" = some (.string side) ∧
      update.findMember "price_level" = some (.string level.price) ∧
      update.findMember "new_quantity" = some (.string level.quantity) ∧
      (side = "bid" ∨ side = "offer") := by
  unfold updateText at known
  split at known
  · rename_i sided priced counted
    split at known
    · rename_i either
      cases known
      exact ⟨sided, priced, counted, either⟩
    · contradiction
  · contradiction

/-- A level that can be held is added to its side. -/
theorem addUpdate_of_heldText {message : Message} {update : Json} {held : String × LevelText}
    (known : heldText precision update = some held) :
    addUpdate scale precision message update =
      .ok { message with
        buys := message.buys ++ (onSide "bid" [held]).map (LevelText.scaled scale precision)
        sells := message.sells ++ (onSide "offer" [held]).map
          (LevelText.scaled scale precision) } := by
  obtain ⟨⟨side, level⟩, spelled, holds⟩ := Option.bind_eq_some_iff.mp known
  split at holds
  · rename_i holdable
    obtain rfl := Option.some.inj holds
    obtain ⟨sided, priced, counted, either⟩ := findMember_of_updateText spelled
    have neither : ¬ (side ≠ "bid" ∧ side ≠ "offer") := by
      rw [not_and_or, not_not, not_not]
      exact either
    unfold addUpdate
    rw [Json.requireString_eq_ok_iff.mpr sided, Except.bind, if_neg neither,
      requireScaled_of_holdable priced holdable.1, Except.bind,
      requireScaled_of_holdable counted holdable.2, Except.bind]
    rcases either with rfl | rfl
    · simp [onSide, LevelText.scaled]
    · simp [onSide, LevelText.scaled]
  · contradiction

/-- What is not a level that can be held is thrown at. -/
theorem addUpdate_of_heldText_none {message : Message} {update : Json}
    (unheld : heldText precision update = none) :
    ∃ what, addUpdate scale precision message update = .error what := by
  cases added : addUpdate scale precision message update with
  | error what => exact ⟨what, rfl⟩
  | ok next =>
      obtain ⟨side, level, known, _⟩ := updateText_of_addUpdate added
      obtain ⟨sided, priced, counted, either⟩ := findMember_of_updateText known
      unfold addUpdate at added
      obtain ⟨_, _, added⟩ := bind_eq_ok added
      split at added
      · contradiction
      obtain ⟨_, price, added⟩ := bind_eq_ok added
      obtain ⟨_, quantity, _⟩ := bind_eq_ok added
      unfold heldText at unheld
      rw [known, Option.bind_some, if_pos ⟨holdable_of_requireScaled price priced,
        holdable_of_requireScaled quantity counted⟩] at unheld
      contradiction

/-- The levels of an event are added to their sides, unless one cannot be held. -/
theorem addUpdates_eq (updates : List Json) (message : Message) :
    match updates.mapM (heldText precision) with
    | some held =>
        updates.foldlM (addUpdate scale precision) message =
          .ok { message with
            buys := message.buys ++ (onSide "bid" held).map (LevelText.scaled scale precision)
            sells := message.sells ++ (onSide "offer" held).map
              (LevelText.scaled scale precision) }
    | none => ∃ what, updates.foldlM (addUpdate scale precision) message = .error what := by
  induction updates generalizing message with
  | nil =>
      rw [List.mapM_nil]
      exact congrArg Except.ok (by simp [onSide])
  | cons update updates ih =>
      rw [List.mapM_cons]
      cases first : heldText precision update with
      | none =>
          obtain ⟨what, refused⟩ :=
            @addUpdate_of_heldText_none scale precision message update first
          exact ⟨what, by rw [List.foldlM_cons, refused]; rfl⟩
      | some text =>
          have added := @addUpdate_of_heldText scale precision message update text first
          have rest := ih { message with
            buys := message.buys ++ (onSide "bid" [text]).map (LevelText.scaled scale precision)
            sells := message.sells ++ (onSide "offer" [text]).map
              (LevelText.scaled scale precision) }
          cases others : updates.mapM (heldText precision) with
          | none =>
              rw [others] at rest
              obtain ⟨what, refused⟩ := rest
              exact ⟨what, by rw [List.foldlM_cons, added]; exact refused⟩
          | some held =>
              rw [others] at rest
              change (update :: updates).foldlM (addUpdate scale precision) message = _
              rw [List.foldlM_cons, added]
              refine Eq.trans rest (congrArg Except.ok ?_)
              rw [onSide_cons "bid" text held, onSide_cons "offer" text held, List.map_append,
                List.map_append, List.append_assoc, List.append_assoc]

end Levels

section Running

variable {scale : String → UInt32 → Int64} {time capture : Int64} {output : Output State}
  {state : State} {event : Json} {events : List Json} {next : Decoding L2Decoder}

/-- An event whose pair or type cannot be read is thrown at. -/
theorem run_headless (headless : eventHead event = none) :
    ∃ what, run output state (decodeEvent scale time capture event next) =
      ⟨[], state, .error what⟩ := by
  unfold decodeEvent
  cases named : event.textOf "product_id" with
  | none =>
      obtain ⟨what, missing⟩ := Json.requireString_of_textOf_none named
      exact ⟨what, by rw [missing, run_attempt_error]⟩
  | some product =>
      rw [Json.requireString_eq_ok_iff_textOf.mpr named, run_attempt_ok]
      cases typed : event.textOf "type" with
      | none =>
          obtain ⟨what, missing⟩ := Json.requireString_of_textOf_none typed
          exact ⟨what, by rw [missing, Except.bind, run_attempt_error]⟩
      | some text =>
          unfold eventHead at headless
          rw [named, typed, Option.bind_some, Option.bind_some, Option.map_eq_none_iff] at headless
          obtain ⟨what, unknown⟩ := parseType_of_undocumented headless
          rw [Json.requireString_eq_ok_iff_textOf.mpr typed, Except.bind, unknown]
          exact ⟨what, run_attempt_error⟩

variable {product : String} {type : MessageType}
  (headed : eventHead event = some (product, type))

include headed

/-- An event with a header is decoded in these steps. -/
theorem run_headed :
    run output state (decodeEvent scale time capture event next) =
      match output.find state product type with
      | none => run output state next
      | some precision =>
          run output state (.attempt (event.requireArray "updates") fun updates =>
            .attempt (updates.foldlM (addUpdate scale precision)
              ⟨type, 0, time, capture, product, [], []⟩) fun message => .emit message next) := by
  obtain ⟨named, spelled, headed⟩ := Option.bind_eq_some_iff.mp headed
  obtain ⟨kind, typed, same⟩ := Option.map_eq_some_iff.mp headed
  obtain ⟨text, typed, known⟩ := Option.bind_eq_some_iff.mp typed
  obtain ⟨rfl, rfl⟩ := Prod.mk.inj same
  unfold decodeEvent
  rw [Json.requireString_eq_ok_iff_textOf.mpr spelled, run_attempt_ok,
    Json.requireString_eq_ok_iff_textOf.mpr typed, Except.bind, parseType_of_documentedType known,
    run_attempt_ok, run_find]
  cases output.find state named kind with
  | none => rfl
  | some precision => rfl

/-- An event with a level that cannot be read is thrown at. -/
theorem run_unreadable {precision : PairPrecision}
    (wanted : output.find state product type = some precision)
    (unreadable : eventLevels precision event = none) :
    ∃ what, run output state (decodeEvent scale time capture event next) =
      ⟨[], state, .error what⟩ := by
  rw [run_headed headed, wanted]
  dsimp only
  cases listed : event.requireArray "updates" with
  | error what => exact ⟨what, run_attempt_error⟩
  | ok updates =>
      rw [run_attempt_ok]
      have added := @addUpdates_eq scale precision updates ⟨type, 0, time, capture, product, [], []⟩
      unfold eventLevels at unreadable
      rw [Json.requireArray_eq_ok_iff.mp listed] at unreadable
      rw [Option.map_eq_none_iff.mp unreadable] at added
      obtain ⟨what, refused⟩ := added
      rw [refused]
      exact ⟨what, run_attempt_error⟩

/-- A wanted event is emitted before the next is read. -/
theorem run_readable {precision : PairPrecision} {levels : Source}
    (wanted : output.find state product type = some precision)
    (readable : eventLevels precision event = some levels) :
    run output state (decodeEvent scale time capture event next) =
      run output state
        (.emit (changeOf scale time capture product type precision levels) next) := by
  rw [run_headed headed, wanted]
  dsimp only
  unfold eventLevels at readable
  split at readable
  · rename_i updates listed
    obtain ⟨held, all, rfl⟩ := Option.map_eq_some_iff.mp readable
    have added := @addUpdates_eq scale precision updates ⟨type, 0, time, capture, product, [], []⟩
    rw [all] at added
    rw [Json.requireArray_eq_ok_iff.mpr listed, run_attempt_ok, added, run_attempt_ok]
    rfl
  · contradiction

omit headed

/-- A faulty event throws and emits nothing. -/
theorem run_faulty (faulty : Faulty output state event) :
    ∃ what, run output state (decodeEvent scale time capture event next) =
      ⟨[], state, .error what⟩ := by
  rcases faulty with headless | ⟨product, type, precision, headed, wanted, unreadable⟩
  · exact run_headless headless
  · exact run_unreadable headed wanted unreadable

/-- What is emitted of the events that are read stays emitted, whatever follows. -/
theorem run_shows {changes : List Message} {final : State}
    (shows : Shows scale time capture output state events changes final) :
    run output state (events.foldr (decodeEvent scale time capture) next) =
      ⟨changes ++ (run output final next).emitted, (run output final next).state,
        (run output final next).result⟩ := by
  induction shows with
  | nil => rfl
  | unwanted headed unwanted _ ih =>
      rw [List.foldr_cons, run_headed headed, unwanted]
      exact ih
  | wanted headed wanted readable _ ih =>
      rw [List.foldr_cons, run_readable headed wanted readable, run_emit, ih]
      rfl

/-- The events are all read, or up to the first faulty one. -/
theorem shows_or_faulty (events : List Json) :
    (∃ changes final, Shows scale time capture output state events changes final) ∨
      ∃ before event after changes reached, events = before ++ event :: after ∧
        Shows scale time capture output state before changes reached ∧
        Faulty output reached event := by
  induction events generalizing state with
  | nil => exact Or.inl ⟨[], state, .nil⟩
  | cons event events ih =>
      cases headed : eventHead event with
      | none => exact Or.inr ⟨[], event, events, [], state, rfl, .nil, Or.inl headed⟩
      | some head =>
          obtain ⟨product, type⟩ := head
          cases answer : output.find state product type with
          | none =>
              rcases @ih state with ⟨changes, final, shows⟩ |
                ⟨before, faulty, after, changes, reached, rfl, shows, fault⟩
              · exact Or.inl ⟨changes, final, .unwanted headed answer shows⟩
              · exact Or.inr ⟨event :: before, faulty, after, changes, reached, rfl,
                  .unwanted headed answer shows, fault⟩
          | some precision =>
              cases readable : eventLevels precision event with
              | none =>
                  exact Or.inr ⟨[], event, events, [], state, rfl, .nil,
                    Or.inr ⟨product, type, precision, headed, answer, readable⟩⟩
              | some levels =>
                  rcases @ih (output.emit state
                      (changeOf scale time capture product type precision levels)) with
                    ⟨changes, final, shows⟩ |
                    ⟨before, faulty, after, changes, reached, rfl, shows, fault⟩
                  · exact Or.inl ⟨_, final, .wanted headed answer readable shows⟩
                  · exact Or.inr ⟨event :: before, faulty, after, _, reached, rfl,
                      .wanted headed answer readable shows, fault⟩

end Running

section Law

variable {scale : String → UInt32 → Int64} {parse : String → Option Json} {time : Int64}
  {output : Output State} {state : State} {decoder : L2Decoder} {frame : RawFrame}
  {events : List Json}

/-- A frame of book changes is decoded event by event. -/
theorem run_reached (reaches : Reaches parse decoder frame time events) :
    ∃ after, run output state (decode scale parse decoder frame) =
      run output state (events.foldr (decodeEvent scale time frame.captureTimeNs)
        (.done after)) := by
  obtain ⟨document, number, last, parsed, kind, plain, channel, numbered, follows, listed, timed⟩ :=
    reaches
  obtain ⟨found, typed⟩ := Json.textIfAny_iff.mp kind
  refine ⟨{ decoder with lastSequence := last }, ?_⟩
  cases document with
  | object members =>
      have fine : found ≠ some "error" := by
        rintro rfl
        exact plain (Json.textOf_eq_some_iff.mpr (Json.findString_eq_ok_iff.mp typed))
      have onChannel := (@Json.findString_eq_ok_iff _ _ (some "l2_data")).mpr
        (Json.textOf_eq_some_iff.mp channel)
      unfold decode
      rw [parsed]
      dsimp only
      rw [typed, run_attempt_ok, if_neg fine, onChannel, run_attempt_ok]
      dsimp only
      rw [numbered, run_attempt_ok, follows, run_attempt_ok, if_pos rfl]
      unfold decodeEvents
      rw [Json.requireArray_eq_ok_iff.mpr listed, run_attempt_ok, if_neg (by decide),
        if_neg (by decide), timed, run_attempt_ok]
  | null | boolean | string | array => contradiction

/-- Of every other frame nothing is emitted. -/
theorem nothing_unreached {emitted : List Message} {result : Except String L2Decoder}
    (unreached : ¬ ∃ time events, Reaches parse decoder frame time events)
    (runs : (decode scale parse decoder frame).Runs emitted result) : emitted = [] := by
  unfold decode at runs
  split at runs
  · rename_i members parsed
    rcases runs.of_attempt with ⟨_, _, nothing, _⟩ | ⟨found, typed, runs⟩
    · exact nothing
    split at runs
    · cases runs
      rfl
    rename_i plain
    rcases runs.of_attempt with ⟨_, _, nothing, _⟩ | ⟨channel, named, runs⟩
    · exact nothing
    split at runs
    · cases runs
      rfl
    rename_i channel
    rcases runs.of_attempt with ⟨_, _, nothing, _⟩ | ⟨number, numbered, runs⟩
    · exact nothing
    rcases runs.of_attempt with ⟨_, _, nothing, _⟩ | ⟨⟨last, follows⟩, advanced, runs⟩
    · exact nothing
    split at runs
    · rename_i next
      rcases runs.of_attempt with ⟨_, _, nothing, _⟩ | ⟨events, listed, runs⟩
      · exact nothing
      split at runs
      · rcases runs.of_attempt with ⟨_, _, nothing, _⟩ | ⟨last, _, runs⟩
        · exact nothing
        · cases runs
          rfl
      · split at runs
        · cases runs
          rfl
        · rename_i books
          rcases runs.of_attempt with ⟨_, _, nothing, _⟩ | ⟨time, timed, runs⟩
          · exact nothing
          refine (unreached ⟨time, events, .object members, number, last, parsed,
            Json.textIfAny_iff.mpr ⟨found, typed⟩, fun error => plain ?_, ?_, numbered, ?_,
            Json.requireArray_eq_ok_iff.mp listed, timed⟩).elim
          · have said := (@Json.findString_eq_ok_iff _ _ (some "error")).mpr
              (Json.textOf_eq_some_iff.mp error)
            exact Except.ok.inj (typed.symm.trans said)
          · rw [Json.textOf_eq_some_iff, ← not_not.mp books]
            exact Json.findString_eq_ok_iff.mp named
          · rw [advanced, show follows = true from next]
    · cases runs
      rfl
  · cases runs
    rfl

/-- After a frame of book changes the output has the changes of all its events, or of those
before the first faulty one, and then the decoder threw. -/
theorem run_frame (reaches : Reaches parse decoder frame time events) :
    (∃ changes final after,
        Shows scale time frame.captureTimeNs output state events changes final ∧
        run output state (decode scale parse decoder frame) = ⟨changes, final, .ok after⟩) ∨
      ∃ before event after changes reached what, events = before ++ event :: after ∧
        Shows scale time frame.captureTimeNs output state before changes reached ∧
        Faulty output reached event ∧
        run output state (decode scale parse decoder frame) = ⟨changes, reached, .error what⟩ := by
  obtain ⟨done, same⟩ := @run_reached State scale parse time output state decoder frame _ reaches
  rcases @shows_or_faulty State scale time frame.captureTimeNs output state events with
    ⟨changes, final, shows⟩ | ⟨before, event, after, changes, reached, rfl, shows, faulty⟩
  · refine Or.inl ⟨changes, final, done, shows, ?_⟩
    rw [same, run_shows shows, run_done, List.append_nil]
  · obtain ⟨what, thrown⟩ := @run_faulty State scale time frame.captureTimeNs output reached event
      (after.foldr (decodeEvent scale time frame.captureTimeNs) (.done done)) faulty
    refine Or.inr ⟨before, event, after, changes, reached, what, rfl, shows, faulty, ?_⟩
    rw [same, List.foldr_append, List.foldr_cons, run_shows shows, thrown, List.append_nil]

end Law

/-- **What a faulty event leaves emitted.** Decoding a frame emits all of its wanted
changes, or throws and emits none, just if no wanted event comes before the first faulty
one. -/
theorem decode_allOrNothing_iff (scale : String → UInt32 → Int64) (parse : String → Option Json)
    (output : Output State) (state : State) (decoder : L2Decoder) (frame : RawFrame) :
    AllOrNothing scale parse output state decoder frame
        (run output state (decode scale parse decoder frame)) ↔
      FaultFirst scale parse output state decoder frame := by
  constructor
  · rintro all time events before event after changes reached reaches rfl shows faulty
    obtain ⟨done, same⟩ := @run_reached State scale parse time output state decoder frame _ reaches
    obtain ⟨what, thrown⟩ := @run_faulty State scale time frame.captureTimeNs output reached event
      (after.foldr (decodeEvent scale time frame.captureTimeNs) (.done done)) faulty
    rw [List.foldr_append, List.foldr_cons, run_shows shows, thrown, List.append_nil] at same
    have nothing := all.1 what (by rw [same])
    rwa [same] at nothing
  · intro first
    by_cases reaching : ∃ time events, Reaches parse decoder frame time events
    · constructor
      · intro what thrown
        obtain ⟨time, events, reaches⟩ := reaching
        rcases @run_frame State scale parse time output state decoder frame events reaches with
          ⟨changes, final, after, _, ran⟩ |
          ⟨before, event, after, changes, reached, _, same, shows, faulty, ran⟩
        · rw [ran] at thrown
          contradiction
        · rw [ran]
          exact first time events before event after changes reached reaches same shows faulty
      · refine fun ended decoded => ⟨fun time events reaches => ?_,
          fun unreached => (unreached reaching).elim⟩
        rcases @run_frame State scale parse time output state decoder frame events reaches with
          ⟨changes, final, after, shows, ran⟩ | ⟨_, _, _, _, _, _, _, _, _, ran⟩
        · rw [ran]
          exact shows
        · rw [ran] at decoded
          contradiction
    · have nothing := nothing_unreached reaching
        (@runs_run L2Decoder State output state (decode scale parse decoder frame))
      exact ⟨fun _ _ => nothing, fun _ _ => ⟨fun time events reaches =>
        (reaching ⟨time, events, reaches⟩).elim, fun _ => nothing⟩⟩

/-- An event without levels, as Coinbase sends it. -/
def emptyEvent (type : String) : Json :=
  .object [("product_id", .string "BTC-USD"), ("type", .string type), ("updates", .array [])]

/-- A frame of book changes, as Coinbase sends it. -/
def eventFrame (events : List Json) : Json :=
  .object [("channel", .string "l2_data"), ("sequence_num", .string "1"),
    ("events", .array events)]

/-- The first event of a frame is emitted, and the decoder throws at the second. -/
theorem emits_before_throwing :
    ¬ ∀ scale parse (output : Output Unit) state decoder frame,
      AllOrNothing scale parse output state decoder frame
        (run output state (decode scale parse decoder frame)) := by
  intro all
  have twice := all (fun _ _ => 0)
    (fun _ => some (eventFrame [emptyEvent "snapshot", emptyEvent "delta"]))
    ⟨fun _ _ _ => some ⟨2, 8⟩, fun _ _ => ()⟩ () .init ⟨"", 0⟩
  exact List.cons_ne_nil _ _ (twice.1 _ rfl)

end DataFeed.Coinbase
