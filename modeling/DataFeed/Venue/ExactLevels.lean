import DataFeed.Coinbase.L2Decoder
import DataFeed.Kraken.L2Decoder

/-! # Which levels are read exactly

Every level a decoder emits is made of two texts of its frame, and no level of a book
change is left out. Scaling takes a text to be digits with at most one point: it stops at
an exponent, and adds the fraction of a negative number.
-/

namespace DataFeed.Kraken

open DataFeed.Core L2 Net Venue

/-- The texts of a level. -/
def levelText (level : Json) : Option LevelText :=
  match level.findMember "price", level.findMember "qty" with
  | some (.string price), some (.string quantity) => some ⟨price, quantity⟩
  | _, _ => none

/-- The texts of a side. -/
def sideText (data : Json) (name : String) : Option (List LevelText) :=
  match data.findMember name with
  | some (.array levels) => levels.mapM levelText
  | _ => none

/-- The levels of a book frame, as they are spelled. -/
def source (document : Json) : Option Source :=
  match document.findMember "data" with
  | some (.array (data :: _)) =>
      (sideText data "bids").bind fun bids =>
        (sideText data "asks").map fun asks => ⟨bids, asks⟩
  | _ => none

end DataFeed.Kraken

namespace DataFeed.Coinbase

open DataFeed.Core L2 Net Venue

/-- The side and the texts of a level. -/
def updateText (update : Json) : Option (String × LevelText) :=
  match update.findMember "side", update.findMember "price_level",
    update.findMember "new_quantity" with
  | some (.string side), some (.string price), some (.string quantity) =>
      if side = "bid" ∨ side = "offer" then some (side, ⟨price, quantity⟩) else none
  | _, _, _ => none

/-- The texts on one side. -/
def onSide (side : String) (texts : List (String × LevelText)) : List LevelText :=
  (texts.filter fun text => text.1 = side).map Prod.snd

/-- The levels of an event, as they are spelled. -/
def source (event : Json) : Option Source :=
  match event.findMember "updates" with
  | some (.array updates) =>
      (updates.mapM updateText).map fun texts => ⟨onSide "bid" texts, onSide "offer" texts⟩
  | _ => none

end DataFeed.Coinbase

namespace DataFeed.Kraken

open DataFeed.Core L2 Net Venue Decoding

variable {scale : String → UInt32 → Int64} {precision : PairPrecision}

/-- A level Kraken's decoder parses has two texts, and their values. -/
theorem levelText_of_parseLevel {level : Json} {parsed : Level}
    (parses : parseLevel scale precision level = .ok parsed) :
    ∃ text, levelText level = some text ∧ parsed = text.scaled scale precision := by
  obtain ⟨price, priced, parses⟩ := bind_eq_ok parses
  obtain ⟨quantity, counted, rfl⟩ := map_eq_ok parses
  obtain ⟨first, spelled, rfl⟩ := map_eq_ok priced
  obtain ⟨second, written, rfl⟩ := map_eq_ok counted
  refine ⟨⟨first, second⟩, ?_, rfl⟩
  unfold levelText
  rw [Json.requireString_eq_ok_iff.mp spelled, Json.requireString_eq_ok_iff.mp written]

/-- The levels Kraken's decoder parses have two texts each, and their values. -/
theorem texts_of_parseLevels {levels : List Json} {parsed : List Level}
    (parses : levels.mapM (parseLevel scale precision) = .ok parsed) :
    ∃ texts, levels.mapM levelText = some texts ∧
      parsed = texts.map (LevelText.scaled scale precision) := by
  induction levels generalizing parsed with
  | nil =>
      obtain rfl := Except.ok.inj parses
      exact ⟨[], rfl, rfl⟩
  | cons level levels ih =>
      rw [List.mapM_cons] at parses
      obtain ⟨first, one, parses⟩ := bind_eq_ok parses
      obtain ⟨rest, others, parses⟩ := bind_eq_ok parses
      obtain rfl := Except.ok.inj parses
      obtain ⟨text, spelled, rfl⟩ := levelText_of_parseLevel one
      obtain ⟨texts, written, rfl⟩ := ih others
      refine ⟨text :: texts, ?_, rfl⟩
      rw [List.mapM_cons, spelled, written]
      rfl

/-- A side Kraken's decoder parses is one of texts, and their values. -/
theorem sideText_of_parseSide {data : Json} {name : String} {parsed : List Level}
    (parses : parseSide scale data name precision = .ok parsed) :
    ∃ texts, sideText data name = some texts ∧
      parsed = texts.map (LevelText.scaled scale precision) := by
  obtain ⟨levels, listed, parses⟩ := bind_eq_ok parses
  obtain ⟨texts, spelled, same⟩ := texts_of_parseLevels parses
  refine ⟨texts, ?_, same⟩
  unfold sideText
  rw [Json.requireArray_eq_ok_iff.mp listed]
  exact spelled

/-- What Kraken's decoder takes for data is the first element of the member. -/
theorem findMember_of_bookData {document data : Json} (holds : bookData document = .ok data) :
    ∃ rest, document.findMember "data" = some (.array (data :: rest)) := by
  obtain ⟨entries, listed, holds⟩ := bind_eq_ok holds
  split at holds
  · rename_i members rest
    obtain rfl := Except.ok.inj holds
    exact ⟨rest, Json.requireArray_eq_ok_iff.mp listed⟩
  · contradiction

/-- What the decoder emits has the levels of its frame. -/
theorem source_of_emits {parse : String → Option Json} {decoder : L2Decoder} {frame : RawFrame}
    {message : Message}
    (emits : Emits none (decode scale parse decoder frame) precision message) :
    ∃ document shown, parse frame.json = some document ∧ source document = some shown ∧
      shown.Drawn scale precision message := by
  unfold decode at emits
  split at emits
  · rename_i members parsed
    dsimp only at emits
    split at emits
    · split at emits
      · cases emits
      obtain ⟨data, holds, emits⟩ := emits.of_attempt
      obtain ⟨symbol, _, emits⟩ := emits.of_attempt
      obtain ⟨type, _, emits⟩ := emits.of_attempt
      cases emits with
      | find answer emits =>
          cases answer with
          | none => cases emits
          | some answer =>
              obtain ⟨checksum, _, emits⟩ := emits.of_attempt
              obtain ⟨time, _, emits⟩ := emits.of_attempt
              obtain ⟨buys, bought, emits⟩ := emits.of_attempt
              obtain ⟨sells, sold, emits⟩ := emits.of_attempt
              cases emits with
              | later emits => cases emits
              | here =>
                  obtain ⟨bids, bidding, rfl⟩ := sideText_of_parseSide bought
                  obtain ⟨asks, asking, rfl⟩ := sideText_of_parseSide sold
                  refine ⟨.object members, ⟨bids, asks⟩, parsed, ?_, rfl, rfl⟩
                  unfold source
                  obtain ⟨rest, entries⟩ := findMember_of_bookData holds
                  rw [entries]
                  dsimp only
                  rw [bidding, asking]
                  rfl
    · cases emits
  · cases emits

end DataFeed.Kraken

namespace DataFeed.Coinbase

open DataFeed.Core L2 Net Venue Decoding

variable {scale : String → UInt32 → Int64} {precision : PairPrecision}

/-- A number that is accepted is scaled. -/
theorem text_of_requireScaled {level : Json} {name : String} {decimals : UInt32} {value : Int64}
    (scaled : requireScaled scale level name decimals = .ok value) :
    ∃ text, level.findMember name = some (.string text) ∧ value = scale text decimals := by
  obtain ⟨text, spelled, scaled⟩ := bind_eq_ok scaled
  refine ⟨text, Json.requireString_eq_ok_iff.mp spelled, ?_⟩
  split at scaled
  · contradiction
  · split at scaled
    · contradiction
    · exact (Except.ok.inj scaled).symm

/-- An update Coinbase's decoder adds has a side and two texts, and goes to that side. -/
theorem updateText_of_addUpdate {message next : Message} {update : Json}
    (added : addUpdate scale precision message update = .ok next) :
    ∃ side text, updateText update = some (side, text) ∧
      next.buys = message.buys ++ (onSide "bid" [(side, text)]).map
        (LevelText.scaled scale precision) ∧
      next.sells = message.sells ++ (onSide "offer" [(side, text)]).map
        (LevelText.scaled scale precision) := by
  obtain ⟨side, sided, added⟩ := bind_eq_ok added
  split at added
  · contradiction
  rename_i known
  obtain ⟨price, priced, added⟩ := bind_eq_ok added
  obtain ⟨quantity, counted, added⟩ := bind_eq_ok added
  obtain ⟨first, spelled, rfl⟩ := text_of_requireScaled priced
  obtain ⟨second, written, rfl⟩ := text_of_requireScaled counted
  obtain rfl := Except.ok.inj added
  have either : side = "bid" ∨ side = "offer" := by
    rw [not_and_or, not_not, not_not] at known
    exact known
  refine ⟨side, ⟨first, second⟩, ?_, ?_⟩
  · unfold updateText
    rw [Json.requireString_eq_ok_iff.mp sided, spelled, written]
    exact if_pos either
  · rcases either with rfl | rfl
    · exact ⟨rfl, (List.append_nil _).symm⟩
    · exact ⟨(List.append_nil _).symm, rfl⟩

/-- The texts of a side are put together one by one. -/
theorem onSide_cons (side : String) (text : String × LevelText)
    (texts : List (String × LevelText)) :
    onSide side (text :: texts) = onSide side [text] ++ onSide side texts := by
  unfold onSide
  rw [← List.map_append, ← List.filter_append, List.singleton_append]

/-- The updates Coinbase's decoder adds go to their sides in order. -/
theorem texts_of_addUpdates {updates : List Json} {message final : Message}
    (added : updates.foldlM (addUpdate scale precision) message = .ok final) :
    ∃ texts, updates.mapM updateText = some texts ∧
      final.buys = message.buys ++ (onSide "bid" texts).map (LevelText.scaled scale precision) ∧
      final.sells = message.sells ++ (onSide "offer" texts).map
        (LevelText.scaled scale precision) := by
  induction updates generalizing message with
  | nil =>
      obtain rfl := Except.ok.inj added
      exact ⟨[], rfl, (List.append_nil _).symm, (List.append_nil _).symm⟩
  | cons update updates ih =>
      rw [List.foldlM_cons] at added
      obtain ⟨next, first, rest⟩ := bind_eq_ok added
      obtain ⟨side, text, spelled, bought, sold⟩ := updateText_of_addUpdate first
      obtain ⟨texts, written, buys, sells⟩ := ih rest
      refine ⟨(side, text) :: texts, ?_, ?_, ?_⟩
      · rw [List.mapM_cons, spelled, written]
        rfl
      · rw [buys, bought, onSide_cons "bid" _ texts, List.map_append, List.append_assoc]
      · rw [sells, sold, onSide_cons "offer" _ texts, List.map_append, List.append_assoc]

/-- What is emitted while the events are decoded has the levels of one of them. -/
theorem source_of_decodeEvents {time capture : Int64} {events : List Json} {decoder : L2Decoder}
    {given : Option PairPrecision} {message : Message}
    (emits : Emits given (events.foldr (decodeEvent scale time capture) (.done decoder)) precision
      message) :
    ∃ event ∈ events, ∃ shown, source event = some shown ∧
      shown.Drawn scale precision message := by
  induction events generalizing given with
  | nil => cases emits
  | cons event events ih =>
      have later : (∃ given, Emits given (events.foldr (decodeEvent scale time capture)
          (.done decoder)) precision message) → ∃ other ∈ event :: events, ∃ shown,
            source other = some shown ∧ shown.Drawn scale precision message := by
        rintro ⟨given, emits⟩
        obtain ⟨other, listed, shown⟩ := ih emits
        exact ⟨other, List.mem_cons_of_mem _ listed, shown⟩
      rw [List.foldr_cons] at emits
      obtain ⟨product, _, emits⟩ := emits.of_attempt
      obtain ⟨type, _, emits⟩ := emits.of_attempt
      cases emits with
      | find answer emits =>
          cases answer with
          | none => exact later ⟨_, emits⟩
          | some answer =>
              obtain ⟨updates, listed, emits⟩ := emits.of_attempt
              obtain ⟨built, added, emits⟩ := emits.of_attempt
              cases emits with
              | later emits => exact later ⟨_, emits⟩
              | here =>
                  obtain ⟨texts, written, buys, sells⟩ := texts_of_addUpdates added
                  refine ⟨event, List.mem_cons_self, ⟨onSide "bid" texts, onSide "offer" texts⟩,
                    ?_, buys, sells⟩
                  unfold source
                  rw [Json.requireArray_eq_ok_iff.mp listed]
                  dsimp only
                  rw [written]
                  rfl

/-- What the decoder emits has the levels of an event of its frame. -/
theorem source_of_emits {parse : String → Option Json} {decoder : L2Decoder} {frame : RawFrame}
    {message : Message}
    (emits : Emits none (decode scale parse decoder frame) precision message) :
    ∃ document events, parse frame.json = some document ∧
      document.requireArray "events" = .ok events ∧ ∃ event ∈ events, ∃ shown,
        source event = some shown ∧ shown.Drawn scale precision message := by
  unfold decode at emits
  split at emits
  · rename_i members parsed
    obtain ⟨type, _, emits⟩ := emits.of_attempt
    split at emits
    · cases emits
    obtain ⟨channel, _, emits⟩ := emits.of_attempt
    split at emits
    · cases emits
    obtain ⟨number, _, emits⟩ := emits.of_attempt
    obtain ⟨advanced, _, emits⟩ := emits.of_attempt
    split at emits
    · obtain ⟨events, listed, emits⟩ := emits.of_attempt
      split at emits
      · obtain ⟨last, _, emits⟩ := emits.of_attempt
        cases emits
      · split at emits
        · cases emits
        · obtain ⟨time, _, emits⟩ := emits.of_attempt
          exact ⟨_, events, parsed, listed, source_of_decodeEvents emits⟩
    · cases emits
  · cases emits

end DataFeed.Coinbase

namespace DataFeed.Venue

open DataFeed.Core L2 Net Decoding

/-- **Which levels are read exactly.** What either decoder emits has the levels of a book
change that its frame shows, none left out. In every build each level is what its texts
say if these are well spelled; unless one has an exponent, that is the only case. -/
theorem levels_exact_iff {scale : String → UInt32 → Int64} {parse : String → Option Json}
    {frame : RawFrame} {precision : PairPrecision} {message : Message}
    (emits : (∃ decoder, Emits none (Kraken.decode scale parse decoder frame) precision message) ∨
      ∃ decoder, Emits none (Coinbase.decode scale parse decoder frame) precision message) :
    ∃ document shown, parse frame.json = some document ∧
      (Kraken.source document = some shown ∨
        ∃ events, document.requireArray "events" = .ok events ∧
          ∃ event ∈ events, Coinbase.source event = some shown) ∧
      shown.Drawn scale precision message ∧
      ∀ text ∈ shown.bids ++ shown.asks,
        (text.WellSpelled precision → text.ExactlyScaled precision) ∧
          (¬ text.HasExponent → (text.ExactlyScaled precision ↔ text.WellSpelled precision)) := by
  have verdict : ∀ text : LevelText,
      (text.WellSpelled precision → text.ExactlyScaled precision) ∧
        (¬ text.HasExponent → (text.ExactlyScaled precision ↔ text.WellSpelled precision)) :=
    fun text => ⟨LevelText.exactlyScaled_of_wellSpelled, LevelText.exactlyScaled_iff⟩
  rcases emits with ⟨decoder, emits⟩ | ⟨decoder, emits⟩
  · obtain ⟨document, shown, parsed, known, drawn⟩ := Kraken.source_of_emits emits
    exact ⟨document, shown, parsed, Or.inl known, drawn, fun text _ => verdict text⟩
  · obtain ⟨document, events, parsed, listed, event, member, shown, known, drawn⟩ :=
      Coinbase.source_of_emits emits
    exact ⟨document, shown, parsed, Or.inr ⟨events, listed, event, member, known⟩, drawn,
      fun text _ => verdict text⟩

/-- A snapshot of one bid, as Kraken sends it. -/
def krakenFrame (bid : LevelText) : Json :=
  .object [("channel", .string "book"), ("type", .string "snapshot"),
    ("data", .array [.object [("symbol", .string "BTC/USD"),
      ("bids", .array [.object [("price", .string bid.price), ("qty", .string bid.quantity)]]),
      ("asks", .array [])]])]

/-- A snapshot of one bid, as Coinbase sends it. -/
def coinbaseFrame (bid : LevelText) : Json :=
  .object [("channel", .string "l2_data"), ("sequence_num", .string "0"),
    ("events", .array [.object [("product_id", .string "BTC-USD"), ("type", .string "snapshot"),
      ("updates", .array [.object [("side", .string "bid"), ("price_level", .string bid.price),
        ("new_quantity", .string bid.quantity)]])]])]

/-- The decoder really emits the level of Kraken's frame. -/
theorem emits_krakenFrame (scale : String → UInt32 → Int64) (bid : LevelText)
    (precision : PairPrecision) :
    Emits none (Kraken.decode scale (fun _ => some (krakenFrame bid)) {} ⟨"", 0⟩) precision
      ⟨.snapshot, 0, 0, 0, "BTC/USD", [bid.scaled scale precision], []⟩ :=
  .find (some precision) .here

/-- The decoder really emits the level of Coinbase's frame, exponent and all. -/
theorem emits_coinbaseFrame (scale : String → UInt32 → Int64) (precision : PairPrecision) :
    Emits none (Coinbase.decode scale (fun _ => some (coinbaseFrame ⟨"1e3", "1"⟩)) .init ⟨"", 0⟩)
      precision ⟨.snapshot, 0, 0, 0, "BTC-USD",
        [LevelText.scaled scale precision ⟨"1e3", "1"⟩], []⟩ :=
  .find (some precision) .here

/-- A level that is read exactly. -/
theorem levels_exact_iff_snapshot :
    ∃ document shown, (fun _ : String => some (krakenFrame ⟨"20.5", "1"⟩)) "" = some document ∧
      (Kraken.source document = some shown ∨
        ∃ events, document.requireArray "events" = .ok events ∧
          ∃ event ∈ events, Coinbase.source event = some shown) ∧
      shown.Drawn (fun text decimals => (scaleDecimalStringToI64 text decimals).getD 0) ⟨1, 2⟩
        ⟨.snapshot, 0, 0, 0, "BTC/USD", [⟨205, 100⟩], []⟩ ∧
      ∀ text ∈ shown.bids ++ shown.asks,
        (text.WellSpelled ⟨1, 2⟩ → text.ExactlyScaled ⟨1, 2⟩) ∧
          (¬ text.HasExponent → (text.ExactlyScaled ⟨1, 2⟩ ↔ text.WellSpelled ⟨1, 2⟩)) :=
  levels_exact_iff (Or.inl ⟨{}, emits_krakenFrame _ ⟨"20.5", "1"⟩ ⟨1, 2⟩⟩)

/-- A price with an exponent is emitted without it, by either decoder. -/
theorem exponents_misread :
    (¬ ∀ scale, Scales scale → ∀ parse decoder frame precision message,
      Emits none (Kraken.decode scale parse decoder frame) precision message →
        ∃ document shown, parse frame.json = some document ∧
          Kraken.source document = some shown ∧
          List.Forall₂ (LevelText.Exact precision) shown.bids message.buys) ∧
    (¬ ∀ scale, Scales scale → ∀ parse decoder frame precision message,
      Emits none (Coinbase.decode scale parse decoder frame) precision message →
        ∃ document events, parse frame.json = some document ∧
          document.requireArray "events" = .ok events ∧ ∃ event ∈ events, ∃ shown,
            Coinbase.source event = some shown ∧
            List.Forall₂ (LevelText.Exact precision) shown.bids message.buys) := by
  let bid : LevelText := ⟨"1e3", "1"⟩
  have scales : Scales fun text decimals => (scaleDecimalStringToI64 text decimals).getD 0 :=
    fun _ _ _ scaled => congrArg (Option.getD · 0) scaled
  have misread : ¬ List.Forall₂ (LevelText.Exact ⟨1, 2⟩) [bid] [bid.scaled (fun text decimals =>
      (scaleDecimalStringToI64 text decimals).getD 0) ⟨1, 2⟩] := by
    rw [List.forall₂_cons]
    exact fun exact => absurd exact.1 (by decide +kernel)
  constructor
  · intro exact
    obtain ⟨document, shown, parsed, known, levels⟩ := exact _ scales _ {} ⟨"", 0⟩ ⟨1, 2⟩ _
      (emits_krakenFrame _ bid _)
    obtain rfl := Option.some.inj parsed
    obtain rfl := Option.some.inj known
    exact misread levels
  · intro exact
    obtain ⟨document, events, parsed, listed, event, member, shown, known, levels⟩ :=
      exact _ scales _ .init ⟨"", 0⟩ ⟨1, 2⟩ _ (emits_coinbaseFrame _ ⟨1, 2⟩)
    obtain rfl := Option.some.inj parsed
    obtain rfl := Except.ok.inj listed
    obtain rfl := List.mem_singleton.mp member
    obtain rfl := Option.some.inj known
    exact misread levels

end DataFeed.Venue
