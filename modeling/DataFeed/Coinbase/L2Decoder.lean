import DataFeed.Core.Json
import DataFeed.Core.UnixTime
import DataFeed.Venue.Decoding

/-! # Coinbase's decoder

Each event of an "l2_data" frame is one book change. Coinbase sends no checksum, so
the decoder watches the numbers of the frames and of the heartbeats instead, and throws
when one skips.

The parser of frames is a parameter, and so is what a build makes of a text that does
not scale.
-/

namespace DataFeed.Coinbase

open DataFeed.Core L2 Net Venue

/-- What the decoder keeps across the frames of a connection. -/
structure L2Decoder where
  lastSequence : Option UInt64
  lastHeartbeat : Option UInt64
  deriving DecidableEq, Repr

/-- A decoder for a new connection. -/
def L2Decoder.init : L2Decoder := ⟨none, none⟩

/-- The unsigned number of an object's member. -/
def requireUnsigned (object : Json) (name : String) : Except String UInt64 :=
  (object.requireString name).bind fun text =>
    match fromCharsU64 (bytes text) with
    | .number value [] => .ok (UInt64.ofNat value.toNat)
    | _ => .error (Json.malformedField name)

variable (scale : String → UInt32 → Int64)

/-- The decimal of a level's member, scaled. Throws if it is negative or too fine. -/
def requireScaled (level : Json) (name : String) (decimals : UInt32) : Except String Int64 :=
  (level.requireString name).bind fun text =>
    if (bytes text).head? = some 45 then
      .error ("Coinbase sent a negative \"" ++ name ++ "\": " ++ text)
    else if fractionDigits text > decimals then
      .error ("Coinbase sent a \"" ++ name ++ "\" of " ++ text ++ ", finer than the product's " ++
        toString decimals ++ " decimals; its increments must have changed")
    else .ok (scale text decimals)

def parseType (type : String) : Except String MessageType :=
  if type = "snapshot" then .ok .snapshot
  else if type = "update" then .ok .update
  else .error ("Coinbase sent a level2 event of type '" ++ type ++ "'")

/-- Adds one level of an event to the side of the message that it belongs on. -/
def addUpdate (precision : PairPrecision) (message : Message) (update : Json) :
    Except String Message :=
  (update.requireString "side").bind fun side =>
    if side ≠ "bid" ∧ side ≠ "offer" then
      .error ("Coinbase sent a level on side '" ++ side ++ "'")
    else
      (requireScaled scale update "price_level" precision.priceDecimals).bind fun price =>
        (requireScaled scale update "new_quantity" precision.qtyDecimals).bind fun quantity =>
          .ok (if side = "bid" then { message with buys := message.buys ++ [⟨price, quantity⟩] }
            else { message with sells := message.sells ++ [⟨price, quantity⟩] })

/-- Emits the book change an event holds, if the output wants it. -/
def decodeEvent (venueTimeNs captureTimeNs : Int64) (event : Json)
    (next : Decoding L2Decoder) : Decoding L2Decoder :=
  .attempt (event.requireString "product_id") fun product =>
    .attempt ((event.requireString "type").bind parseType) fun type =>
      .find product type fun precision =>
        match precision with
        | none => next
        | some precision =>
            .attempt (event.requireArray "updates") fun updates =>
              .attempt (updates.foldlM (addUpdate scale precision)
                ⟨type, 0, venueTimeNs, captureTimeNs, product, [], []⟩) fun message =>
                  .emit message next

/-- What is thrown when numbers are missing between the last and the next. -/
def skipped (what : String) (last next : UInt64) : String :=
  "Coinbase skipped " ++ what ++ " " ++ toString (last + 1) ++ " to " ++ toString (next - 1) ++
    "; reconnecting for fresh snapshots"

/-- The last number after the next, and whether the next follows. -/
def advance (last : Option UInt64) (next : UInt64) (what : String) :
    Except String (Option UInt64 × Bool) :=
  match last with
  | none => .ok (some next, true)
  | some last =>
      if next ≤ last then .ok (some last, false)
      else if next ≠ last + 1 then .error (skipped what last next)
      else .ok (some next, true)

/-- The last heartbeat after one more. -/
def heartbeat (last : Option UInt64) (event : Json) : Except String (Option UInt64) :=
  (requireUnsigned event "heartbeat_counter").bind fun counter =>
    (advance last counter "heartbeats").map Prod.fst

/-- The time a frame was sent at, or 0. -/
def venueTime (document : Json) : Except String Int64 :=
  (document.findString "timestamp").map fun text =>
    (text.bind parseIso8601ToUnixNanos).getD 0

/-- Decodes the events of a frame that follows the last. -/
def decodeEvents (decoder : L2Decoder) (frame : RawFrame) (document : Json) (channel : String) :
    Decoding L2Decoder :=
  .attempt (document.requireArray "events") fun events =>
    if channel = "heartbeats" then
      .attempt (events.foldlM heartbeat decoder.lastHeartbeat) fun last =>
        .done { decoder with lastHeartbeat := last }
    else if channel ≠ "l2_data" then .done decoder
    else
      .attempt (venueTime document) fun time =>
        events.foldr (decodeEvent scale time frame.captureTimeNs) (.done decoder)

variable (parse : String → Option Json)

/-- Decodes a frame. -/
def decode (decoder : L2Decoder) (frame : RawFrame) : Decoding L2Decoder :=
  match parse frame.json with
  | some (.object members) =>
      let document := Json.object members
      .attempt (document.findString "type") fun type =>
        if type = some "error" then .done decoder
        else
          .attempt (document.findString "channel") fun channel =>
            match channel with
            | none => .done decoder
            | some channel =>
                .attempt (requireUnsigned document "sequence_num") fun number =>
                  .attempt (advance decoder.lastSequence number "sequence numbers")
                    fun advanced =>
                      if advanced.2 then
                        decodeEvents scale { decoder with lastSequence := advanced.1 } frame
                          document channel
                      else .done decoder
  | _ => .done decoder

end DataFeed.Coinbase
