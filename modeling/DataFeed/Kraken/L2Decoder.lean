import DataFeed.Core.Json
import DataFeed.Core.UnixTime
import DataFeed.L2.Spelling
import DataFeed.Venue.Decoding

/-! # Kraken's decoder

A book frame holds one book change, with Kraken's checksum of the book after it. What is
not laid out as a book frame is thrown at, what is on another channel is left alone.

The parser of frames is a parameter, and so is what a build makes of a text that does
not scale.
-/

namespace DataFeed.Kraken

open DataFeed.Core L2 Net Venue

/-- The decoder keeps nothing from one frame to the next. -/
structure L2Decoder where
  deriving DecidableEq, Repr

variable (scale : String → UInt32 → Int64)

/-- The decimal of a level's member, scaled. -/
def parseScaled (level : Json) (name : String) (decimals : UInt32) : Except String Int64 :=
  (level.requireString name).map fun text => scale text decimals

/-- One level of a side. -/
def parseLevel (precision : PairPrecision) (level : Json) : Except String Level :=
  (parseScaled scale level "price" precision.priceDecimals).bind fun price =>
    (parseScaled scale level "qty" precision.qtyDecimals).map fun quantity => ⟨price, quantity⟩

/-- The levels of a side. -/
def parseSide (data : Json) (name : String) (precision : PairPrecision) :
    Except String (List Level) :=
  (data.requireArray name).bind fun levels => levels.mapM (parseLevel scale precision)

/-- The checksum, or 0 if there is none or it cannot be read. -/
def parseChecksum (data : Json) : Except String UInt32 :=
  (data.findString "checksum").map fun text =>
    UInt32.ofNat ((fromCharsU32 (bytes (text.getD ""))).valueOr 0).toNat

/-- The time of a book change, or 0. -/
def parseVenueTime (data : Json) : Except String Int64 :=
  (data.findString "timestamp").map fun text => (text.bind parseIso8601ToUnixNanos).getD 0

/-- What is thrown for a book frame without a book change. -/
def noBookData : String := "Malformed Kraken book frame: \"data\" holds no object"

/-- The single entry of a book frame's "data" array. -/
def bookData (document : Json) : Except String Json :=
  (document.requireArray "data").bind fun data =>
    match data with
    | .object members :: _ => .ok (.object members)
    | _ => .error noBookData

variable (parse : String → Option Json)

/-- Decodes a frame. -/
def decode (decoder : L2Decoder) (frame : RawFrame) : Decoding L2Decoder :=
  match parse frame.json with
  | some (.object members) =>
      let document := Json.object members
      match document.findMember "channel" with
      | some (.string channel) =>
          if channel ≠ "book" then .done decoder
          else
            .attempt (bookData document) fun data =>
              .attempt (data.requireString "symbol") fun symbol =>
                .attempt ((document.requireString "type").map fun type =>
                    if type = "snapshot" then MessageType.snapshot else .update) fun type =>
                  .find symbol type fun precision =>
                    match precision with
                    | none => .done decoder
                    | some precision =>
                        .attempt (parseChecksum data) fun checksum =>
                          .attempt (parseVenueTime data) fun time =>
                            .attempt (parseSide scale data "bids" precision) fun buys =>
                              .attempt (parseSide scale data "asks" precision) fun sells =>
                                .emit ⟨type, checksum, time, frame.captureTimeNs, symbol, buys,
                                  sells⟩ (.done decoder)
      | _ => .done decoder
  | _ => .done decoder

end DataFeed.Kraken
