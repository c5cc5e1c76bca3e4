import DataFeed.Net.WebsocketFeed
import DataFeed.Venue.L2Parser
import DataFeed.Venue.Manager

/-! # What a manager needs to know about its venue

An adapter says what one venue accepts, how its requests are spelled and how its
frames are decoded. A decoder is given what its output answers, so decoding a frame
is a tree: each question and each book change, in the order in which they come up,
and at the end either the decoder for the next frame or an exception.
-/

namespace DataFeed.Venue

open L2 Net

/-- What decoding a frame asks its output and hands to it. -/
inductive Decoding (Decoder : Type) where
  /-- Asks for the precision to scale a change at, unless it would be dropped. -/
  | find (symbol : String) (type : MessageType) (next : Option PairPrecision → Decoding Decoder)
  | emit (message : Message) (next : Decoding Decoder)
  /-- The frame is decoded. -/
  | done (decoder : Decoder)
  /-- The decoder throws. -/
  | fail (what : String)

/-- One venue, as its manager sees it. -/
structure Adapter (Decoder : Type) where
  name : String
  /-- The book depths it accepts, ascending. -/
  depths : List UInt32
  /-- Its checksum over a book, if it sends one. -/
  bookChecksum : Option (Book → UInt32)
  checkSymbol : String → Except Error Unit
  /-- The frames every new connection sends first. -/
  connectRequests : List String
  /-- The frame that subscribes to or unsubscribes from a book. -/
  makeBookRequest : BookRequest → BookSpec → String
  /-- A decoder for a new connection. -/
  makeDecoder : Decoder
  decode : Decoder → RawFrame → Decoding Decoder

namespace Adapter

variable {Decoder : Type} (adapter : Adapter Decoder)

/-- A list of depths, as error details spell it. -/
def depthsText (depths : List UInt32) : String :=
  "[" ++ ", ".intercalate (depths.map toString) ++ "]"

/-- Fails if a subscription must be refused without asking the venue. -/
def checkBook (book : BookSpec) : Except Error Unit :=
  if book.depth ∉ adapter.depths then
    .error
      { code := .invalidDepth
        detail := adapter.name ++ " has no L2 depth " ++ toString book.depth ++ ", only " ++
          depthsText adapter.depths }
  else adapter.checkSymbol book.symbol

end Adapter

end DataFeed.Venue
