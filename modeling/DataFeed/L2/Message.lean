import DataFeed.Foundation.FixedWidth

/-! # Book changes

What a venue says about one pair's book: the pair and depth a subscription
streams, the scale of its numbers, and the messages themselves.
-/

namespace DataFeed.L2

/-- Decimal digit counts a venue applies to a pair's price and quantity. -/
structure PairPrecision where
  priceDecimals : UInt32
  qtyDecimals : UInt32
  deriving DecidableEq, Repr

/-- The depth of a book without a limit. -/
def fullDepth : UInt32 := 0

/-- A pair's book at one depth, or at `fullDepth`. -/
structure BookSpec where
  symbol : String
  depth : UInt32
  deriving DecidableEq, Repr

/-- Whether a message changes a book or replaces it. -/
inductive MessageType where
  | update
  | snapshot
  deriving DecidableEq, Repr

/-- One price level, in fixed point. -/
structure Level where
  price : Int64
  quantity : Int64
  deriving DecidableEq, Repr

/-- One change of one pair's book. A zero checksum or venue time means the
venue sent none. -/
structure Message where
  type : MessageType
  checksum : UInt32
  venueTimeNs : Int64
  captureTimeNs : Int64
  symbol : String
  buys : List Level
  sells : List Level
  deriving DecidableEq, Repr

end DataFeed.L2

namespace DataFeed.Core

/-- Why a subscription's stream has a gap. -/
inductive Gap where
  | disconnected
  | resubscribing
  deriving DecidableEq, Repr

end DataFeed.Core
