import DataFeed.Core.Document
import DataFeed.L2.Message

/-! # A venue's subscriptions, as its manager names them -/

namespace DataFeed.Venue

open DataFeed.Core L2

/-- What a subscription does with its book. -/
inductive Sink where
  /-- Streams it to the frontend. -/
  | live
  /-- Records it to a file. -/
  | record
  deriving DecidableEq, Repr

/-- Identifies a subscription across every venue. From the most significant bit:
a 48-bit counter, the venue in 8 bits and the sink in the last 8. -/
abbrev SubscriptionId := UInt64

/-- The sink an id names, if its last 8 bits are a sink's. -/
def sinkOf (id : SubscriptionId) : Option Sink :=
  match (id &&& 0xFF).toNat with
  | 0 => some .live
  | 1 => some .record
  | _ => none

/-- The words for an id's sink in error details; only `record` has its own. -/
def sinkName (sink : Option Sink) : String :=
  if sink = some .record then "a recording" else "a live feed"

/-- One subscription, as listed to the frontend. -/
structure SubscriptionInfo where
  id : SubscriptionId
  book : BookSpec
  startTimeNs : Int64
  deriving DecidableEq, Repr

/-- Why a command failed. -/
inductive ErrorCode where
  | unknownVenue
  | invalidDepth
  | unknownSymbol
  | unknownId
  | symbolInUse
  | venueFailed
  | idsExhausted
  deriving DecidableEq, Repr

/-- A command's failure, with a text for people. -/
structure Error where
  code : ErrorCode
  detail : String
  deriving DecidableEq, Repr

/-- What a call to the venue comes to, unless the process is aborted. -/
def callVenue {Result : Type} (fetched : Lookup Result) : Option (Except Error Result) :=
  match fetched with
  | .ok result => some (.ok result)
  | .error (.unknownSymbol what) => some (.error ⟨.unknownSymbol, what⟩)
  | .error (.thrown what) => some (.error ⟨.venueFailed, what⟩)
  | .error .aborted => none

end DataFeed.Venue
