import DataFeed.Venue.Connections
import DataFeed.Venue.SubscriptionTable

/-! # A manager and its venue

The requests of a connection are on their way to the venue, and its frames on their way to
the parser, each in order and each as long as may be. The venue answers a subscribe with a
snapshot of the pair, and then sends the pair's updates until it handles an unsubscribe. It
sends each of them for the subscription whose request it handled last, and frames without
book changes when it likes.
-/

namespace DataFeed.Venue

open Foundation L2 Net DataFeed.Core

variable {Decoder : Type}

/-- All that may be emitted is of one pair and of one type. -/
def Decoding.Carries (subject : Option (String × MessageType)) : Decoding Decoder → Prop
  | .find _ _ next => ∀ answer, (next answer).Carries subject
  | .emit message next => subject = some (message.symbol, message.type) ∧ next.Carries subject
  | .done _ | .fail _ => True

/-- A frame whose book changes are of one pair and of one type, if it has any. -/
structure VenueFrame (adapter : Adapter Decoder) where
  raw : RawFrame
  subject : Option (String × MessageType)
  carries : ∀ decoder, (adapter.decode decoder raw).Carries subject

/-- The subscription that a request is sent for, by its receiver, if there is one. -/
abbrev Asker := Option ReceiverId

namespace Exchange

/-- A request on its way to the venue. -/
structure Asked where
  request : BookRequest
  symbol : String
  asker : Asker
  deriving DecidableEq, Repr

/-- A frame, and the subscription that the venue sent it for. -/
structure Reply (adapter : Adapter Decoder) where
  frame : VenueFrame adapter
  asker : Asker

/-- A message that a receiver got, and the subscription that the venue sent it for. -/
structure Delivery where
  receiver : ReceiverId
  message : Message
  asker : Asker
  deriving DecidableEq, Repr

/-- The pair and the type of a reply's book changes, for one pair: whom they are sent for,
and their type. -/
def Reply.change? {adapter : Adapter Decoder} (symbol : String) (reply : Reply adapter) :
    Option (Asker × MessageType) :=
  match reply.frame.subject with
  | some (pair, type) => if pair = symbol then some (reply.asker, type) else none
  | none => none

/-- The subscription to a pair. -/
def askerOf (subscriptions : Subscriptions) (symbol : String) : Asker :=
  (L2Manager.findSymbol subscriptions symbol).map fun entry => entry.2.receiver

/-- The requests among what happened. -/
def asks (subscriptions : Subscriptions) (events : List Event) : List Asked :=
  events.filterMap fun event =>
    match event with
    | .sent request book => some ⟨request, book.symbol, askerOf subscriptions book.symbol⟩
    | _ => none

/-- The messages received among what happened, of a frame that was sent for a subscription. -/
def deliveries (asker : Asker) (events : List Event) : List Delivery :=
  events.filterMap fun event =>
    match event with
    | .received receiver message => some ⟨receiver, message, asker⟩
    | _ => none

end Exchange

open Exchange in
/-- A manager, and what it and its venue say to one another. -/
structure Exchange (adapter : Adapter Decoder) where
  manager : L2Manager Decoder
  /-- The requests on their way to the venue. -/
  asked : List Asked
  /-- Whom the venue sends a pair's updates for, if it does. -/
  streams : String → Option Asker
  /-- The frames that the venue sent and the network thread has not read. -/
  sent : List (Reply adapter)
  /-- The frame that the network thread waits to push. -/
  pushing : Option (Reply adapter)
  /-- The frames that the parser has not finished. -/
  queued : List (Reply adapter)
  /-- What the receivers got. -/
  delivered : List Delivery

namespace Exchange

variable (adapter : Adapter Decoder)

/-- A manager that has just been built. -/
def init : Exchange adapter := ⟨.init adapter, [], fun _ => none, [], none, [], []⟩

/-- Who takes a step. -/
inductive Action where
  /-- The manager, unless it reads a frame. -/
  | manager (action : L2Manager.Action)
  /-- The network thread reads the next frame. -/
  | read
  /-- The venue handles the next request: the frame is its answer to a subscribe. -/
  | handle (frame : VenueFrame adapter)
  /-- The venue sends an update of a pair. -/
  | update (frame : VenueFrame adapter)
  /-- The venue sends a frame without book changes. -/
  | notice (frame : VenueFrame adapter)

variable {adapter} (exchange : Exchange adapter)

/-- What becomes of the requests and of the frames in a step of the manager. A connection
that is closed takes along what was on its way, and the end of a connection what was left in
the queue. -/
def follow (next : L2Manager Decoder) : L2Manager.Action → Exchange adapter
  | .run =>
      match exchange.manager.lock with
      | some (_, .joinFeed _) =>
          { exchange with manager := next, asked := [], streams := fun _ => none, sent := [] }
      | some (_, .endConnection _) => { exchange with manager := next, queued := [] }
      | _ =>
          { exchange with
            manager := next
            asked := exchange.asked ++
              asks next.subscriptions (next.log.drop exchange.manager.log.length) }
  | .network .push =>
      { exchange with
        manager := next
        queued := exchange.queued ++ exchange.pushing.toList
        pushing := none }
  | .network .giveUp => { exchange with manager := next, pushing := none }
  | .parse =>
      { exchange with
        manager := next
        queued :=
          match exchange.manager.pipeline.parserThread with
          | some (.decoding (.done _)) => exchange.queued.tail
          | _ => exchange.queued
        delivered := exchange.delivered ++
          deliveries (exchange.queued.head?.bind Reply.asker)
            (next.log.drop exchange.manager.log.length) }
  | _ => { exchange with manager := next }

/-- What a step does, if it is possible. -/
def step : Action adapter → Option (Exchange adapter)
  | .manager (.network (.read _)) => none
  | .manager action =>
      (L2Manager.step adapter exchange.manager action).map fun next =>
        exchange.follow next action
  | .read =>
      match exchange.sent with
      | [] => none
      | reply :: rest =>
          (L2Manager.step adapter exchange.manager (.network (.read reply.frame.raw))).map
            fun next => { exchange with manager := next, sent := rest, pushing := some reply }
  | .handle frame =>
      match exchange.asked with
      | [] => none
      | ⟨.subscribe, symbol, asker⟩ :: rest =>
          if frame.subject = some (symbol, .snapshot) then
            some { exchange with
              asked := rest
              streams := Function.update exchange.streams symbol (some asker)
              sent := exchange.sent ++ [⟨frame, asker⟩] }
          else none
      | ⟨.unsubscribe, symbol, _⟩ :: rest =>
          some { exchange with
            asked := rest
            streams := Function.update exchange.streams symbol none }
  | .update frame =>
      match frame.subject with
      | some (symbol, .update) =>
          (exchange.streams symbol).map fun asker =>
            { exchange with sent := exchange.sent ++ [⟨frame, asker⟩] }
      | _ => none
  | .notice frame =>
      if frame.subject = none ∧ exchange.manager.connected then
        some { exchange with sent := exchange.sent ++ [⟨frame, none⟩] }
      else none

variable (adapter) in
/-- A manager and its venue. -/
def system : System (Exchange adapter) (Action adapter) where
  init := init adapter
  step := step

end Exchange

end DataFeed.Venue
