import DataFeed.Frontend.Commands
import DataFeed.Venue.Changing
import DataFeed.Venue.ReceiverFactory
import DataFeed.Venue.Router

/-! # The server's commands and what is behind them

The router hands out ids and finds the manager of one, the managers keep the subscriptions,
and the outbox is shared by all of them. A `Start` takes its steps in the router and then in
a manager, a `Stop` looks at its id and then asks a manager, and a `Watch` asks the outbox
and, if nothing is registered there, lists the subscriptions. Commands of different clients
take their steps beside one another and beside the managers' own threads.
-/

namespace DataFeed.Frontend

open Foundation L2 Venue DataFeed.Core

namespace Wire

/-- The code of a venue's error on the wire. The venues on the wire are those the backend
knows, so an unknown one is a malformed command. -/
def codeOf : Venue.ErrorCode → ErrorCode
  | .unknownVenue => .invalidCommand
  | .invalidDepth => .invalidDepth
  | .unknownSymbol => .unknownSymbol
  | .unknownId => .unknownId
  | .symbolInUse => .symbolInUse
  | .venueFailed => .venueFailed
  | .idsExhausted => .idsExhausted

/-- The code of a reply that is an error. -/
def Reply.code? : Reply → Option ErrorCode
  | .error code _ => some code
  | _ => none

end Wire

namespace Server

/-- The first half of `Stop`: the venue whose manager is asked, or what the command is
answered without asking. The id carries its sink. -/
def stop (router : Router) (id : SubscriptionId) (sink : Sink) : Except Wire.Reply VenueId :=
  if sinkOf id ≠ some sink then
    .error (failure .sinkMismatch
      ("Subscription " ++ toString id ++ " is not " ++ sinkName (some sink)))
  else
    match router.managerOf id with
    | none => .error (failure .unknownId ("No subscription " ++ toString id))
    | some venue => .ok venue

/-- The second half of `Stop`: what becomes of the manager's answer. An `Unsubscribe` that
does not fail returns nothing. -/
def stopped : Outcome → Wire.Reply
  | .failed error => .error (Wire.codeOf error.code) error.detail
  | .thrown what => failure .venueFailed what
  | .done | .healthy _ | .subscribed _ | .listed _ => .ok

/-- What a `Watch` is answered whose stream the outbox does not have: a recording is told
apart from a typo. -/
def unwatched (id : SubscriptionId) (listed : List SubscriptionInfo) : Wire.Reply :=
  if listed.any fun listing => listing.id = id && sinkOf listing.id = some .record then
    failure .sinkMismatch ("Subscription " ++ toString id ++ " is a recording, not a live feed")
  else failure .unknownId ("No live subscription " ++ toString id)

end Server

/-- What is behind the server's commands. -/
structure Backend (Decoder : VenueId → Type) where
  router : Router
  managers : ∀ venue, L2Manager (Decoder venue)
  /-- Each manager's receivers that are transmitters. -/
  transmitters : VenueId → ReceiverId → Bool
  streams : Streams

namespace Backend

variable {Decoder : VenueId → Type} (adapters : ∀ venue, Adapter (Decoder venue))
  (backend : Backend Decoder)

/-- A backend that has just been built, with a manager for each of some venues. -/
def init (venues : List VenueId) : Backend Decoder where
  router := .init venues
  managers venue := .init (adapters venue)
  transmitters _ _ := false
  streams := .empty

/-- A venue's manager with the streams. -/
def station (venue : VenueId) : Station (Decoder venue) :=
  ⟨backend.managers venue, backend.streams, backend.transmitters venue⟩

/-- A venue's manager has moved, and the streams with it. -/
def put (venue : VenueId) (station : Station (Decoder venue)) : Backend Decoder :=
  { backend with
    managers := Function.update backend.managers venue station.manager
    transmitters := Function.update backend.transmitters venue station.transmitters
    streams := station.streams }

/-- The sink that a receiver built next is for: the router makes an id and the factory of
its receiver for one sink. -/
def sinkFor : Option (Holder × Section) → Sink
  | some (_, .resolveAgain request _) => (sinkOf request.id).getD .live
  | _ => .live

/-- A venue's manager takes a step. -/
def advance (venue : VenueId) (action : L2Manager.Action) : Option (Backend Decoder) :=
  ((backend.station venue).step (adapters venue)
    (.manager action (sinkFor (backend.managers venue).lock))).map (backend.put venue)

/-- Who takes a step. -/
inductive Action where
  /-- A `Start` calls the router. -/
  | subscribe (call : Nat) (asked : SubscribeCall)
  /-- It takes a counter. -/
  | count (call : Nat)
  /-- It makes its id and calls the manager, which is answered as given, or fails. -/
  | hand (call inner : Nat) (precision : Except Error PairPrecision)
      (makeReceiver : PairPrecision → Except String Unit) (nowNs : Int64)
  /-- A `Stop` looks at its id, and calls the manager unless it is answered at once. -/
  | stop (call : Nat) (id : SubscriptionId) (sink : Sink)
  /-- The supervisor or a command calls a manager, other than to change a subscription. -/
  | ask (venue : VenueId) (call : Nat) (operation : Operation)
  | manager (venue : VenueId) (action : L2Manager.Action)
  /-- A transmitter or a command calls a stream. -/
  | call (stream : StreamRef) (made : Stream.Call)

/-- What a step does, if it is possible. -/
def step : Action → Option (Backend Decoder)
  | .subscribe call asked =>
      (backend.router.step (.subscribe call asked)).map fun router =>
        { backend with router := router }
  | .count call =>
      (backend.router.step (.count call)).map fun router => { backend with router := router }
  | .hand call inner precision makeReceiver nowNs =>
      (backend.router.step (.hand call)).bind fun router =>
        match backend.router.calls call, router.calls call with
        | some (.counted asked _), some (.given id) =>
            advance adapters { backend with router := router } asked.venue
              (.invoke inner (.subscribe ⟨id, asked.book, precision, makeReceiver, nowNs⟩))
        | _, _ => some { backend with router := router }
  | .stop call id sink =>
      match Server.stop backend.router id sink with
      | .error _ => some backend
      | .ok venue => backend.advance adapters venue (.invoke call (.unsubscribe id))
  | .ask venue call operation =>
      if venue ∈ backend.router.managers ∧ operation.change?.isNone then
        backend.advance adapters venue (.invoke call operation)
      else none
  | .manager _ (.invoke _ _) => none
  | .manager venue action =>
      if venue ∈ backend.router.managers then backend.advance adapters venue action else none
  | .call stream made => some { backend with streams := backend.streams.call stream made }

/-- A backend for some venues, with every order of its steps. -/
def system (venues : List VenueId) : System (Backend Decoder) Action where
  init := init adapters venues
  step := step adapters

/-- No `Start` and no `Stop` is on its way in a manager. -/
def Idle : Prop := ∀ venue holder change, ¬ (backend.managers venue).Changing holder change

/-- A step of no `Start` and of no `Stop`, but in a manager that was called. -/
def Action.Background : Action → Prop
  | .subscribe _ _ | .count _ | .hand _ _ _ _ _ | .stop _ _ _ => False
  | .ask _ _ _ | .manager _ _ | .call _ _ => True

/-- A subscription has the id, and its receiver is one for the sink. -/
def Subscribed (id : SubscriptionId) (sink : Sink) : Prop :=
  ∃ venue subscription, (backend.managers venue).subscriptions.find? id = some subscription ∧
    backend.transmitters venue subscription.receiver = decide (sink = .live)

/-- A `Stop` and its reply, with all that goes on in the background until then. -/
inductive Stops (venues : List VenueId) (id : SubscriptionId) (sink : Sink) :
    Wire.Reply → Backend Decoder → Prop
  | atOnce {reply : Wire.Reply} :
      Server.stop backend.router id sink = .error reply → Stops venues id sink reply backend
  | asked {venue : VenueId} {call : Nat} {started after : Backend Decoder}
      {actions : List Action} {outcome : Outcome} :
      Server.stop backend.router id sink = .ok venue →
        backend.step adapters (.stop call id sink) = some started →
          (∀ action ∈ actions, action.Background) →
            (system adapters venues).runFrom started actions = some after →
              (after.managers venue).calls call = some (.ending outcome) →
                Stops venues id sink (Server.stopped outcome) after

/-- A `Watch` of a session and its reply, with all that goes on in the background until
then. Each manager lists its subscriptions some time after the outbox was asked. -/
inductive Watches (venues : List VenueId) (session : WatcherId) (id : SubscriptionId) :
    Wire.Reply → Backend Decoder → Prop
  | found {stream : StreamRef} {actions : List Action} {after : Backend Decoder} :
      backend.streams.outbox.find? id = some stream →
        (∀ action ∈ actions, action.Background) →
          (system adapters venues).runFrom backend (.call stream (.watch session) :: actions) =
              some after →
            Watches venues session id .ok after
  | missing {actions : List Action} {after : Backend Decoder}
      {listed : VenueId → List SubscriptionInfo} :
      backend.streams.outbox.find? id = none →
        (∀ action ∈ actions, action.Background) →
          (system adapters venues).runFrom backend actions = some after →
            (∀ venue ∈ backend.router.managers, ∃ call,
              (backend.managers venue).calls call = none ∧
                .respond call (.listed (listed venue)) ∈ (after.managers venue).history) →
              Watches venues session id
                (Server.unwatched id (backend.router.managers.flatMap listed)) after

/-- The subscriptions are those there were, each registered or not as it was. -/
structure Unchanged (before after : Backend Decoder) : Prop where
  tables : ∀ venue, (after.managers venue).subscriptions = (before.managers venue).subscriptions
  receivers : after.transmitters = before.transmitters
  outbox : after.streams.outbox = before.streams.outbox

/-- The subscriptions are those there were but one, which is registered no more. -/
structure Removed (before after : Backend Decoder) (id : SubscriptionId) : Prop where
  tables : ∀ venue,
    (after.managers venue).subscriptions = (before.managers venue).subscriptions.erase id
  receivers : after.transmitters = before.transmitters
  outbox : after.streams.outbox = before.streams.outbox.erase id

/-- The sink that another is not. -/
def other : Sink → Sink
  | .live => .record
  | .record => .live

/-- What the wire says a `Stop` is answered, and what it does. -/
structure StopLaw (after : Backend Decoder) (id : SubscriptionId) (sink : Sink)
    (reply : Wire.Reply) : Prop where
  stopped : backend.Subscribed id sink → reply = .ok ∧ Removed backend after id
  mismatch : reply.code? = some .sinkMismatch ↔ backend.Subscribed id (other sink)
  unknown : reply.code? = some .unknownId ↔ ∀ sink, ¬ backend.Subscribed id sink
  failed : reply ≠ .ok → Unchanged backend after

/-- What the wire says a `Watch` is answered. It changes no subscription. -/
structure WatchLaw (after : Backend Decoder) (id : SubscriptionId) (reply : Wire.Reply) :
    Prop where
  watched : backend.Subscribed id .live → reply = .ok
  mismatch : reply.code? = some .sinkMismatch ↔ backend.Subscribed id .record
  unknown : reply.code? = some .unknownId ↔ ∀ sink, ¬ backend.Subscribed id sink
  unchanged : Unchanged backend after

end Backend

end DataFeed.Frontend
