import DataFeed.Frontend.Outbox
import DataFeed.Venue.ManagerStep

/-! # The receivers a manager builds

A live subscription's receiver is a transmitter, which registers its stream with the
outbox as it is built and unregisters it as it is destroyed; a recording's writes a file.
The outbox is shared with the other venues and with the clients, so a manager takes its
steps beside theirs.
-/

namespace DataFeed.Venue

open Foundation L2 Net DataFeed.Core Frontend

/-- Builds a subscription's receiver, or throws: a transmitter, or a file writer that
`opens` its file. -/
def makeReceiver (sink : Sink) (venue : String) (opens : Except String Unit) (streams : Streams)
    (id : SubscriptionId) (book : BookSpec) (precision : PairPrecision) :
    Except String Streams :=
  match sink with
  | .live => streams.transmitter id venue book precision
  | .record => opens.map fun _ => streams

/-- A manager with the streams its live subscriptions feed. -/
structure Station (Decoder : Type) where
  manager : L2Manager Decoder
  streams : Streams
  /-- The receivers that are transmitters. -/
  transmitters : ReceiverId → Bool

namespace Station

variable {Decoder : Type} (adapter : Adapter Decoder) (station : Station Decoder)

/-- A manager that has just been built. -/
def init : Station Decoder := ⟨.init adapter, .empty, fun _ => false⟩

/-- Destroys a subscription's receiver. -/
def destroy (id : SubscriptionId) (receiver : ReceiverId) : Streams :=
  if station.transmitters receiver then station.streams.destroy id else station.streams

/-- What the next step of the lock's holder does to the receivers. A receiver's factory is
for one sink, and answers what the request says it will. -/
def receivers (sink : Sink) : Section → Option (Streams × (ReceiverId → Bool))
  | .resolveAgain request precision =>
      match L2Manager.resolveTaken station.manager.subscriptions request.id request.book with
      | some _ => some (station.streams, station.transmitters)
      | none =>
          match makeReceiver sink adapter.name (request.makeReceiver precision) station.streams
              request.id request.book precision, request.makeReceiver precision with
          | .ok streams, .ok () =>
              some (streams,
                Function.update station.transmitters station.manager.nextReceiver (sink = .live))
          | .error what, .error answered =>
              if what = answered then some (station.streams, station.transmitters) else none
          | _, _ => none
  | .attach request precision receiver =>
      match station.manager.parser.attach request.book.symbol precision request.book.depth
          receiver with
      | .error _ => some (station.destroy request.id receiver, station.transmitters)
      | .ok _ => some (station.streams, station.transmitters)
  | .erase id =>
      match station.manager.subscriptions.find? id with
      | some subscription => some (station.destroy id subscription.receiver, station.transmitters)
      | none => some (station.streams, station.transmitters)
  | _ => some (station.streams, station.transmitters)

/-- What others do to the streams: the other venues' managers, and the clients. -/
inductive Elsewhere where
  | transmitter (id : SubscriptionId) (venue : String) (book : BookSpec)
      (precision : PairPrecision)
  | destroy (id : SubscriptionId)
  | call (stream : StreamRef) (made : Stream.Call)

namespace Elsewhere

/-- What it does. -/
def apply (streams : Streams) : Elsewhere → Streams
  | .transmitter id venue book precision =>
      match streams.transmitter id venue book precision with
      | .ok next => next
      | .error _ => streams
  | .destroy id => streams.destroy id
  | .call stream made => streams.call stream made

/-- It registers or unregisters a stream under the id. -/
def Concerns (id : SubscriptionId) : Elsewhere → Prop
  | .transmitter other _ _ _ => other = id
  | .destroy other => other = id
  | .call _ _ => False

end Elsewhere

/-- Who takes a step. -/
inductive Action where
  /-- The manager, with the sink that a receiver built in this step is for. -/
  | manager (action : L2Manager.Action) (sink : Sink)
  | elsewhere (change : Elsewhere)

/-- What a step does, if it is possible. -/
def step : Action → Option (Station Decoder)
  | .elsewhere change => some { station with streams := change.apply station.streams }
  | .manager .run sink =>
      match station.manager.lock with
      | none => none
      | some (_, current) =>
          (L2Manager.step adapter station.manager .run).bind fun manager =>
            (station.receivers adapter sink current).map fun built =>
              ⟨manager, built.1, built.2⟩
  | .manager action _ =>
      (L2Manager.step adapter station.manager action).map fun manager =>
        { station with manager := manager }

/-- A manager, its receivers, and all that goes on beside them. -/
def system : System (Station Decoder) Action where
  init := init adapter
  step := step adapter

/-- Which pairs are routed, at which precision and depth, and to whom. -/
def routing (parser : L2Parser) : OrderedMap String (PairPrecision × ReceiverId × UInt32) (· < ·) :=
  parser.routes.mapValues fun route => (route.precision, route.receiver, route.book.depth)

/-- What a subscription changes: the table, the routes, and the requests handed to the
feed. -/
structure Same (before after : Station Decoder) : Prop where
  table : after.manager.subscriptions = before.manager.subscriptions
  routing : routing after.manager.parser = routing before.manager.parser
  requests : after.manager.pipeline.feed.connection = before.manager.pipeline.feed.connection

/-- A route that is replaced by one like it. -/
theorem routing_setRoute {parser : L2Parser} {symbol : String} {route other : Route}
    (routed : parser.routes.find? symbol = some route)
    (like : (other.precision, other.receiver, other.book.depth) =
      (route.precision, route.receiver, route.book.depth)) :
    routing (parser.setRoute symbol other) = routing parser := by
  apply OrderedMap.ext_find?
  intro query
  unfold routing
  rw [OrderedMap.find?_mapValues, OrderedMap.find?_mapValues, L2Parser.find?_setRoute]
  by_cases same : query = symbol
  · rw [if_pos same, same, routed, Option.map_some, Option.map_some, like]
  · rw [if_neg same]

/-- A book change moves no route. -/
theorem routing_emit (parser : L2Parser) (message : Message) :
    routing (parser.emit message).1 = routing parser := by
  obtain ⟨_, emitted⟩ | ⟨route, found, _, emitted⟩ | ⟨route, found, _, emitted⟩ :=
    parser.emit_cases message
  · rw [emitted]
  · rw [emitted]
    exact routing_setRoute (L2Parser.findRoute_eq_some_iff.mp found).1 rfl
  · rw [emitted]
    refine routing_setRoute (L2Parser.findRoute_eq_some_iff.mp found).1 ?_
    unfold L2Parser.deliveredRoute
    split
    · simp only [Book.depth_apply]
    · rfl

variable {adapter station} {next : Station Decoder}

/-- **Only the holder of the lock changes a subscription.** Any other step of a manager
leaves the table, the routes, the requests and the streams as they are. -/
theorem step_beside {action : L2Manager.Action} {sink : Sink}
    (stepped : station.step adapter (.manager action sink) = some next)
    (run : action ≠ .run) (refuse : ∀ what, action ≠ .refuse what) :
    Same station next ∧ next.streams = station.streams ∧
      next.transmitters = station.transmitters := by
  cases action with
  | run => exact (run rfl).elim
  | refuse what => exact (refuse what rfl).elim
  | invoke call operation =>
      obtain ⟨manager, moved, rfl⟩ := Option.map_eq_some_iff.mp stepped
      simp only [L2Manager.step] at moved
      split at moved
      · contradiction
      · obtain rfl := Option.some.inj moved
        exact ⟨⟨rfl, rfl, rfl⟩, rfl, rfl⟩
  | acquire holder =>
      obtain ⟨manager, moved, rfl⟩ := Option.map_eq_some_iff.mp stepped
      cases holder <;>
      · simp only [L2Manager.step] at moved
        split at moved
        · obtain rfl := Option.some.inj moved
          exact ⟨⟨rfl, rfl, rfl⟩, rfl, rfl⟩
        · contradiction
  | fetch call | respond call =>
      obtain ⟨manager, moved, rfl⟩ := Option.map_eq_some_iff.mp stepped
      simp only [L2Manager.step] at moved
      split at moved
      · obtain rfl := Option.some.inj moved
        exact ⟨⟨rfl, rfl, rfl⟩, rfl, rfl⟩
      · contradiction
  | network step =>
      obtain ⟨manager, moved, rfl⟩ := Option.map_eq_some_iff.mp stepped
      obtain ⟨pipeline, taken, rfl⟩ := Option.map_eq_some_iff.mp moved
      obtain ⟨_, _, _, _, rfl, _⟩ := L2Manager.networkStep_cases taken
      exact ⟨⟨rfl, rfl, rfl⟩, rfl, rfl⟩
  | parse =>
      obtain ⟨manager, moved, rfl⟩ := Option.map_eq_some_iff.mp stepped
      cases L2Manager.parserStep_cases moved with
      | emit message rest _ => exact ⟨⟨rfl, routing_emit _ message, rfl⟩, rfl, rfl⟩
      | decode | exit | find | done | fail => exact ⟨⟨rfl, rfl, rfl⟩, rfl, rfl⟩
  | resubscribe =>
      obtain ⟨manager, moved, rfl⟩ := Option.map_eq_some_iff.mp stepped
      obtain ⟨resubscriber, _, rfl⟩ := Option.map_eq_some_iff.mp moved
      exact ⟨⟨rfl, rfl, rfl⟩, rfl, rfl⟩
  | tick elapsed =>
      obtain rfl := Option.some.inj stepped
      exact ⟨⟨rfl, rfl, rfl⟩, rfl, rfl⟩

theorem step_beside_manager {action : L2Manager.Action} {sink : Sink}
    (stepped : station.step adapter (.manager action sink) = some next) (run : action ≠ .run) :
    L2Manager.step adapter station.manager action = some next.manager := by
  cases action with
  | run => exact (run rfl).elim
  | tick elapsed =>
      obtain rfl := Option.some.inj stepped
      rfl
  | _ =>
      obtain ⟨manager, moved, rfl⟩ := Option.map_eq_some_iff.mp stepped
      exact moved

/-- Outside of a Subscribe that makes its receiver, a manager's step is one of the station. -/
theorem step_of_manager {action : L2Manager.Action} {sink : Sink} {manager : L2Manager Decoder}
    (apart : ∀ holder request precision,
      station.manager.lock ≠ some (holder, .resolveAgain request precision))
    (stepped : L2Manager.step adapter station.manager action = some manager) :
    ∃ next, station.step adapter (.manager action sink) = some next ∧ next.manager = manager := by
  cases action with
  | run =>
      cases lock : station.manager.lock with
      | none =>
          simp only [L2Manager.step, lock] at stepped
          contradiction
      | some held =>
          obtain ⟨holder, current⟩ := held
          have builds : ∃ built, station.receivers adapter sink current = some built := by
            cases current with
            | resolveAgain request precision => exact (apart holder request precision lock).elim
            | attach | erase =>
                simp only [receivers]
                split <;> exact ⟨_, rfl⟩
            | _ => exact ⟨_, rfl⟩
          obtain ⟨built, builds⟩ := builds
          refine ⟨⟨manager, built.1, built.2⟩, ?_, rfl⟩
          simp only [step, lock, stepped, builds, Option.bind_some, Option.map_some]
  | _ =>
      refine ⟨{ station with manager := manager }, ?_, rfl⟩
      simp only [step, stepped, Option.map_some]

/-- A step of a station is one of its manager's, or leaves that alone. -/
theorem step_manager {action : Action} (stepped : station.step adapter action = some next) :
    next.manager = station.manager ∨
      ∃ act, L2Manager.step adapter station.manager act = some next.manager := by
  cases action with
  | elsewhere change =>
      obtain rfl := Option.some.inj stepped
      exact .inl rfl
  | manager act sink =>
      cases act with
      | run =>
          simp only [step] at stepped
          split at stepped
          · contradiction
          · obtain ⟨manager, moved, rest⟩ := Option.bind_eq_some_iff.mp stepped
            obtain ⟨built, _, rfl⟩ := Option.map_eq_some_iff.mp rest
            exact .inr ⟨_, moved⟩
      | _ => exact .inr ⟨_, step_beside_manager stepped L2Manager.Action.noConfusion⟩

theorem reachable_manager (reachable : (system adapter).Reachable station) :
    (L2Manager.system adapter).Reachable station.manager := by
  have every : ∀ state action next, (L2Manager.system adapter).Reachable state.manager →
      step adapter state action = some next →
        (L2Manager.system adapter).Reachable next.manager := by
    intro state action next before stepped
    obtain same | ⟨act, moved⟩ := step_manager stepped
    · exact same ▸ before
    · exact before.step moved
  apply reachable.invariant
  · exact .init
  · exact every

end Station

end DataFeed.Venue
