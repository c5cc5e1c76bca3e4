import Mathlib.Logic.Function.Basic
import DataFeed.Foundation.Transition
import DataFeed.Frontend.Outbox

/-! # What the clients watch

Each client's commands run in order on its own strand, beside the other clients' and
beside transmitters that come and go. Looking a stream up, calling it and noting what
is watched are separate steps, each under its own lock or none.
-/

namespace DataFeed.Frontend

open Foundation L2 Venue DataFeed.Core

namespace Watching

/-- What a command strand runs. -/
inductive Task where
  | watch (id : SubscriptionId)
  | unwatch
  /-- A command that changes nothing that is watched, or a frame that is none. -/
  | other
  /-- What a connection that is gone leaves behind. -/
  | forget
  deriving DecidableEq, Repr

/-- Where a command strand stands. -/
inductive Phase where
  /-- Between two commands. -/
  | idle
  | other
  /-- The outbox is to find the stream to watch. -/
  | watch (id : SubscriptionId)
  /-- The session is to be added to the stream that was found. -/
  | add (id : SubscriptionId) (stream : StreamRef)
  /-- None was found. -/
  | refuse (id : SubscriptionId)
  /-- The session was added, and may be watching another one. -/
  | watched (id : SubscriptionId)
  /-- The outbox is to find the stream to unwatch, on the way of a watch or not. -/
  | unwatch (id : SubscriptionId) (within : Option SubscriptionId)
  /-- The session is to be taken off the stream that was found. -/
  | remove (id : SubscriptionId) (stream : StreamRef) (within : Option SubscriptionId)
  | assign (id : SubscriptionId)
  deriving DecidableEq, Repr

/-- A client's connection. -/
structure Viewer where
  /-- The live subscription the client watches, 0 for none. -/
  watchedId : SubscriptionId
  closed : Bool
  /-- What was posted to the command strand and has not begun. -/
  tasks : List Task
  phase : Phase
  deriving DecidableEq, Repr

namespace Viewer

/-- A connection that has just been accepted. -/
def new : Viewer := ⟨0, false, [], .idle⟩

variable (client : Viewer)

/-- The handler of a read. A read that completed just before the connection was dropped
still runs, and posts nothing. -/
def read (task : Task) : Viewer :=
  if client.closed then client else { client with tasks := client.tasks ++ [task] }

/-- Drops the connection, which is forgotten behind any command still queued. -/
def close : Viewer :=
  if client.closed then client
  else { client with closed := true, tasks := client.tasks ++ [.forget] }

/-- Stops watching, if anything is watched. -/
def unwatch : Viewer :=
  if client.watchedId ≠ 0 then
    { client with watchedId := 0, phase := .unwatch client.watchedId none }
  else { client with phase := .idle }

/-- Starts a task. -/
def start : Task → Viewer
  | .watch id => { client with phase := .watch id }
  | .unwatch => client.unwatch
  | .other => { client with phase := .other }
  | .forget => client.unwatch

/-- The strand takes the next task. -/
def begin : Option Viewer :=
  match client.phase, client.tasks with
  | .idle, task :: rest => some (start { client with tasks := rest } task)
  | _, _ => none

/-- What follows when a stream has been unwatched. -/
def afterUnwatch : Option SubscriptionId → Viewer
  | none => { client with phase := .idle }
  | some id => { client with phase := .assign id }

/-- The strand's next step within a command, but for its failing. -/
def advance (find : SubscriptionId → Option StreamRef) : Option Viewer :=
  match client.phase with
  | .idle | .refuse _ => none
  | .other => some { client with phase := .idle }
  | .watch id =>
      match find id with
      | some stream => some { client with phase := .add id stream }
      | none => some { client with phase := .refuse id }
  | .add id _ => some { client with phase := .watched id }
  | .watched id =>
      if client.watchedId ≠ 0 ∧ client.watchedId ≠ id then
        some { client with phase := .unwatch client.watchedId (some id) }
      else some { client with phase := .assign id }
  | .unwatch id within =>
      match find id with
      | some stream => some { client with phase := .remove id stream within }
      | none => some (client.afterUnwatch within)
  | .remove _ _ within => some (client.afterUnwatch within)
  | .assign id => some { client with watchedId := id, phase := .idle }

/-- What that step does to the streams. -/
def touch (session : WatcherId) (streams : Streams) : Streams :=
  match client.phase with
  | .add _ stream => streams.call stream (.watch session)
  | .remove _ stream _ => streams.call stream (.unwatch session)
  | _ => streams

/-- A watch fails: no live subscription has the id. -/
def refuse : Option Viewer :=
  match client.phase with
  | .refuse _ => some { client with phase := .idle }
  | _ => none

end Viewer

end Watching

open Watching

/-- The clients and the streams they share. -/
structure Audience where
  streams : Streams
  clients : WatcherId → Viewer

namespace Audience

/-- Nothing is streamed and nobody has sent a command. -/
def init : Audience := ⟨.empty, fun _ => .new⟩

variable (audience : Audience)

/-- A client's strand or network thread does something to its connection. -/
def update (session : WatcherId) (client : Viewer) : Audience :=
  { audience with clients := Function.update audience.clients session client }

/-- A command strand takes its next step within a command. -/
def advance (session : WatcherId) : Option Audience :=
  ((audience.clients session).advance audience.streams.outbox.find?).map fun client =>
    { audience.update session client with
      streams := (audience.clients session).touch session audience.streams }

/-- What happens on one of the threads. -/
inductive Action where
  | transmitter (id : SubscriptionId) (venue : String) (book : BookSpec)
      (precision : PairPrecision)
  | destroy (id : SubscriptionId)
  /-- A transmitter passes a message on. -/
  | receive (stream : StreamRef) (message : Message)
  /-- A transmitter passes a gap on. -/
  | interrupt (stream : StreamRef) (gap : Gap)
  | read (session : WatcherId) (task : Task)
  | close (session : WatcherId)
  | begin (session : WatcherId)
  | advance (session : WatcherId)
  | refuse (session : WatcherId)
  deriving DecidableEq, Repr

/-- A step, if it is possible. No two subscriptions have one id, and none has the id 0; a
client sends no order to forget it. -/
def step : Action → Option Audience
  | .transmitter id venue book precision =>
      if id = 0 ∨ ∃ stream ∈ audience.streams.heap, stream.id = id then none
      else
        match audience.streams.transmitter id venue book precision with
        | .ok streams => some { audience with streams := streams }
        | .error _ => some audience
  | .destroy id => some { audience with streams := audience.streams.destroy id }
  | .receive stream message =>
      some { audience with streams := audience.streams.call stream (.receive message) }
  | .interrupt stream gap =>
      some { audience with streams := audience.streams.call stream (.interrupt gap) }
  | .read session task =>
      if task = .forget then none
      else some (audience.update session ((audience.clients session).read task))
  | .close session => some (audience.update session (audience.clients session).close)
  | .begin session => (audience.clients session).begin.map (audience.update session)
  | .advance session => audience.advance session
  | .refuse session => (audience.clients session).refuse.map (audience.update session)

/-- Any number of clients, and transmitters under ids that are never used again. -/
def system : System Audience Action := ⟨init, step⟩

end Audience

end DataFeed.Frontend
