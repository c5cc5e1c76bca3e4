import DataFeed.Frontend.Commands
import DataFeed.Frontend.Watching

/-! # The server and its connections

One network thread runs every handler of every connection, each connection's commands run
on its strand, and transmitters call their streams meanwhile. What is outstanding on the
network thread (a handshake, a read, a write, a timer, something that was sent) keeps it,
and the connection it is for, alive. The destructor takes both down in stages. A handler
that has completed just before its connection was dropped still runs as if nothing had
happened, so how an operation ends is part of the step, whatever became of the connection.
-/

namespace DataFeed.Frontend

open Foundation L2 Venue DataFeed.Core Watching

namespace Server

/-- How accepting a connection ends. -/
inductive Accepted where
  | aborted
  | failed
  | connected
  deriving DecidableEq, Repr

/-- A task that a command strand has begun. -/
inductive Work where
  | running (task : Task)
  /-- Has sent a command's result, and has yet to count it as done. -/
  | sent
  deriving DecidableEq, Repr

/-- How far the destructor is. -/
inductive Stage where
  /-- It has not begun. -/
  | serving
  /-- The network thread is to drop every connection, and to end when it is out of work. -/
  | stopping
  | dropped
  /-- The network thread has ended. -/
  | joined
  /-- The command strands have ended; what they sent since is dropped. -/
  | draining
  | gone
  deriving DecidableEq, Repr

/-- Handlers of the network thread's context run. -/
def Stage.networking : Stage → Bool
  | .serving | .stopping | .dropped | .draining => true
  | .joined | .gone => false

/-- A connection, with what is outstanding for it. -/
structure Peer where
  /-- Its queue, with the writes in flight and the heartbeat's timer. -/
  session : Session
  handshaking : Bool
  reading : Bool
  /-- What was sent and has not reached the network thread. -/
  posted : List Payload
  /-- The counter of commands read and not answered. -/
  pending : Int
  /-- What its command strand is at. -/
  current : Option Work

namespace Peer

/-- No connection yet. -/
def unused : Peer := ⟨.new 0, false, false, [], 0, none⟩

/-- A connection that has just been accepted: its handshake begins. -/
def accepted (now : Nat) : Peer := { unused with session := .new now, handshaking := true }

variable (peer : Peer)

/-- Drops the connection. -/
def close : Peer := { peer with session := peer.session.close.1 }

/-- The handler of the handshake: reading begins, and the heartbeat. -/
def begun (failed : Bool) : Peer :=
  let handled := { peer with handshaking := false, session := (peer.session.begun failed).1 }
  if failed || peer.session.closed then handled else { handled with reading := true }

/-- The handler of a read, with the task that goes to the command strand. -/
def read (task : Option Task) : Peer × Option Task :=
  let ended := { peer with reading := false }
  if task.isNone || peer.session.closed then (ended.close, none)
  else if peer.pending ≥ maxPendingCommands then (ended.close, none)
  else ({ peer with pending := peer.pending + 1 }, task)

/-- The network thread takes what was sent and queues it. -/
def deliver (now : Clock) : Option Peer :=
  match peer.posted with
  | [] => none
  | payload :: rest =>
      some { peer with posted := rest, session := (peer.session.enqueue payload now).1 }

/-- A write ends, or the heartbeat's timer. -/
def socket : Session.Handler → Option Peer
  | .wrote failed now =>
      (peer.session.handle (.wrote failed now)).map fun next => { peer with session := next.1 }
  | .heartbeat failed now =>
      (peer.session.handle (.heartbeat failed now)).map fun next => { peer with session := next.1 }
  | .enqueue _ _ | .begun _ | .close => none

/-- The network thread has nothing to do for the connection. -/
def Quiet : Prop :=
  peer.handshaking = false ∧ peer.reading = false ∧ peer.session.writing = [] ∧
    peer.session.armed = false ∧ peer.posted = []

instance : Decidable peer.Quiet := inferInstanceAs (Decidable (_ ∧ _))

/-- The command strand has nothing to do. -/
def Rests (client : Viewer) : Prop :=
  client.tasks = [] ∧ client.phase = .idle ∧ peer.current = none

instance (client : Viewer) : Decidable (peer.Rests client) := inferInstanceAs (Decidable (_ ∧ _))

end Peer

end Server

/-- What a call on a stream sends. -/
def Streams.sendings (streams : Streams) (stream : StreamRef) (made : Stream.Call) :
    List Sending :=
  (streams.heap[stream]?.map fun called => (called.call made).2).getD []

open Server

/-- The server, its connections and the streams they watch. -/
structure Server where
  audience : Audience
  peers : WatcherId → Peer
  /-- How many connections were accepted so far. -/
  accepted : Nat
  /-- The connections that the server holds. -/
  sessions : List WatcherId
  /-- The acceptor is open. -/
  listening : Bool
  accepting : Bool
  /-- Waits before it accepts again. -/
  retrying : Bool
  stage : Stage
  /-- How much transmitters have sent so far. -/
  streamed : Nat

namespace Server

/-- A server that has just been built. -/
def init : Server := ⟨.init, fun _ => .unused, 0, [], true, true, false, .serving, 0⟩

variable (server : Server)

/-- A handler has run for a connection, which may have dropped it: then it is forgotten
behind any command still queued. -/
def ran (session : WatcherId) (peer : Peer) : Server :=
  { server with
    peers := Function.update server.peers session peer
    audience := server.audience.update session
      (if peer.session.closed then (server.audience.clients session).close
        else server.audience.clients session) }

/-- Drops a connection. -/
def closeSession (session : WatcherId) : Server :=
  server.ran session (server.peers session).close

/-- What was sent goes to the network thread. -/
def send (sendings : List Sending) : Server :=
  { server with peers := fun session =>
      { server.peers session with
        posted := (server.peers session).posted ++
          (sendings.filter fun sending => sending.1 = session).map Prod.snd } }

/-- A transmitter calls its stream. -/
def transmit (id : SubscriptionId) (made : Stream.Call) : Option Server :=
  (server.audience.streams.outbox.find? id).map fun stream =>
    let sent := server.audience.streams.sendings stream made
    { server.send sent with
      audience := { server.audience with
        streams := server.audience.streams.call stream made }
      streamed := server.streamed + sent.length }

/-- The handler of an accept. One may have completed just before the acceptor was closed. -/
def accept (result : Accepted) (now : Nat) : Server :=
  if result = .aborted || !server.listening then { server with accepting := false }
  else if result = .failed then { server with accepting := false, retrying := true }
  else
    { server with
      peers := Function.update server.peers server.accepted (.accepted now)
      accepted := server.accepted + 1
      sessions := server.sessions ++ [server.accepted] }

/-- The handler of the wait after a failed accept. -/
def retry (failed : Bool) : Server :=
  if !failed && server.listening then { server with retrying := false, accepting := true }
  else { server with retrying := false }

/-- The handler of a read. -/
def read (session : WatcherId) (task : Option Task) : Server :=
  let handled := (server.peers session).read task
  match handled.2 with
  | none => server.ran session handled.1
  | some task =>
      { server with
        peers := Function.update server.peers session handled.1
        audience := server.audience.update session
          ((server.audience.clients session).read task) }

/-- A command strand takes the next task. -/
def begin (session : WatcherId) : Option Server :=
  if (server.peers session).current = none then
    ((server.audience.clients session).begin).map fun client =>
      { server with
        audience := server.audience.update session client
        peers := Function.update server.peers session
          { server.peers session with
            current := ((server.audience.clients session).tasks.head?).map .running } }
  else none

/-- What a command strand's next step sends: what a new watcher is told. -/
def opening (session : WatcherId) : List Sending :=
  match (server.audience.clients session).phase with
  | .add _ stream => server.audience.streams.sendings stream (.watch session)
  | _ => []

/-- A command strand takes its next step within a command. -/
def advance (session : WatcherId) : Option Server :=
  (server.audience.advance session).map fun audience =>
    { server.send (server.opening session) with audience := audience }

/-- A command strand is through with a command and sends its result, or with forgetting its
connection and lets it go. -/
def conclude (session : WatcherId) (requestId : UInt64) : Option Server :=
  match (server.audience.clients session).phase, (server.peers session).current with
  | .idle, some (.running .forget) =>
      some { server with
        sessions := server.sessions.filter (· ≠ session)
        peers := Function.update server.peers session
          { server.peers session with current := none } }
  | .idle, some (.running _) =>
      some { server with
        peers := Function.update server.peers session
          { server.peers session with
            current := some .sent
            posted := (server.peers session).posted ++ [.result requestId] } }
  | _, _ => none

/-- A command strand counts a command as done. -/
def commandDone (session : WatcherId) : Option Server :=
  match (server.peers session).current with
  | some .sent =>
      some { server with
        peers := Function.update server.peers session
          { server.peers session with
            current := none
            pending := (server.peers session).pending - 1 } }
  | _ => none

/-- The network thread is out of work. -/
def NetworkDone : Prop :=
  server.accepting = false ∧ server.retrying = false ∧
    ∀ session < server.accepted, (server.peers session).Quiet

/-- The command strands are out of work. -/
def CommandsDone : Prop :=
  ∀ session < server.accepted, (server.peers session).Rests (server.audience.clients session)

instance : Decidable server.NetworkDone := inferInstanceAs (Decidable (_ ∧ _))

instance : Decidable server.CommandsDone :=
  inferInstanceAs (Decidable (∀ session < server.accepted, _))

/-- What happens on one of the threads. -/
inductive Action where
  | transmitter (id : SubscriptionId) (venue : String) (book : BookSpec)
      (precision : PairPrecision)
  | destroy (id : SubscriptionId)
  /-- A transmitter passes a message on. -/
  | receive (id : SubscriptionId) (message : Message)
  /-- A transmitter passes a gap on. -/
  | interrupt (id : SubscriptionId) (gap : Gap)
  /-- An accept ends. -/
  | accept (result : Accepted) (now : Nat)
  /-- The wait after a failed accept ends. -/
  | retry (failed : Bool)
  /-- A handshake ends. -/
  | handshake (session : WatcherId) (failed : Bool)
  /-- A read ends, with a frame or without. -/
  | read (session : WatcherId) (task : Option Task)
  | socket (session : WatcherId) (handler : Session.Handler)
  | deliver (session : WatcherId) (now : Clock)
  | begin (session : WatcherId)
  | advance (session : WatcherId)
  | refuse (session : WatcherId)
  | conclude (session : WatcherId) (requestId : UInt64)
  | commandDone (session : WatcherId)
  /-- The destructor begins. -/
  | stop
  /-- The network thread drops every connection. -/
  | drop
  | joinNetwork
  | joinCommands
  /-- The destructor is through. -/
  | finish
  deriving DecidableEq, Repr

/-- The network thread's context runs a handler, if it is outstanding. -/
def network (outstanding : Bool) (handled : Server) : Option Server :=
  if server.stage.networking && outstanding then some handled else none

/-- What a step does, if it is possible. A client sends no order to forget it. -/
def step : Action → Option Server
  | .transmitter id venue book precision =>
      (server.audience.step (.transmitter id venue book precision)).map fun audience =>
        { server with audience := audience }
  | .destroy id =>
      some { server with audience :=
        { server.audience with streams := server.audience.streams.destroy id } }
  | .receive id message => server.transmit id (.receive message)
  | .interrupt id gap => server.transmit id (.interrupt gap)
  | .accept result now => server.network server.accepting (server.accept result now)
  | .retry failed => server.network server.retrying (server.retry failed)
  | .handshake session failed =>
      server.network (server.peers session).handshaking
        (server.ran session ((server.peers session).begun failed))
  | .read session task =>
      if task = some .forget then none
      else server.network (server.peers session).reading (server.read session task)
  | .socket session handler =>
      ((server.peers session).socket handler).bind fun peer =>
        server.network true (server.ran session peer)
  | .deliver session now =>
      ((server.peers session).deliver now).bind fun peer =>
        server.network true (server.ran session peer)
  | .begin session => server.begin session
  | .advance session => server.advance session
  | .refuse session =>
      ((server.audience.clients session).refuse).map fun client =>
        { server with audience := server.audience.update session client }
  | .conclude session requestId => server.conclude session requestId
  | .commandDone session => server.commandDone session
  | .stop => if server.stage = .serving then some { server with stage := .stopping } else none
  | .drop =>
      if server.stage = .stopping then
        some (server.sessions.foldl closeSession
          { server with listening := false, stage := .dropped })
      else none
  | .joinNetwork =>
      if server.stage = .dropped ∧ server.NetworkDone then
        some { server with stage := .joined }
      else none
  | .joinCommands =>
      if server.stage = .joined ∧ server.CommandsDone then
        some { server with stage := .draining }
      else none
  | .finish =>
      if server.stage = .draining ∧ server.NetworkDone then some { server with stage := .gone }
      else none

/-- A server, with every order of the threads' steps. -/
def system : System Server Action := ⟨init, step⟩

end Server

end DataFeed.Frontend
