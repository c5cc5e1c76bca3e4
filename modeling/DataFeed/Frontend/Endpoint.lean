import DataFeed.Foundation.Simulation
import DataFeed.Frontend.ServerSound

/-! # One connection, by itself and in the server

A connection's handlers are modelled by themselves, with the frames that are read and their
answers (`Connection`), and in the server, with what is outstanding on the network thread and
the streams that are watched (`Server.Peer`). An endpoint has what the two share: the session,
what was sent and has not reached the network thread, and how many commands are queued and
under way. Both show as endpoints, step by step, so what holds of every endpoint holds of a
connection by itself and of each of the server's.
-/

namespace DataFeed.Frontend

open Foundation L2 Venue DataFeed.Core Watching

namespace Session

/-- The session of a connection that was accepted some time ago. -/
def Opened (session : Session) : Prop :=
  ∃ opened log, (system opened).Reachable (session, log)

/-- A new session is one of a connection just accepted. -/
theorem Opened.new (now : Nat) : (new now).Opened := ⟨now, [], .init⟩

/-- A handler leaves the session one of a connection accepted some time ago. -/
theorem Opened.handle {session : Session} (opened : session.Opened) {handler : Handler}
    {next : Session × List SessionEvent} (handled : session.handle handler = some next) :
    next.1.Opened := by
  obtain ⟨time, log, reachable⟩ := opened
  have stepped : (system time).step (session, log) handler = some (next.1, log ++ next.2) :=
    Option.map_eq_some_iff.mpr ⟨next, handled, rfl⟩
  exact ⟨time, log ++ next.2, reachable.step stepped⟩

end Session

/-- What a command strand is doing with commands. -/
inductive Busy where
  | idle
  | running
  /-- Has sent an answer, and has yet to count it as done. -/
  | sent
  deriving DecidableEq, Repr

/-- What a connection is to the network thread and to its command strand. -/
structure Endpoint where
  accepted : Bool
  session : Session
  /-- What was sent and has not reached the network thread. -/
  posted : List Payload
  /-- The counter of commands read and not answered. -/
  pending : Int
  /-- How many commands were posted to the strand and not begun. -/
  queued : Nat
  busy : Busy

namespace Endpoint

/-- No connection yet. -/
def unused : Endpoint := ⟨false, .new 0, [], 0, 0, .idle⟩

/-- A connection that has just been accepted. -/
def new (now : Nat) : Endpoint := ⟨true, .new now, [], 0, 0, .idle⟩

/-- What happens on one of an endpoint's threads. -/
inductive Move where
  | accept (now : Nat)
  /-- A frame is read. -/
  | read
  | begin
  | reply (requestId : UInt64)
  | commandDone
  | send (payload : Payload)
  | deliver (now : Clock)
  /-- Another handler of the network thread. -/
  | handle (handler : Session.Handler)

variable (endpoint : Endpoint)

def read : Endpoint :=
  if endpoint.session.closed || endpoint.pending ≥ maxPendingCommands then
    { endpoint with session := endpoint.session.close.1 }
  else { endpoint with pending := endpoint.pending + 1, queued := endpoint.queued + 1 }

def begin : Option Endpoint :=
  match endpoint.busy, endpoint.queued with
  | .idle, queued + 1 => some { endpoint with busy := .running, queued := queued }
  | _, _ => none

def reply (requestId : UInt64) : Option Endpoint :=
  match endpoint.busy with
  | .running =>
      some { endpoint with
        busy := .sent
        posted := endpoint.posted ++ [.result requestId] }
  | .idle | .sent => none

def commandDone : Option Endpoint :=
  match endpoint.busy with
  | .sent => some { endpoint with busy := .idle, pending := endpoint.pending - 1 }
  | .idle | .running => none

def deliver (now : Clock) : Option Endpoint :=
  match endpoint.posted with
  | [] => none
  | payload :: rest =>
      some { endpoint with posted := rest, session := (endpoint.session.enqueue payload now).1 }

/-- What a move does, if it is possible. -/
def step : Move → Option Endpoint
  | .accept now => if endpoint.accepted then none else some (new now)
  | .read => some endpoint.read
  | .begin => endpoint.begin
  | .reply requestId => endpoint.reply requestId
  | .commandDone => endpoint.commandDone
  | .send payload => some { endpoint with posted := endpoint.posted ++ [payload] }
  | .deliver now => endpoint.deliver now
  | .handle (.enqueue _ _) => none
  | .handle handler =>
      (endpoint.session.handle handler).map fun next => { endpoint with session := next.1 }

/-- An endpoint, from some state on. -/
def system (start : Endpoint) : System Endpoint Move := ⟨start, step⟩

variable {endpoint} {start next : Endpoint}

/-- A run of one move is its step. -/
theorem runFrom_single {move : Move} (stepped : endpoint.step move = some next) :
    (system start).runFrom endpoint [move] = some next :=
  System.runFrom_single stepped

/-- Payloads that are sent wait in their order. -/
theorem runFrom_sends (payloads : List Payload) :
    (system start).runFrom endpoint (payloads.map .send) =
      some { endpoint with posted := endpoint.posted ++ payloads } := by
  induction payloads generalizing endpoint with
  | nil => simp [System.runFrom]
  | cons payload rest ih =>
      rw [List.map_cons, System.runFrom, show (system start).step endpoint (.send payload) =
        some { endpoint with posted := endpoint.posted ++ [payload] } from rfl, Option.bind_some,
        ih]
      simp

/-- What a move does to the session is what a handler does. -/
theorem opened_step {move : Move} (opened : endpoint.session.Opened)
    (stepped : endpoint.step move = some next) : next.session.Opened := by
  have closed : endpoint.session.close.1.Opened :=
    opened.handle (show endpoint.session.handle .close = some endpoint.session.close from rfl)
  cases move with
  | accept now =>
      simp only [step] at stepped
      split at stepped
      · contradiction
      · obtain rfl := Option.some.inj stepped
        exact .new now
  | read =>
      obtain rfl := Option.some.inj stepped
      unfold read
      split
      · exact closed
      · exact opened
  | begin =>
      simp only [step, begin] at stepped
      split at stepped
      · obtain rfl := Option.some.inj stepped
        exact opened
      · contradiction
  | reply requestId =>
      simp only [step, reply] at stepped
      split at stepped
      · obtain rfl := Option.some.inj stepped
        exact opened
      all_goals contradiction
  | commandDone =>
      simp only [step, commandDone] at stepped
      split at stepped
      · obtain rfl := Option.some.inj stepped
        exact opened
      all_goals contradiction
  | send payload =>
      obtain rfl := Option.some.inj stepped
      exact opened
  | deliver now =>
      simp only [step, deliver] at stepped
      split at stepped
      · contradiction
      · rename_i payload rest _
        obtain rfl := Option.some.inj stepped
        exact opened.handle (show endpoint.session.handle (.enqueue payload now) =
          some (endpoint.session.enqueue payload now) from rfl)
  | handle handler =>
      cases handler with
      | enqueue => contradiction
      | wrote | heartbeat | begun | close =>
          simp only [step] at stepped
          obtain ⟨left, handled, rfl⟩ := Option.map_eq_some_iff.mp stepped
          exact opened.handle handled

/-- **An endpoint's session is one of the sessions that number their payloads.** -/
theorem opened_of_reachable (initial : start.session.Opened)
    (reachable : (system start).Reachable endpoint) : endpoint.session.Opened :=
  reachable.invariant initial fun _ _ _ opened stepped => opened_step opened stepped

end Endpoint

/-! ## A connection by itself -/

namespace Connection

/-- What a strand does with commands. -/
def busyOf : Strand → Busy
  | .idle => .idle
  | .running _ => .running
  | .sent _ => .sent

/-- What the connection is to its threads. -/
def endpoint (connection : Connection) : Endpoint where
  accepted := true
  session := connection.session
  posted := connection.posted.map Post.payload
  pending := connection.pending
  queued := connection.commands.length
  busy := busyOf connection.strand

/-- What a step shows as. -/
def shows (connection : Connection) : Action → List Endpoint.Move
  | .read _ => [.read]
  | .begin => [.begin]
  | .reply _ =>
      match connection.strand with
      | .running frame => [.reply frame.requestId]
      | .idle | .sent _ => []
  | .commandDone => [.commandDone]
  | .send payload => [.send payload]
  | .deliver now => [.deliver now]
  | .handle handler => [.handle handler]

variable {connection next : Connection} {start : Endpoint}

/-- An answer carries the request id of its command. -/
theorem answer_requestId (attempt : Except String Wire.Reply) (frame : ClientFrame) :
    (answer attempt frame).requestId = frame.requestId := by
  cases frame <;> rfl

/-- A frame that is read goes to the end of the endpoint's commands. -/
theorem endpoint_handleRead (connection : Connection) (frame : ClientFrame) :
    (connection.handleRead frame).endpoint = connection.endpoint.read := by
  unfold handleRead Endpoint.read endpoint
  dsimp only
  by_cases closed : connection.session.closed = true
  · simp only [closed, ↓reduceIte, Bool.true_or, Session.close_of_closed closed]
  · by_cases many : connection.pending ≥ maxPendingCommands
    · simp only [closed, many, Bool.false_eq_true, ↓reduceIte, decide_true, Bool.or_true]
    · simp only [closed, many, Bool.false_eq_true, ↓reduceIte, decide_false, Bool.or_self,
        List.length_append, List.length_singleton]

/-- **One step.** A connection's step is the move that it shows as. -/
theorem follows {action : Action} (stepped : connection.step action = some next) :
    (Endpoint.system start).runFrom connection.endpoint (connection.shows action) =
      some next.endpoint := by
  cases action with
  | read frame =>
      obtain rfl := Option.some.inj stepped
      rw [endpoint_handleRead]
      exact Endpoint.runFrom_single rfl
  | begin =>
      simp only [step, begin] at stepped
      split at stepped
      · rename_i frame rest idle queued
        obtain rfl := Option.some.inj stepped
        apply Endpoint.runFrom_single
        simp only [Endpoint.step, Endpoint.begin, endpoint, idle, queued, busyOf, List.length_cons]
      · contradiction
  | reply attempt =>
      simp only [step, reply] at stepped
      split at stepped
      · rename_i frame running
        obtain rfl := Option.some.inj stepped
        rw [shows, running]
        apply Endpoint.runFrom_single
        simp only [Endpoint.step, Endpoint.reply, endpoint, running, busyOf, List.map_append,
          List.map_singleton, Post.payload, answer_requestId]
      all_goals contradiction
  | commandDone =>
      simp only [step, commandDone] at stepped
      split at stepped
      · rename_i frame sent
        obtain rfl := Option.some.inj stepped
        apply Endpoint.runFrom_single
        simp only [Endpoint.step, Endpoint.commandDone, endpoint, sent, busyOf]
      all_goals contradiction
  | send payload =>
      obtain rfl := Option.some.inj stepped
      apply Endpoint.runFrom_single
      simp only [Endpoint.step, endpoint, List.map_append, List.map_singleton, Post.payload]
  | deliver now =>
      simp only [step, deliver] at stepped
      split at stepped
      · contradiction
      · rename_i post rest posted
        obtain rfl := Option.some.inj stepped
        apply Endpoint.runFrom_single
        simp only [Endpoint.step, Endpoint.deliver, endpoint, posted, List.map_cons]
  | handle handler =>
      cases handler with
      | enqueue => contradiction
      | wrote | heartbeat | begun | close =>
          simp only [step] at stepped
          obtain ⟨left, handled, rfl⟩ := Option.map_eq_some_iff.mp stepped
          apply Endpoint.runFrom_single
          simp only [Endpoint.step, endpoint, handled, Option.map_some]

/-- **A connection by itself is an endpoint.** -/
def simulation (opened : Nat) : Simulation (system opened) (Endpoint.system (.new opened)) where
  view := endpoint
  kept _ := True
  shows := shows
  init := rfl
  kept_init := trivial
  kept_step _ _ _ _ _ := trivial
  follows _ _ _ _ stepped := follows stepped

/-- A connection by itself numbers its payloads as its session does. -/
theorem session_opened {opened : Nat} (reachable : (system opened).Reachable connection) :
    connection.session.Opened := by
  obtain ⟨actions, reached⟩ := reachable
  have reachable : (Endpoint.system (.new opened)).Reachable connection.endpoint :=
    ⟨_, (simulation opened).run reached⟩
  exact Endpoint.opened_of_reachable (.new opened) reachable

end Connection

/-! ## A connection in the server -/

namespace Server

/-- What a strand does with commands: forgetting the connection is none. -/
def busyOf : Option Work → Busy
  | none | some (.running .forget) => .idle
  | some (.running _) => .running
  | some .sent => .sent

/-- How many tasks of a strand are commands. -/
def commandsOf (client : Viewer) : Nat := client.tasks.countP (· ≠ .forget)

variable (server : Server) (session : WatcherId)

/-- What one of the server's connections is to its threads. -/
def endpoint : Endpoint where
  accepted := session < server.accepted
  session := (server.peers session).session
  posted := (server.peers session).posted
  pending := (server.peers session).pending
  queued := commandsOf (server.audience.clients session)
  busy := busyOf (server.peers session).current

/-- What is sent to the connection. -/
def sends (sent : List Sending) : List Endpoint.Move :=
  ((sent.filter fun sending => sending.1 = session).map Prod.snd).map .send

/-- What a transmitter's call sends. -/
def transmitted (id : SubscriptionId) (made : Stream.Call) : List Sending :=
  ((server.audience.streams.outbox.find? id).map fun stream =>
    server.audience.streams.sendings stream made).getD []

/-- What a step of the connection's own shows as. -/
def ownShows : Action → List Endpoint.Move
  | .handshake _ failed => [.handle (.begun failed)]
  | .read _ none => [.handle .close]
  | .read _ (some _) => [.read]
  | .socket _ handler => [.handle handler]
  | .deliver _ now => [.deliver now]
  | .begin _ =>
      if (server.audience.clients session).tasks.head? = some .forget then [] else [.begin]
  | .advance _ => sends session (server.opening session)
  | .conclude _ requestId =>
      if (server.peers session).current = some (.running .forget) then [] else [.reply requestId]
  | .commandDone _ => [.commandDone]
  | _ => []

/-- What a step that is no connection's own shows as. -/
def sharedShows : Action → List Endpoint.Move
  | .receive id message => sends session (server.transmitted id (.receive message))
  | .interrupt id gap => sends session (server.transmitted id (.interrupt gap))
  | .accept result now =>
      if result = .connected ∧ server.listening = true ∧ session = server.accepted then
        [.accept now]
      else []
  | .drop => if session ∈ server.sessions then [.handle .close] else []
  | _ => []

/-- What a step shows as. -/
def shows (action : Action) : List Endpoint.Move :=
  match action.session? with
  | some other => if other = session then server.ownShows session action else []
  | none => server.sharedShows session action

variable {server session} {next : Server} {start : Endpoint}

/-- What others do does not show. -/
theorem endpoint_congr (accepted : next.accepted = server.accepted)
    (peer : next.peers session = server.peers session)
    (tasks : (next.audience.clients session).tasks = (server.audience.clients session).tasks) :
    next.endpoint session = server.endpoint session := by
  simp only [endpoint, accepted, peer, commandsOf, tasks]

/-- Closing a session leaves the commands it holds. -/
theorem commandsOf_close (client : Viewer) : commandsOf client.close = commandsOf client := by
  unfold Viewer.close commandsOf
  split
  · rfl
  · simp

/-- A handler of the network thread has run. -/
theorem endpoint_ran {peer : Peer} (current : peer.current = (server.peers session).current)
    (pending : peer.pending = (server.peers session).pending) :
    (server.ran session peer).endpoint session =
      { server.endpoint session with session := peer.session, posted := peer.posted } := by
  have peers : (server.ran session peer).peers session = peer := Function.update_self _ _ _
  have client : (server.ran session peer).audience.clients session =
      if peer.session.closed then (server.audience.clients session).close
        else server.audience.clients session := Audience.clients_update_self _ _
  have commands : commandsOf ((server.ran session peer).audience.clients session) =
      commandsOf (server.audience.clients session) := by
    rw [client]
    split
    · exact commandsOf_close _
    · rfl
  unfold endpoint
  rw [peers, commands, current, pending]
  rfl

/-- What a peer's handler does to its session is the endpoint's move. -/
theorem ran_follows {peer : Peer} {move : Endpoint.Move}
    (current : peer.current = (server.peers session).current)
    (pending : peer.pending = (server.peers session).pending)
    (stepped : (server.endpoint session).step move =
      some { server.endpoint session with session := peer.session, posted := peer.posted }) :
    (Endpoint.system start).runFrom (server.endpoint session) [move] =
      some ((server.ran session peer).endpoint session) := by
  rw [endpoint_ran current pending]
  exact Endpoint.runFrom_single stepped

/-- What is sent waits in its order. -/
theorem runFrom_sends (sent : List Sending) (same : next.accepted = server.accepted)
    (peer : next.peers session = { server.peers session with
      posted := (server.peers session).posted ++
        (sent.filter fun sending => sending.1 = session).map Prod.snd })
    (tasks : (next.audience.clients session).tasks = (server.audience.clients session).tasks) :
    (Endpoint.system start).runFrom (server.endpoint session) (sends session sent) =
      some (next.endpoint session) := by
  rw [sends, Endpoint.runFrom_sends]
  simp only [endpoint, same, peer, commandsOf, tasks]

/-- A read has ended: the server's connection has read a frame, or is dropped. -/
theorem read_follows {task : Option Task} (sound : server.Sound)
    (present : session < server.accepted) (command : task ≠ some .forget) :
    (Endpoint.system start).runFrom (server.endpoint session)
        (server.ownShows session (.read session task)) =
      some ((server.read session task).endpoint session) := by
  have agrees := (sound.kept session present).closed
  unfold Server.read Peer.read
  dsimp only
  cases task with
  | none => exact ran_follows rfl rfl rfl
  | some task =>
      simp only [Option.isNone_some, Bool.false_or]
      by_cases closed : (server.peers session).session.closed = true
      · rw [if_pos closed]
        refine ran_follows rfl rfl ?_
        simp [Endpoint.step, Endpoint.read, endpoint, closed, Peer.close]
      · rw [if_neg closed]
        by_cases many : (server.peers session).pending ≥ maxPendingCommands
        · rw [if_pos many]
          refine ran_follows rfl rfl ?_
          simp [Endpoint.step, Endpoint.read, endpoint, closed, many, Peer.close]
        · rw [if_neg many]
          have opened : (server.audience.clients session).closed ≠ true := agrees ▸ closed
          have counts : task ≠ .forget := fun forget => command (congrArg some forget)
          apply Endpoint.runFrom_single
          simp [Endpoint.step, Endpoint.read, endpoint, closed, many, commandsOf, Viewer.read,
            opened, counts, Audience.update, List.countP_append]

/-- A command taken up by the server is taken up by the endpoint. -/
theorem begin_follows (began : server.begin session = some next) :
    (Endpoint.system start).runFrom (server.endpoint session)
        (server.ownShows session (.begin session)) = some (next.endpoint session) := by
  unfold Server.begin at began
  split at began
  · rename_i rests
    obtain ⟨client, took, rfl⟩ := Option.map_eq_some_iff.mp began
    unfold Viewer.begin at took
    split at took
    · rename_i task rest idle queued
      obtain rfl := Option.some.inj took
      obtain ⟨_, tasks⟩ := Viewer.start_keeps
        { server.audience.clients session with tasks := rest } task
      by_cases forget : task = .forget
      · subst forget
        rw [ownShows, queued, List.head?_cons, if_pos rfl]
        simp [System.runFrom, endpoint, commandsOf, queued, tasks, rests, busyOf, Audience.update]
      · rw [ownShows, queued, if_neg (by simpa using forget)]
        apply Endpoint.runFrom_single
        simp [Endpoint.step, Endpoint.begin, endpoint, commandsOf, queued, tasks, rests, busyOf,
          forget, Audience.update]
    · contradiction
  · contradiction

/-- **One step of the connection's own.** -/
theorem own_follows (sound : server.Sound) {action : Action}
    (about : action.session? = some session) (stepped : server.step action = some next) :
    (Endpoint.system start).runFrom (server.endpoint session) (server.ownShows session action) =
      some (next.endpoint session) := by
  have present := sound.session_lt about stepped
  cases action with
  | transmitter | destroy | receive | interrupt | accept | retry | stop | drop | joinNetwork |
    joinCommands | finish => contradiction
  | handshake other failed =>
      obtain rfl := Option.some.inj about
      obtain ⟨-, outstanding, rfl⟩ := network_eq_some_iff.mp stepped
      have handled := Peer.begun_handled outstanding failed
      refine ran_follows handled.current handled.pending ?_
      simp only [Endpoint.step, Session.handle, Option.map_some, Peer.begun, endpoint]
      split <;> rfl
  | read other task =>
      obtain rfl := Option.some.inj about
      simp only [step] at stepped
      split at stepped
      · contradiction
      · rename_i command
        obtain ⟨-, outstanding, rfl⟩ := network_eq_some_iff.mp stepped
        exact read_follows sound present command
  | socket other handler =>
      obtain rfl := Option.some.inj about
      obtain ⟨peer, ended, ran⟩ := Option.bind_eq_some_iff.mp stepped
      obtain ⟨-, -, rfl⟩ := network_eq_some_iff.mp ran
      have keeps := Peer.socket_handled ended
      refine ran_follows keeps.current keeps.pending ?_
      cases handler with
      | enqueue | begun | close => contradiction
      | wrote | heartbeat =>
          obtain ⟨left, handled, rfl⟩ := Option.map_eq_some_iff.mp ended
          simp only [Endpoint.step, endpoint, handled, Option.map_some]
  | deliver other now =>
      obtain rfl := Option.some.inj about
      obtain ⟨peer, delivered, ran⟩ := Option.bind_eq_some_iff.mp stepped
      obtain ⟨-, -, rfl⟩ := network_eq_some_iff.mp ran
      have handled := Peer.deliver_handled delivered
      refine ran_follows handled.current handled.pending ?_
      unfold Peer.deliver at delivered
      split at delivered
      · contradiction
      · rename_i payload rest posted
        obtain rfl := Option.some.inj delivered
        simp only [Endpoint.step, Endpoint.deliver, endpoint, posted]
  | begin other =>
      obtain rfl := Option.some.inj about
      exact begin_follows stepped
  | advance other =>
      obtain rfl := Option.some.inj about
      obtain ⟨audience, moved, rfl⟩ := Option.map_eq_some_iff.mp stepped
      obtain ⟨client, took, rfl⟩ := Option.map_eq_some_iff.mp moved
      have tasks := (Viewer.advance_advances took).keeps.2
      refine runFrom_sends (server.opening other) rfl rfl ?_
      rw [show Audience.clients _ other = client from
        (Audience.clients_update_self other client :
          (server.audience.update other client).clients other = client), tasks]
  | refuse other =>
      obtain rfl := Option.some.inj about
      obtain ⟨client, refused, rfl⟩ := Option.map_eq_some_iff.mp stepped
      obtain ⟨_, tasks, _⟩ := Peer.refuse_work refused
      refine congrArg some (Eq.symm ?_)
      refine endpoint_congr ?_ ?_ ?_
      · rfl
      · rfl
      · dsimp only
        rw [Audience.clients_update_self, tasks]
  | conclude other requestId =>
      obtain rfl := Option.some.inj about
      simp only [step, Server.conclude] at stepped
      split at stepped
      · rename_i idle forgets
        obtain rfl := Option.some.inj stepped
        rw [ownShows, if_pos forgets]
        simp [System.runFrom, endpoint, forgets, busyOf]
      · rename_i task command idle runs
        obtain rfl := Option.some.inj stepped
        rw [ownShows, if_neg (by rw [runs]; exact fun same => command (by simpa using same))]
        apply Endpoint.runFrom_single
        simp [Endpoint.step, Endpoint.reply, endpoint, runs, busyOf]
      · contradiction
  | commandDone other =>
      obtain rfl := Option.some.inj about
      simp only [step, Server.commandDone] at stepped
      split at stepped
      · rename_i sent
        obtain rfl := Option.some.inj stepped
        apply Endpoint.runFrom_single
        simp [Endpoint.step, Endpoint.commandDone, endpoint, sent, busyOf]
      · contradiction

/-- A transmitter's call shows as what it sends to the connection. -/
theorem transmit_follows {id : SubscriptionId} {made : Stream.Call}
    (called : server.transmit id made = some next) :
    (Endpoint.system start).runFrom (server.endpoint session)
        (sends session (server.transmitted id made)) = some (next.endpoint session) := by
  obtain ⟨stream, registered, rfl⟩ := Option.map_eq_some_iff.mp called
  rw [transmitted, registered, Option.map_some, Option.getD_some]
  exact runFrom_sends _ rfl rfl rfl

/-- An accepted connection shows from then on. -/
theorem accept_follows (sound : server.Sound) (result : Accepted) (now : Nat) :
    (Endpoint.system start).runFrom (server.endpoint session)
        (server.sharedShows session (.accept result now)) =
      some ((server.accept result now).endpoint session) := by
  rw [sharedShows]
  by_cases connects : result = .connected ∧ server.listening = true
  · obtain ⟨rfl, listening⟩ := connects
    by_cases same : session = server.accepted
    · subst same
      rw [if_pos ⟨rfl, listening, rfl⟩]
      obtain ⟨_, client⟩ := sound.unused server.accepted (Nat.le_refl _)
      apply Endpoint.runFrom_single
      simp [Endpoint.step, Server.accept, listening, endpoint, Endpoint.new, Peer.accepted,
        Peer.unused, busyOf, client, commandsOf, Viewer.new]
    · rw [if_neg fun all => same all.2.2]
      have later : session < server.accepted + 1 ↔ session < server.accepted :=
        ⟨fun before => Nat.lt_of_le_of_ne (Nat.le_of_lt_succ before) same, Nat.lt_succ_of_lt⟩
      simp [System.runFrom, Server.accept, listening, endpoint, Function.update_of_ne same, later]
  · rw [if_neg fun all => connects ⟨all.1, all.2.1⟩]
    refine congrArg some (Eq.symm ?_)
    unfold Server.accept
    split
    · rfl
    · rename_i opened
      split
      · rfl
      · rename_i made
        simp only [Bool.or_eq_true, decide_eq_true_eq, Bool.not_eq_true', not_or,
          Bool.not_eq_false] at opened
        refine (connects ⟨?_, opened.2⟩).elim
        cases result with
        | connected => rfl
        | aborted => exact (opened.1 rfl).elim
        | failed => exact (made rfl).elim

/-- A connection that is dropped with others is dropped once. -/
theorem endpoint_closeSessions (sessions : List WatcherId) (server : Server) :
    (sessions.foldl closeSession server).endpoint session =
      if session ∈ sessions then
        { server.endpoint session with session := (server.endpoint session).session.close.1 }
      else server.endpoint session := by
  induction sessions generalizing server with
  | nil => rfl
  | cons first rest ih =>
      rw [List.foldl_cons, ih]
      by_cases same : session = first
      · subst same
        have closed : (server.closeSession session).endpoint session =
            { server.endpoint session with session := (server.endpoint session).session.close.1 } :=
          endpoint_ran rfl rfl
        rw [closed, if_pos List.mem_cons_self]
        split
        · dsimp only
          rw [Session.close_of_closed (Session.close_closed _)]
        · rfl
      · have apart : (server.closeSession first).endpoint session = server.endpoint session :=
          endpoint_congr rfl (Function.update_of_ne same _ _)
            (congrArg Viewer.tasks (Audience.clients_update first session _ same))
        rw [apart]
        simp only [List.mem_cons, same, false_or]

/-- **One step that is no connection's own.** -/
theorem shared_follows (sound : server.Sound) {action : Action} (about : action.session? = none)
    (stepped : server.step action = some next) :
    (Endpoint.system start).runFrom (server.endpoint session)
        (server.sharedShows session action) = some (next.endpoint session) := by
  cases action with
  | handshake | read | socket | deliver | begin | advance | refuse | conclude | commandDone =>
      contradiction
  | transmitter id venue book precision =>
      obtain ⟨audience, built, rfl⟩ := Option.map_eq_some_iff.mp stepped
      refine congrArg some (Eq.symm ?_)
      exact endpoint_congr rfl rfl (congrArg Viewer.tasks (clients_stream built rfl session))
  | destroy id =>
      obtain rfl := Option.some.inj stepped
      rfl
  | receive id message => exact transmit_follows stepped
  | interrupt id gap => exact transmit_follows stepped
  | accept result now =>
      obtain ⟨-, -, rfl⟩ := network_eq_some_iff.mp stepped
      exact accept_follows sound result now
  | retry failed =>
      obtain ⟨-, -, rfl⟩ := network_eq_some_iff.mp stepped
      refine congrArg some (Eq.symm ?_)
      unfold Server.retry
      split <;> rfl
  | drop =>
      simp only [step] at stepped
      split at stepped
      · obtain rfl := Option.some.inj stepped
        rw [endpoint_closeSessions, sharedShows]
        split
        · exact Endpoint.runFrom_single rfl
        · rfl
      · contradiction
  | stop | joinNetwork | joinCommands | finish =>
      simp only [step] at stepped
      split at stepped
      · obtain rfl := Option.some.inj stepped
        rfl
      · contradiction

/-- **One step.** What any step is to a connection is what it shows as. -/
theorem follows (sound : server.Sound) {action : Action}
    (stepped : server.step action = some next) :
    (Endpoint.system start).runFrom (server.endpoint session) (server.shows session action) =
      some (next.endpoint session) := by
  unfold shows
  cases about : action.session? with
  | none => exact shared_follows sound about stepped
  | some other =>
      dsimp only
      split
      · rename_i same
        subst same
        exact own_follows sound about stepped
      · rename_i apart
        have own := (step_turns about stepped).own
        refine congrArg some (Eq.symm ?_)
        exact endpoint_congr own.accepted (own.peers session (Ne.symm apart))
          (congrArg Viewer.tasks (own.clients (Ne.symm apart)))

/-- **Each of the server's connections is an endpoint.** -/
def simulation (session : WatcherId) : Simulation system (Endpoint.system .unused) where
  view server := server.endpoint session
  kept := Sound
  shows server := server.shows session
  init := rfl
  kept_init := .init
  kept_step _ _ _ sound stepped := sound.step stepped
  follows _ _ _ sound stepped := follows sound stepped

/-- **The server's connections number their payloads as a session by itself.** -/
theorem session_opened (reachable : system.Reachable server) (session : WatcherId) :
    (server.peers session).session.Opened := by
  obtain ⟨actions, reached⟩ := reachable
  have reachable : (Endpoint.system .unused).Reachable (server.endpoint session) :=
    ⟨_, (simulation session).run reached⟩
  exact Endpoint.opened_of_reachable (.new 0) reachable

end Server

end DataFeed.Frontend
