import DataFeed.Foundation.Transition
import DataFeed.Frontend.Wire

/-! # One client connection's outgoing queue

A session numbers the payloads for its client, queues them and writes them one
at a time. A client that falls behind loses books, which still take their
numbers; one that falls further behind is dropped. Everything runs on the
network thread, one handler at a time, so each handler is one step. The socket
and the clocks are the environment's: how a write ends and what time it is are
part of the step.
-/

namespace DataFeed.Frontend

open Foundation

/-- Frames a connection may have waiting to go out before it drops books. -/
def maxQueuedFrames : Nat := 4096

/-- Frames past which a connection is dropped instead. -/
def maxBacklogFrames : Nat := 2 * maxQueuedFrames

/-- How long a connection may send nothing before it sends a heartbeat, in
nanoseconds. -/
def heartbeatPeriod : Nat := 5000000000

/-- What the clocks say: the steady clock, and the time since the Unix epoch. -/
structure Clock where
  steady : Nat
  unix : Int64
  deriving DecidableEq, Repr

/-- A frame waiting to go out. -/
structure Outgoing where
  sequence : UInt64
  payload : Payload
  deriving DecidableEq, Repr

/-- What happens to the payloads of a session. -/
inductive SessionEvent where
  /-- A payload is to be queued. -/
  | offered (payload : Payload)
  /-- It takes a number and waits to go out. -/
  | queued (frame : Outgoing)
  /-- It takes a number and goes nowhere. -/
  | dropped (frame : Outgoing)
  /-- The connection is closed, so it goes nowhere. -/
  | refused (payload : Payload)
  /-- A frame goes out, under an envelope with its send time. -/
  | written (frame : Outgoing) (sendTimeNs : Int64)
  | closed
  deriving DecidableEq, Repr

/-- The state of a session. -/
structure Session where
  /-- Frames waiting to go out; the front one may be in flight. -/
  outgoing : List Outgoing
  nextSequence : UInt64
  lastEnqueue : Nat
  closed : Bool
  /-- The writes begun that have not ended, oldest first. -/
  writing : List Outgoing
  /-- The heartbeat timer has been set and its handler has not run. -/
  armed : Bool

namespace Session

/-- A session that has just been accepted. -/
def new (now : Nat) : Session where
  outgoing := []
  nextSequence := 0
  lastEnqueue := now
  closed := false
  writing := []
  armed := false

/-- Drops the connection. What is queued stays, as a pending write still points
into the first frame. -/
def close (session : Session) : Session × List SessionEvent :=
  if session.closed then (session, [])
  else ({ session with closed := true }, [.closed])

/-- Begins the write of the front frame. Only called with frames waiting. -/
def writeFront (session : Session) (now : Clock) : Session × List SessionEvent :=
  match session.outgoing with
  | [] => (session, [])
  | front :: _ =>
      ({ session with writing := session.writing ++ [front] }, [.written front now.unix])

theorem writeFront_eq {session : Session} {front : Outgoing} {rest : List Outgoing}
    (queue : session.outgoing = front :: rest) (now : Clock) :
    session.writeFront now =
      ({ session with writing := session.writing ++ [front] }, [.written front now.unix]) := by
  unfold writeFront
  split
  · rename_i none
    exact (List.cons_ne_nil front rest (queue.symm.trans none)).elim
  · rename_i first others same
    obtain rfl := (List.cons.inj (same.symm.trans queue)).1
    rfl

/-- Puts a payload at the end of the queue, and begins its write if nothing else
was waiting: otherwise a write is in flight and picks this one up. -/
def pushBack (session : Session) (payload : Payload) (now : Clock) :
    Session × List SessionEvent :=
  let frame : Outgoing := ⟨session.nextSequence, payload⟩
  let pushed :=
    { session with
      outgoing := session.outgoing ++ [frame]
      nextSequence := session.nextSequence + 1
      lastEnqueue := now.steady }
  if pushed.outgoing.length = 1 then
    ((pushed.writeFront now).1, .queued frame :: (pushed.writeFront now).2)
  else (pushed, [.queued frame])

/-- Queues a payload to go out under the connection's next sequence number. -/
def enqueue (session : Session) (payload : Payload) (now : Clock) :
    Session × List SessionEvent :=
  if session.closed then (session, [.offered payload, .refused payload])
  else if session.outgoing.length ≥ maxQueuedFrames ∧
      payload.fieldNumber = Payload.bookFieldNumber then
    ({ session with nextSequence := session.nextSequence + 1 },
      [.offered payload, .dropped ⟨session.nextSequence, payload⟩])
  else if session.outgoing.length ≥ maxQueuedFrames ∧
      session.outgoing.length ≥ maxBacklogFrames then
    (session.close.1, .offered payload :: session.close.2 ++ [.refused payload])
  else
    ((session.pushBack payload now).1, .offered payload :: (session.pushBack payload now).2)

/-- The handler of a write: the frame is out of the queue, and the next one's
write begins. -/
def wrote (session : Session) (failed : Bool) (now : Clock) : Session × List SessionEvent :=
  let ended := { session with writing := session.writing.tail }
  if failed then ended.close
  else
    let popped := { ended with outgoing := ended.outgoing.tail }
    if !popped.closed && !popped.outgoing.isEmpty then popped.writeFront now else (popped, [])

/-- The handler of the heartbeat timer. -/
def heartbeat (session : Session) (failed : Bool) (now : Clock) :
    Session × List SessionEvent :=
  let fired := { session with armed := false }
  if failed || fired.closed then (fired, [])
  else
    let beat :=
      if now.steady - fired.lastEnqueue ≥ heartbeatPeriod then fired.enqueue .heartbeat now
      else (fired, [])
    (if beat.1.closed then beat.1 else { beat.1 with armed := true }, beat.2)

/-- The handler of the websocket handshake. Reading commands is left out: it calls
`close` or nothing on the queue. -/
def begun (session : Session) (failed : Bool) : Session × List SessionEvent :=
  if failed || session.closed then session.close
  else ({ session with armed := true }, [])

/-- A handler that runs on the network thread. -/
inductive Handler where
  | enqueue (payload : Payload) (now : Clock)
  /-- The oldest write ends. -/
  | wrote (failed : Bool) (now : Clock)
  | heartbeat (failed : Bool) (now : Clock)
  | begun (failed : Bool)
  /-- The connection is dropped from elsewhere: a failed read, too many commands
  pending, or the server shutting down. -/
  | close
  deriving DecidableEq, Repr

/-- What a handler does. A write's handler runs only while a write is in flight, the
timer's only while it is set. -/
def handle (session : Session) : Handler → Option (Session × List SessionEvent)
  | .enqueue payload now => some (session.enqueue payload now)
  | .wrote failed now => if session.writing = [] then none else some (session.wrote failed now)
  | .heartbeat failed now => if session.armed then some (session.heartbeat failed now) else none
  | .begun failed => some (session.begun failed)
  | .close => some session.close

/-- A session and what has happened to its payloads. -/
abbrev Logged := Session × List SessionEvent

/-- A session, from the time it was accepted, under its handlers in any order. -/
def system (opened : Nat) : System Logged Handler where
  init := (new opened, [])
  step state handler := (state.1.handle handler).map fun next => (next.1, state.2 ++ next.2)

end Session

/-- An event that gives a payload a sequence number. -/
def SessionEvent.numbered : SessionEvent → Option SessionEvent
  | .queued frame => some (.queued frame)
  | .dropped frame => some (.dropped frame)
  | _ => none

/-- The number an event gives out. -/
def SessionEvent.number : SessionEvent → UInt64
  | .queued frame => frame.sequence
  | .dropped frame => frame.sequence
  | _ => 0

/-- The frame an event puts in the queue. -/
def SessionEvent.queued? : SessionEvent → Option Outgoing
  | .queued frame => some frame
  | _ => none

/-- The frame an event sends out. -/
def SessionEvent.written? : SessionEvent → Option Outgoing
  | .written frame _ => some frame
  | _ => none

/-- The payload an event offers. -/
def SessionEvent.offered? : SessionEvent → Option Payload
  | .offered payload => some payload
  | _ => none

/-- The payload an event decides on. -/
def SessionEvent.settled? : SessionEvent → Option Payload
  | .queued frame => some frame.payload
  | .dropped frame => some frame.payload
  | .refused payload => some payload
  | _ => none

/-- The payloads that took a number, in order. -/
def numberedEvents (log : List SessionEvent) : List SessionEvent :=
  log.filterMap SessionEvent.numbered

/-- The frames put in the queue, in order. -/
def queuedFrames (log : List SessionEvent) : List Outgoing := log.filterMap SessionEvent.queued?

/-- The frames sent out, in order. -/
def writtenFrames (log : List SessionEvent) : List Outgoing := log.filterMap SessionEvent.written?

/-- The payloads offered, in order. -/
def offeredPayloads (log : List SessionEvent) : List Payload :=
  log.filterMap SessionEvent.offered?

/-- The payloads decided on, in order. -/
def settledPayloads (log : List SessionEvent) : List Payload :=
  log.filterMap SessionEvent.settled?

theorem filterMap_concat {Item Kept : Type*} (keep : Item → Option Kept) (items : List Item)
    (last : Item) :
    (items ++ [last]).filterMap keep = items.filterMap keep ++ (keep last).toList := by
  rw [List.filterMap_append, List.filterMap_cons]
  cases keep last <;> rfl

theorem numberedEvents_concat (log : List SessionEvent) (event : SessionEvent) :
    numberedEvents (log ++ [event]) = numberedEvents log ++ event.numbered.toList :=
  filterMap_concat _ log event

theorem queuedFrames_concat (log : List SessionEvent) (event : SessionEvent) :
    queuedFrames (log ++ [event]) = queuedFrames log ++ event.queued?.toList :=
  filterMap_concat _ log event

theorem writtenFrames_concat (log : List SessionEvent) (event : SessionEvent) :
    writtenFrames (log ++ [event]) = writtenFrames log ++ event.written?.toList :=
  filterMap_concat _ log event

/-- What is queued is what takes a number and is not dropped. -/
theorem filterMap_numberedEvents (log : List SessionEvent) :
    (numberedEvents log).filterMap SessionEvent.queued? = queuedFrames log := by
  unfold numberedEvents queuedFrames
  rw [List.filterMap_filterMap]
  congr 1
  funext event
  cases event <;> rfl

end DataFeed.Frontend
