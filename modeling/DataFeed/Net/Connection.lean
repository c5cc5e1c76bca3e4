import Mathlib.Data.List.Basic
import DataFeed.Foundation.Transition
import DataFeed.Net.WebsocketFeed

/-! # A connection and its network thread

Every operation on a socket is a handler that the network thread runs, one at a time:
what `Send` has posted, the end of a write and the end of a read. The thread begins a read
for each frame, runs handlers until the read has ended, logs the frame and pushes it; so
texts go out between frames. Once it sees the stop flag it closes the socket and runs the
handlers that are left.

A feed's callers connect, send and disconnect in turn, as the feed's owner serializes
them, and the network thread takes its steps between any two of theirs. The queue is full
or not, the flags are set or not, whenever it looks.
-/

namespace DataFeed.Net

open Foundation

/-- One socket, from its handshake to its close. -/
structure Connection where
  /-- What was handed to `Send`. -/
  sent : List String
  /-- The texts whose handlers were posted and have not run. -/
  posted : List String
  outbox : List String
  /-- The buffers whose writes have not ended; nothing for a buffer that is not there. -/
  writing : List (Option String)
  /-- How many reads have not ended. -/
  reads : Nat
  writeError : Bool
  /-- What the venue was written. -/
  written : List String

namespace Connection

/-- A connection after its handshakes. -/
def new : Connection := ⟨[], [], [], [], 0, false, []⟩

variable (connection : Connection)

/-- Posts a handler that will write the text. -/
def send (text : String) : Connection :=
  { connection with
    sent := connection.sent ++ [text]
    posted := connection.posted ++ [text] }

/-- Begins to write the front of the outbox. -/
def writeFront : Connection :=
  { connection with writing := connection.writing ++ [connection.outbox.head?] }

/-- The handler that `Send` posts. If the outbox was not empty, a write is already in
flight and will pick the text up. -/
def runPosted : Option Connection :=
  match connection.posted with
  | [] => none
  | text :: rest =>
      let queued := { connection with posted := rest, outbox := connection.outbox ++ [text] }
      some (if queued.outbox.length = 1 then queued.writeFront else queued)

/-- The handler of a write that has ended. -/
def wrote (success : Bool) : Option Connection :=
  match connection.writing with
  | [] => none
  | buffer :: rest =>
      if success then
        let popped := { connection with
          writing := rest
          outbox := connection.outbox.tail
          written := connection.written ++ buffer.toList }
        some (if popped.outbox = [] then popped else popped.writeFront)
      else some { connection with writing := rest, writeError := true, outbox := [] }

def beginRead : Connection := { connection with reads := connection.reads + 1 }

/-- The handler of a read that has ended. -/
def readEnded : Option Connection :=
  if connection.reads = 0 then none else some { connection with reads := connection.reads - 1 }

/-- Nothing is left to be run. -/
def Idle : Prop := connection.posted = [] ∧ connection.writing = [] ∧ connection.reads = 0

instance instDecidableIdle : Decidable connection.Idle := inferInstanceAs (Decidable (_ ∧ _))

end Connection

/-- Where a network thread is in `Run` and in what that calls. -/
inductive Place where
  /-- Calls `Next`. -/
  | next
  /-- `Next` looks at the stop flag. -/
  | polling
  /-- `Next` runs a handler, if there is one. -/
  | running
  /-- The read has ended, with a frame unless it failed. -/
  | completed (frame : Option String)
  /-- `Close` runs the handlers that are left. -/
  | closing
  /-- The frame is about to be logged. -/
  | stamped (frame : RawFrame)
  | pushing (frame : RawFrame)
  /-- The queue was full; the thread looks at the give-up flag. -/
  | refused (frame : RawFrame)
  /-- An exception is about to be caught. -/
  | thrown
  /-- Has returned after the stop. -/
  | stopped
  /-- Has returned after an exception. -/
  | failed
  deriving DecidableEq, Repr

/-- The frame that is logged and not yet in the queue. -/
def Place.logged? : Place → Option RawFrame
  | .pushing frame | .refused frame => some frame
  | .next | .polling | .running | .completed _ | .closing | .stamped _ | .thrown | .stopped
  | .failed => none

/-- The reads that have been begun and have not ended. -/
def Place.Reads : Place → Nat → Prop
  | .polling, reads | .running, reads => reads = 1
  | .closing, reads | .thrown, reads | .failed, reads => reads ≤ 1
  | .next, reads | .completed _, reads | .stamped _, reads | .pushing _, reads
  | .refused _, reads | .stopped, reads => reads = 0

/-- A venue's feed, with the queue and the status that it shares with the parser. -/
structure Feed where
  connection : Option Connection
  /-- Which connection this is. -/
  number : Nat
  stop : Bool
  thread : Option Place
  /-- The lines of the raw log that is open. -/
  rawLog : Option (List String)
  /-- The raw logs of the connections before. -/
  rawLogs : List (List String)
  /-- The queue to the parser. -/
  frames : List (Nat × RawFrame)
  /-- The pipeline has failed. -/
  failed : Bool
  /-- What the parser has taken from the queue. -/
  consumed : List RawFrame
  /-- A frame was given up, or discarded from the queue. -/
  lost : Bool

namespace Feed

/-- A feed that has not connected yet. -/
def init : Feed := ⟨none, 0, false, none, none, [], [], false, [], false⟩

/-- What the network thread does next, and what it finds as it does. -/
inductive Move where
  /-- Goes on. -/
  | go
  /-- There is no handler to run. -/
  | timeout
  /-- Runs a handler that `Send` has posted. -/
  | posted
  /-- Runs the handler of a write. -/
  | wrote (success : Bool)
  /-- Runs the handler of a read: with a frame, unless it failed. -/
  | read (frame : Option String)
  /-- Takes the time at which it has read a frame. -/
  | stamp (nowNs : Int64)
  deriving DecidableEq, Repr

variable (feed : Feed)

def goTo (place : Place) : Feed := { feed with thread := some place }

/-- What the thread does of its own. -/
def go : Place → Option Feed
  | .next => feed.connection.map fun connection =>
      { feed with connection := some connection.beginRead, thread := some .polling }
  | .polling => some (feed.goTo (if feed.stop then .closing else .running))
  | .completed none => some (feed.goTo .thrown)
  | .closing => feed.connection.bind fun connection =>
      if connection.Idle then some (feed.goTo .stopped) else none
  | .stamped frame =>
      some { feed with
        rawLog := feed.rawLog.map (· ++ [frame.json])
        thread := some (.pushing frame) }
  | .pushing frame =>
      if feed.frames.length < maxQueuedFrames then
        some { feed with
          frames := feed.frames ++ [(feed.number, frame)]
          thread := some .next }
      else some (feed.goTo (.refused frame))
  | .refused frame =>
      if feed.failed then some { feed with thread := some .next, lost := true }
      else some (feed.goTo (.pushing frame))
  | .thrown => some { feed with failed := true, thread := some .failed }
  | .completed (some _) | .running | .stopped | .failed => none

/-- A handler has run in `Next`, which throws if a write has failed. -/
def handled (connection : Connection) (place : Place) : Feed :=
  { feed with
    connection := some connection
    thread := some (if connection.writeError then .thrown else place) }

/-- A handler has run in `Close`. -/
def drained (connection : Connection) : Feed := { feed with connection := some connection }

/-- A handler runs in `Next` or in `Close`; its outcome matters in `Next`. -/
def handle (place after : Place) (ran : Option Connection) : Option Feed :=
  match place with
  | .running => ran.map fun connection => feed.handled connection after
  | .closing => ran.map feed.drained
  | _ => none

/-- A step of the network thread. -/
def move (place : Place) : Move → Option Feed
  | .go => feed.go place
  | .timeout =>
      match place with
      | .running => some (feed.goTo .polling)
      | _ => none
  | .posted => feed.handle place .polling (feed.connection.bind Connection.runPosted)
  | .wrote success =>
      feed.handle place .polling (feed.connection.bind fun connection => connection.wrote success)
  | .read frame =>
      feed.handle place (.completed frame) (feed.connection.bind Connection.readEnded)
  | .stamp nowNs =>
      match place with
      | .completed (some json) => some (feed.goTo (.stamped ⟨json, nowNs⟩))
      | _ => none

/-- Who takes a step. -/
inductive Action where
  /-- `Connect`, and it succeeds. -/
  | connect (number : Nat)
  /-- `Connect` throws, with the raw log open or not. -/
  | refuse (logOpen : Bool)
  | send (text : String)
  /-- `Disconnect` tells the thread to stop. -/
  | requestStop
  /-- `Disconnect` joins the thread and closes what is open. -/
  | join
  /-- The network thread. -/
  | network (move : Move)
  /-- The parser takes a frame. -/
  | consume
  /-- The parser's thread dies. -/
  | fail
  /-- The feed's owner empties the queue. -/
  | discard
  /-- The feed's owner resets the status. -/
  | reset
  deriving DecidableEq, Repr

/-- Whether a `Disconnect` waits for the thread. -/
def joinable : Option Place → Bool
  | none | some .stopped | some .failed => true
  | some _ => false

/-- What a step does, if it is possible. A call of `Connect` finds the feed disconnected,
and no `Send` comes while a `Disconnect` runs. What is shared with the parser is begun anew
between connections only. -/
def step : Action → Option Feed
  | .connect number =>
      if feed.connection.isNone then
        some { feed with
          connection := some .new
          number := number
          stop := false
          thread := some .next
          rawLog := some [] }
      else none
  | .refuse logOpen =>
      if feed.connection.isNone then
        some { feed with
          number := 0
          stop := true
          rawLogs := feed.rawLogs ++ if logOpen then [[]] else [] }
      else none
  | .send text =>
      if feed.connection.isSome ∧ feed.stop then none
      else some { feed with connection := feed.connection.map fun current => current.send text }
  | .requestStop => some { feed with stop := true }
  | .join =>
      if feed.stop ∧ joinable feed.thread then
        some { feed with
          connection := none
          thread := none
          rawLog := none
          rawLogs := feed.rawLogs ++ feed.rawLog.toList }
      else none
  | .network move => feed.thread.bind fun place => feed.move place move
  | .consume =>
      match feed.frames with
      | [] => none
      | (_, frame) :: rest =>
          some { feed with frames := rest, consumed := feed.consumed ++ [frame] }
  | .fail => some { feed with failed := true }
  | .discard =>
      if feed.connection.isNone then
        some { feed with frames := [], lost := feed.lost || !feed.frames.isEmpty }
      else none
  | .reset => if feed.connection.isNone then some { feed with failed := false } else none

/-- A feed, with all that its owner, its thread, its parser and the venue can do. -/
def system : System Feed Action where
  init := init
  step := step

end Feed

end DataFeed.Net
