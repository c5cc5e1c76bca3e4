import DataFeed.Frontend.Session

/-! # A connection's commands and their answers

The network thread reads a connection's frames, its command strand runs them one at a
time, and their answers go back to the network thread to be queued. Three queues join
the three: frames read and not begun, payloads posted and not queued, and the session's
own. What a command does, and what it returns or throws, is the world's.
-/

namespace DataFeed.Frontend

open Foundation L2 Venue

namespace Wire

/-- Why a command failed, on the wire. -/
inductive ErrorCode where
  | invalidCommand
  | invalidDepth
  | unknownSymbol
  | unknownId
  | symbolInUse
  | sinkMismatch
  | venueFailed
  | idsExhausted
  deriving DecidableEq, Repr

/-- A command of a client. -/
inductive Command where
  | start (venue : Nat) (symbol : String) (depth : UInt32) (sink : Nat)
  | stop (id : SubscriptionId) (sink : Nat)
  | list
  | watch (id : SubscriptionId)
  | unwatch
  | listPairs (venue : Nat)
  | listVenues
  deriving DecidableEq, Repr

/-- A command with the id its answer carries. A client newer than the server may send one
that the server does not know. -/
structure ClientCommand where
  requestId : UInt64
  command : Option Command
  deriving DecidableEq, Repr

/-- What a command is answered with. -/
inductive Reply where
  | ok
  | startedId (id : SubscriptionId)
  | subscriptions (subscriptions : List SubscriptionInfo)
  | pairs (symbols : List String) (depths : List UInt32)
  | venues (venues : List (String × Bool))
  | error (code : ErrorCode) (detail : String)
  deriving DecidableEq, Repr

/-- The answer to a command. -/
structure CommandResult where
  requestId : UInt64
  reply : Reply
  deriving DecidableEq, Repr

end Wire

/-- A frame as it was read. -/
inductive ClientFrame where
  | command (command : Wire.ClientCommand)
  /-- Bytes that are no command. -/
  | unparseable
  deriving DecidableEq, Repr

/-- The request id a frame's answer carries. -/
def ClientFrame.requestId : ClientFrame → UInt64
  | .command sent => sent.requestId
  | .unparseable => 0

/-- The answer of a command that fails. -/
def failure (code : Wire.ErrorCode) (detail : String) : Wire.Reply := .error code detail

/-- Runs a command that returns or throws as given. -/
def run (attempt : Except String Wire.Reply) (command : Wire.ClientCommand) : Wire.Reply :=
  match command.command with
  | none => failure .invalidCommand "No command, or one this backend does not know"
  | some _ =>
      match attempt with
      | .ok reply => reply
      | .error what => failure .venueFailed what

/-- The answer to a frame whose command returns or throws as given. -/
def answer (attempt : Except String Wire.Reply) : ClientFrame → Wire.CommandResult
  | .command sent => ⟨sent.requestId, run attempt sent⟩
  | .unparseable => ⟨0, failure .invalidCommand "Not a ClientCommand"⟩

/-- What is sent to a client from outside the network thread. -/
inductive Post where
  | result (result : Wire.CommandResult)
  /-- Something a stream sends. -/
  | stream (payload : Payload)
  deriving DecidableEq, Repr

/-- The payload that is sent. -/
def Post.payload : Post → Payload
  | .result answer => .result answer.requestId
  | .stream payload => payload

/-- The answer that is sent, if it is one. -/
def Post.result? : Post → Option Wire.CommandResult
  | .result answer => some answer
  | .stream _ => none

/-- What a command strand is doing. -/
inductive Strand where
  | idle
  | running (frame : ClientFrame)
  /-- Has sent a frame's answer, and has yet to count it as done. -/
  | sent (frame : ClientFrame)
  deriving DecidableEq, Repr

/-- A connection, with what it has read and answered so far. -/
structure Connection where
  session : Session
  /-- The counter of commands read and not answered. -/
  pending : Int
  /-- The frames posted to the command strand and not begun. -/
  commands : List ClientFrame
  strand : Strand
  /-- What was sent and has not reached the network thread. -/
  posted : List Post
  read : List ClientFrame
  /-- The frames whose answer was sent, with the answer. -/
  answers : List (ClientFrame × Wire.CommandResult)
  /-- How many frames were counted as done. -/
  done : Nat
  /-- The answers that were queued to go out. -/
  enqueued : List Wire.CommandResult

/-- Commands a connection may have read but not yet answered before it is dropped. -/
def maxPendingCommands : Nat := 64

namespace Connection

/-- A connection that has just been accepted. -/
def new (now : Nat) : Connection := ⟨.new now, 0, [], .idle, [], [], [], 0, []⟩

variable (connection : Connection)

/-- The handler of a read: the frame goes to the command strand. -/
def handleRead (frame : ClientFrame) : Connection :=
  if connection.session.closed then connection
  else if connection.pending ≥ maxPendingCommands then
    { connection with session := connection.session.close.1 }
  else
    { connection with
      pending := connection.pending + 1
      commands := connection.commands ++ [frame]
      read := connection.read ++ [frame] }

/-- The network thread takes what was sent and queues it. -/
def deliver (now : Clock) : Option Connection :=
  match connection.posted with
  | [] => none
  | post :: rest =>
      let queued := connection.session.enqueue post.payload now
      some { connection with
        session := queued.1
        posted := rest
        enqueued := connection.enqueued ++
          if (queuedFrames queued.2).isEmpty then [] else post.result?.toList }

/-- The command strand begins with the next frame. -/
def begin : Option Connection :=
  match connection.strand, connection.commands with
  | .idle, frame :: rest => some { connection with strand := .running frame, commands := rest }
  | _, _ => none

/-- The command strand sends a frame's answer. -/
def reply (attempt : Except String Wire.Reply) : Option Connection :=
  match connection.strand with
  | .running frame =>
      some { connection with
        strand := .sent frame
        posted := connection.posted ++ [.result (answer attempt frame)]
        answers := connection.answers ++ [(frame, answer attempt frame)] }
  | .idle | .sent _ => none

/-- The command strand counts a frame as done. -/
def commandDone : Option Connection :=
  match connection.strand with
  | .sent _ =>
      some { connection with
        strand := .idle
        pending := connection.pending - 1
        done := connection.done + 1 }
  | .idle | .running _ => none

/-- What happens on one of a connection's threads. -/
inductive Action where
  | read (frame : ClientFrame)
  | begin
  | reply (attempt : Except String Wire.Reply)
  | commandDone
  /-- A stream sends something. -/
  | send (payload : Payload)
  | deliver (now : Clock)
  /-- Another handler of the network thread: a write ends, the heartbeat fires, the
  handshake is done, or the connection is dropped. -/
  | handle (handler : Session.Handler)

/-- What a step does, if it is possible. Payloads reach the session by `deliver`
only. -/
def step : Action → Option Connection
  | .read frame => some (connection.handleRead frame)
  | .begin => connection.begin
  | .reply attempt => connection.reply attempt
  | .commandDone => connection.commandDone
  | .send payload => some { connection with posted := connection.posted ++ [.stream payload] }
  | .deliver now => connection.deliver now
  | .handle (.enqueue _ _) => none
  | .handle handler =>
      (connection.session.handle handler).map fun next => { connection with session := next.1 }

/-- A connection, from the time it was accepted. -/
def system (opened : Nat) : System Connection Action where
  init := new opened
  step := step

end Connection

end DataFeed.Frontend
