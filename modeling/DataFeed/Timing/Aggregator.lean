import DataFeed.Foundation.Transition
import Mathlib.Data.Finset.Card

/-! # Collecting timings

Threads record samples into queues of their own, and one writer drains all of them into a
file, in passes. Every read of a flag, every look at a queue and every change of one is a
step of its own. The writer holds the lock of the registry for a whole pass; a thread takes
it only to register.
-/

namespace DataFeed.Timing

open Foundation

/-- What is measured. -/
inductive Interval where
  | exchangeToParseStart
  | receiveToParseComplete
  deriving DecidableEq, Repr

/-- How an interval is spelled in the file. -/
def Interval.name : Interval → String
  | exchangeToParseStart => "exchange_to_parse_start"
  | receiveToParseComplete => "receive_to_parse_complete"

structure Sample where
  interval : Interval
  nanos : Int64
  deriving DecidableEq, Repr

/-- The line of a sample. -/
def Sample.line (sample : Sample) : String :=
  sample.interval.name ++ " " ++ toString sample.nanos.toInt

/-- Where a thread is that records samples. -/
inductive Recorder where
  /-- Between its calls of `Record`. -/
  | ready
  /-- Has seen that samples are recorded; is about to ask for its producer. -/
  | entered (sample : Sample)
  | pushing (sample : Sample)
  /-- The queue was full; is about to count the sample. -/
  | refused
  | exited
  deriving DecidableEq, Repr

namespace Recorder

/-- In a call of `Record`. -/
def InCall : Recorder → Prop
  | entered _ | pushing _ | refused => True
  | ready | exited => False

instance instDecidableInCall (recorder : Recorder) : Decidable recorder.InCall :=
  match recorder with
  | entered _ | pushing _ | refused => .isTrue trivial
  | ready | exited => .isFalse id

end Recorder

/-- Where the writer's thread is. Of a pass it holds whether it is the last one, the
producers it has yet to decide on, and those that are kept. -/
inductive Writer (Thread : Type*) where
  /-- There is no thread. -/
  | absent
  /-- Is about to ask whether a stop was requested. -/
  | asking
  /-- Is about to take the lock. -/
  | locking (stopping : Bool)
  /-- Is about to read whether the next producer is retired. -/
  | deciding (stopping : Bool) (todo kept : List Thread)
  /-- Is about to look how much is in its queue. -/
  | looking (stopping retired : Bool) (thread : Thread) (todo kept : List Thread)
  /-- Is about to consume that many samples. -/
  | consuming (stopping retired : Bool) (thread : Thread) (count : Nat) (todo kept : List Thread)
  /-- The pass is over; is about to write what it found. -/
  | writing (stopping : Bool)
  /-- Is about to write the count of the dropped samples. -/
  | closing
  | finished
  deriving DecidableEq, Repr

/-- The writer holds the lock. -/
def Writer.Holds {Thread : Type*} : Writer Thread → Prop
  | deciding _ _ _ | looking _ _ _ _ _ | consuming _ _ _ _ _ _ => True
  | absent | asking | locking _ | writing _ | closing | finished => False

instance Writer.instDecidableHolds {Thread : Type*} (writer : Writer Thread) :
    Decidable writer.Holds :=
  match writer with
  | deciding _ _ _ | looking _ _ _ _ _ | consuming _ _ _ _ _ _ => .isTrue trivial
  | absent | asking | locking _ | writing _ | closing | finished => .isFalse id

/-- Where the thread is that starts and stops the recording. -/
inductive Caller where
  | idle
  /-- The writer is started. -/
  | launched
  /-- `Start` has returned. -/
  | started
  /-- `Stop` has begun. -/
  | disabled
  /-- Has requested the writer's stop; waits for it. -/
  | joining
  /-- `Stop` has returned. -/
  | stopped
  deriving DecidableEq, Repr

/-- What is there as the recording is started: the producers of earlier threads, and what
an earlier recording has left in their queues. -/
structure Registry (Thread : Type*) where
  producers : List Thread
  queue : Thread → List Sample
  registered : Thread → Bool
  exited : Thread → Bool
  queued : ∀ thread, thread ∉ producers → queue thread = []
  present : ∀ thread, registered thread = true → exited thread = false → thread ∈ producers

/-- A registry without producers. -/
def Registry.empty (Thread : Type*) : Registry Thread where
  producers := []
  queue _ := []
  registered _ := false
  exited _ := false
  queued _ _ := rfl
  present _ registered := Bool.noConfusion registered

/-- The recording, and what has happened in it. -/
structure Aggregator (Thread : Type*) where
  running : Bool
  /-- A stop of the writer was requested. -/
  stopRequested : Bool
  caller : Caller
  writer : Writer Thread
  producers : List Thread
  /-- A thread's queue. -/
  queue : Thread → List Sample
  /-- The thread has a producer. -/
  registered : Thread → Bool
  /-- Its producer is retired. -/
  retired : Thread → Bool
  recorders : Thread → Recorder
  dropped : UInt64
  /-- What the writer has formatted, with the threads that recorded it. -/
  buffer : List (Thread × Sample)
  file : List (Thread × Sample)
  /-- The count that closes the file. -/
  closing : Option UInt64
  /-- What each thread has pushed. -/
  pushed : Thread → List Sample
  /-- How many pushes found their queue full. -/
  failures : Nat

namespace Aggregator

variable {Thread : Type*}

/-- No recording has been started since the registry was left. -/
def init (registry : Registry Thread) : Aggregator Thread where
  running := false
  stopRequested := false
  caller := .idle
  writer := .absent
  producers := registry.producers
  queue := registry.queue
  registered := registry.registered
  retired thread := registry.registered thread && registry.exited thread
  recorders thread := if registry.exited thread then .exited else .ready
  dropped := 0
  buffer := []
  file := []
  closing := none
  pushed _ := []
  failures := 0

/-- Who takes a step. -/
inductive Action (Thread : Type*) where
  /-- A thread calls `Record`, which reads whether samples are recorded. -/
  | record (thread : Thread) (sample : Sample)
  /-- It asks for its producer. -/
  | localProducer (thread : Thread)
  | push (thread : Thread)
  /-- It counts a sample as dropped. -/
  | count (thread : Thread)
  | exit (thread : Thread)
  | writer
  /-- `Start` opens the file and starts the writer. -/
  | launch
  /-- `Start` turns the recording on. -/
  | enable
  /-- `Stop` turns the recording off. -/
  | disable
  /-- `Stop` requests the writer's stop. -/
  | requestStop
  | join
  deriving DecidableEq, Repr

variable [DecidableEq Thread] (state : Aggregator Thread)

/-- A thread goes on. -/
def move (thread : Thread) (recorder : Recorder) : Aggregator Thread :=
  { state with recorders := Function.update state.recorders thread recorder }

/-- A thread's call of `Record` begins. -/
def record (thread : Thread) (sample : Sample) : Option (Aggregator Thread) :=
  match state.recorders thread with
  | .ready => some (if state.running then state.move thread (.entered sample) else state)
  | _ => none

/-- A thread gets its producer, which it registers if it has none. -/
def localProducer (thread : Thread) : Option (Aggregator Thread) :=
  match state.recorders thread with
  | .entered sample =>
      if state.registered thread then some (state.move thread (.pushing sample))
      else if state.writer.Holds then none
      else
        some { state.move thread (.pushing sample) with
          producers := state.producers ++ [thread]
          registered := Function.update state.registered thread true }
  | _ => none

/-- A thread pushes its sample, which fails when its queue is full: the capacity is what
a producer's queue is built with. -/
def push (capacity : Nat) (thread : Thread) : Option (Aggregator Thread) :=
  match state.recorders thread with
  | .pushing sample =>
      if (state.queue thread).length < capacity then
        some { state.move thread .ready with
          queue := Function.update state.queue thread (state.queue thread ++ [sample])
          pushed := Function.update state.pushed thread (state.pushed thread ++ [sample]) }
      else some { state.move thread .refused with failures := state.failures + 1 }
  | _ => none

def count (thread : Thread) : Option (Aggregator Thread) :=
  match state.recorders thread with
  | .refused => some { state.move thread .ready with dropped := state.dropped + 1 }
  | _ => none

/-- A thread exits, which retires its producer. -/
def exit (thread : Thread) : Option (Aggregator Thread) :=
  match state.recorders thread with
  | .ready =>
      some { state.move thread .exited with
        retired := Function.update state.retired thread (state.registered thread) }
  | _ => none

/-- A step of the writer's thread. -/
def write : Option (Aggregator Thread) :=
  match state.writer with
  | .asking => some { state with writer := .locking state.stopRequested }
  | .locking stopping => some { state with writer := .deciding stopping state.producers [] }
  | .deciding stopping [] kept =>
      some { state with writer := .writing stopping, producers := kept }
  | .deciding stopping (thread :: todo) kept =>
      some { state with writer := .looking stopping (state.retired thread) thread todo kept }
  | .looking stopping retired thread todo kept =>
      some { state with
        writer := .consuming stopping retired thread (state.queue thread).length todo kept }
  | .consuming stopping retired thread count todo kept =>
      some { state with
        writer := .deciding stopping todo (if retired then kept else kept ++ [thread])
        queue := Function.update state.queue thread ((state.queue thread).drop count)
        buffer := state.buffer ++ ((state.queue thread).take count).map fun sample =>
          (thread, sample) }
  | .writing stopping =>
      some { state with
        writer := if stopping then .closing else .asking
        file := state.file ++ state.buffer
        buffer := [] }
  | .closing => some { state with writer := .finished, closing := some state.dropped }
  | .absent | .finished => none

/-- What a step does, if it is possible. -/
def step (capacity : Nat) : Action Thread → Option (Aggregator Thread)
  | .record thread sample => state.record thread sample
  | .localProducer thread => state.localProducer thread
  | .push thread => state.push capacity thread
  | .count thread => state.count thread
  | .exit thread => state.exit thread
  | .writer => state.write
  | .launch =>
      match state.caller with
      | .idle => some { state with caller := .launched, writer := .asking, dropped := 0 }
      | _ => none
  | .enable =>
      match state.caller with
      | .launched => some { state with caller := .started, running := true }
      | _ => none
  | .disable =>
      match state.caller with
      | .started => some { state with caller := .disabled, running := false }
      | _ => none
  | .requestStop =>
      match state.caller with
      | .disabled => some { state with caller := .joining, stopRequested := true }
      | _ => none
  | .join =>
      match state.caller, state.writer with
      | .joining, .finished => some { state with caller := .stopped }
      | _, _ => none

/-- One recording, with every order of the threads' steps. -/
def system (capacity : Nat) (registry : Registry Thread) :
    System (Aggregator Thread) (Action Thread) where
  init := init registry
  step state := state.step capacity

/-- `Stop` begins when no call of `Record` is under way. -/
def Calm : Action Thread → Prop
  | .disable => ∀ thread, ¬ (state.recorders thread).InCall
  | _ => True

/-- The samples of a thread among those of all. -/
def samplesOf (thread : Thread) (entries : List (Thread × Sample)) : List Sample :=
  (entries.filter fun entry => entry.1 = thread).map Prod.snd

/-- The lines of the file. -/
def lines : List String :=
  state.file.map (fun entry => entry.2.line) ++
    (state.closing.toList.map fun count => "# dropped " ++ toString count)

end Aggregator

end DataFeed.Timing
