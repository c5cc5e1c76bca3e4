import DataFeed.Foundation.Locking
import DataFeed.L2.FileWriter
import DataFeed.Net.WebsocketFeed

/-! # What the pipeline's threads wait for

The threads of any number of venues, their callers and their recordings, as far as one can
wait for another: the locks that each function takes, the pushes into the queues of raw
frames and of messages, and the joins. What data decides is left open (whether a manager is
connected, which receiver a subscription has, when a loop ends), and so is what throws: every
order of the code's steps is among the runs here.

No threads ever wait for one another (`threads_not_deadlocked`). The life cycle lock comes
first, then the network thread and the queue that it fills, the parser and its routes lock, and
last the outbox, the streams, the writers and the queue of pairs to resubscribe.
-/

namespace DataFeed.Venue.WaitOrder

open Foundation Foundation.Locking

/-- The locks: of each manager, of its parser, of its queue of pairs to resubscribe, of the
outbox and of each stream. -/
inductive Mutex where
  | lifeCycle (venue : Nat)
  | routes (venue : Nat)
  | resubscribe (venue : Nat)
  | outbox
  | stream (receiver : Nat)
  deriving DecidableEq

/-- The bounded queues: between the network and the parser thread of each venue, and in front
of each writer. -/
inductive Spsc where
  | rawFrames (venue : Nat)
  | messages (receiver : Nat)
  deriving DecidableEq

/-- The threads: those that call the managers and the outbox, three of each venue, and one of
each file writer. -/
inductive Thread where
  | caller (number : Nat)
  | network (venue : Nat)
  | parser (venue : Nat)
  | resubscriber (venue : Nat)
  | writer (receiver : Nat)
  deriving DecidableEq

/-- What a function of the pipeline does. -/
abbrev Call := Code Mutex Spsc Thread

/-- Something that is not always done. -/
def optionally (call : Call) : Call := .either .skip call

/-- One thing after another, up to an early return or an exception. -/
def sequence : List Call → Call
  | [] => .skip
  | first :: rest => optionally (.seq first (sequence rest))

/-- Holds a lock and does nothing meanwhile that waits. -/
def briefly (mutex : Mutex) : Call := .locked mutex .skip

/-- Handles what is in a queue until stopped. -/
def drain (queue : Spsc) (consume : Call) : Call := .loop (.consume queue consume)

section Receivers

/-! ## Receivers

A file writer pushes into its queue, and has a thread for it from its construction to its
destruction. A transmitter is registered with the outbox that long, and changes its stream. -/

variable (receiver : Nat)

/-- Builds a file writer or a transmitter. -/
def makeReceiver : Call := .either (.start (.writer receiver)) (briefly .outbox)

/-- Gives something to a file writer or a transmitter. -/
def hand : Call := .either (.push (.messages receiver)) (briefly (.stream receiver))

def receive : Call := hand receiver

def onGap : Call := hand receiver

/-- Destroys a file writer or a transmitter. -/
def destroyReceiver : Call := .either (.join (.writer receiver)) (briefly .outbox)

/-- The body of a writer's thread: nothing that it writes waits. -/
def write : Call := drain (.messages receiver) .skip

end Receivers

section Venues

variable (venue : Nat)

/-! ## Parsers -/

/-- Queues a pair for the resubscriber. -/
def requestResubscribe : Call := briefly (.resubscribe venue)

/-- Hands a message to its receiver. A book that fails its check sum is a gap instead, and its
pair is queued. -/
def emit : Call :=
  .any fun receiver => .either (optionally (receive receiver))
    (sequence [onGap receiver, requestResubscribe venue])

def dispatch : Call := .locked (.routes venue) (.loop (emit venue))

def startParser : Call := sequence [briefly (.routes venue), .start (.parser venue)]

/-- Joins the parser's thread, if there is one. -/
def stopParser : Call := optionally (.join (.parser venue))

def attach : Call := briefly (.routes venue)

def detach : Call := briefly (.routes venue)

/-! ## Feeds -/

/-- Joins the network thread, if there is one. -/
def disconnectFeed : Call := optionally (.join (.network venue))

/-- Starts the network thread; whatever throws before that is disconnected. -/
def connectFeed : Call := .either (.start (.network venue)) (disconnectFeed venue)

/-- The body of the network thread. -/
def run : Call := .loop (.push (.rawFrames venue))

/-! ## Managers -/

/-- Stops the feed and then the parser, drops the frames that are left, and tells the
receivers of the gap. -/
def disconnectLocked : Call :=
  sequence [disconnectFeed venue, stopParser venue, .clear (.rawFrames venue),
    .loop (.any onGap)]

/-- Nothing else is done while healthy. A feed that does not connect stops the parser. -/
def connect : Call :=
  .locked (.lifeCycle venue) (sequence
    [disconnectLocked venue, .reset (.rawFrames venue), startParser venue, connectFeed venue,
      stopParser venue])

def disconnect : Call := .locked (.lifeCycle venue) (disconnectLocked venue)

def healthy : Call := briefly (.lifeCycle venue)

/-- Whether the pair is taken is asked before and after its precision is fetched, which is done
without the lock. A receiver whose route is refused is destroyed. -/
def subscribe : Call :=
  sequence [briefly (.lifeCycle venue), .locked (.lifeCycle venue) (.any fun receiver =>
    sequence [makeReceiver receiver, optionally (attach venue), destroyReceiver receiver])]

def unsubscribe : Call :=
  .locked (.lifeCycle venue) (sequence [detach venue, .any destroyReceiver])

def list : Call := briefly (.lifeCycle venue)

/-- Sends the requests of one pair again. -/
def resubscribe : Call := briefly (.lifeCycle venue)

/-- Waits until a pair is queued, and then for as long as that pair has to wait. The lock is
let go of and taken again each time. -/
def awaitPair : Call :=
  .seq (briefly (.resubscribe venue)) (.loop (briefly (.resubscribe venue)))

/-- The body of the resubscriber: its lock is not held while a pair is resubscribed. -/
def resubscribeQueued : Call :=
  .seq (awaitPair venue) (.loop (.seq (resubscribe venue) (awaitPair venue)))

/-- The constructor starts the resubscriber. -/
def makeManager : Call := .start (.resubscriber venue)

/-- The destructor joins the resubscriber and disconnects; then the feed, the parser and the
receivers are destroyed. -/
def destroyManager : Call :=
  sequence [.join (.resubscriber venue), .locked (.lifeCycle venue) (disconnectLocked venue),
    disconnectFeed venue, stopParser venue, .loop (.any destroyReceiver)]

end Venues

/-! ## The outbox -/

/-- Its lock is not held while a watcher is added to the stream that it has found. -/
def watch : Call :=
  sequence [briefly .outbox, .any fun receiver => briefly (.stream receiver)]

def unwatch : Call :=
  sequence [briefly .outbox, .any fun receiver => briefly (.stream receiver)]

/-! ## All threads -/

/-- Calls one function after another, of any venue. -/
def calls : Call :=
  .loop (.any fun venue => .oneOf
    [makeManager venue, destroyManager venue, connect venue, disconnect venue, healthy venue,
      subscribe venue, unsubscribe venue, list venue, watch, unwatch])

/-- All threads. Those of a pipeline fail together, and a writer on its own. -/
def pipeline : Program Mutex Spsc Thread where
  code
    | .caller _ => calls
    | .network venue => run venue
    | .parser venue => drain (.rawFrames venue) (dispatch venue)
    | .resubscriber venue => resubscribeQueued venue
    | .writer receiver => write receiver
  runs
    | .caller _ => true
    | _ => false
  capacity
    | .rawFrames _ => Net.maxQueuedFrames
    | .messages _ => L2.FileWriter.maxQueuedMessages
  consumer
    | .rawFrames venue => .parser venue
    | .messages receiver => .writer receiver
  fails
    | .network venue => some (.rawFrames venue)
    | .parser venue => some (.rawFrames venue)
    | .writer receiver => some (.messages receiver)
    | .caller _ | .resubscriber _ => none

/-- The order in which threads may wait, from what is waited for first down to what is held
last. -/
def rank : Resource Mutex Spsc Thread → Nat
  | .ending (.caller _) => 9
  | .ending (.resubscriber _) => 8
  | .lock (.lifeCycle _) => 7
  | .ending (.network _) => 6
  | .slot (.rawFrames _) => 5
  | .ending (.parser _) => 4
  | .lock (.routes _) => 3
  | .lock .outbox | .lock (.stream _) => 2
  | .slot (.messages _) | .ending (.writer _) => 1
  | .lock (.resubscribe _) => 0

section Below

variable {level : Nat} (venue receiver : Nat)

/-- A call that only takes a lock for a moment stays below its level. -/
theorem below_briefly {mutex : Mutex} (above : rank (.lock mutex) < level) :
    (briefly mutex).Below rank level :=
  ⟨above, trivial⟩

/-- So does one that may be left out. -/
theorem below_optionally {call : Call} (below : call.Below rank level) :
    (optionally call).Below rank level :=
  ⟨trivial, below⟩

/-- So does a sequence of calls that do. -/
theorem below_sequence {steps : List Call} (below : ∀ call ∈ steps, call.Below rank level) :
    (sequence steps).Below rank level := by
  induction steps with
  | nil => trivial
  | cons first rest ih =>
      obtain ⟨head, tail⟩ := List.forall_mem_cons.mp below
      exact below_optionally ⟨head, ih tail⟩

/-- Making a receiver starts the recording's thread or takes the outbox for a while. -/
theorem below_makeReceiver (above : 2 < level) : (makeReceiver receiver).Below rank level :=
  ⟨Nat.lt_trans (by decide : 1 < 2) above, below_briefly above⟩

/-- Handing something to a receiver fills the recording's queue or takes the stream for a while. -/
theorem below_hand (above : 2 < level) : (hand receiver).Below rank level :=
  ⟨Nat.lt_trans (by decide : 1 < 2) above, below_briefly above⟩

/-- Destroying a receiver waits for the outbox, or for the recording's thread. -/
theorem below_destroyReceiver (above : 2 < level) : (destroyReceiver receiver).Below rank level :=
  ⟨Nat.lt_trans (by decide : 1 < 2) above, below_briefly above⟩

/-- A frame is decoded with the routes lock held, and with nothing that waits for that. -/
theorem below_dispatch (above : 3 < level) : (dispatch venue).Below rank level := by
  have inside : 2 < rank (.lock (.routes venue)) := (by decide : 2 < 3)
  refine ⟨above, fun receiver => ⟨below_optionally (below_hand receiver inside), ?_⟩⟩
  apply below_sequence
  simp only [List.forall_mem_cons]
  exact ⟨below_hand receiver inside, below_briefly (by decide : 0 < 3), List.forall_mem_nil _⟩

/-- Starting the parser waits for nothing above it. -/
theorem below_startParser (above : 4 < level) : (startParser venue).Below rank level := by
  apply below_sequence
  simp only [List.forall_mem_cons]
  exact ⟨below_briefly (Nat.lt_trans (by decide : 3 < 4) above), above, List.forall_mem_nil _⟩

/-- Stopping the parser waits for its thread. -/
theorem below_stopParser (above : 4 < level) : (stopParser venue).Below rank level :=
  below_optionally above

/-- Disconnecting the feed waits for the network thread. -/
theorem below_disconnectFeed (above : 6 < level) : (disconnectFeed venue).Below rank level :=
  below_optionally above

/-- Disconnecting waits for both threads, below the life cycle lock. -/
theorem below_disconnectLocked (above : 6 < level) : (disconnectLocked venue).Below rank level := by
  apply below_sequence
  simp only [List.forall_mem_cons]
  refine ⟨below_disconnectFeed venue above, below_stopParser venue (by omega), trivial, ?_,
    List.forall_mem_nil _⟩
  exact fun receiver => below_hand receiver (by omega)

/-- Connecting takes the life cycle lock and disconnects first. -/
theorem below_connect (above : 7 < level) : (connect venue).Below rank level := by
  refine ⟨above, below_sequence ?_⟩
  simp only [List.forall_mem_cons]
  exact ⟨below_disconnectLocked venue (by decide : 6 < 7), trivial,
    below_startParser venue (by decide : 4 < 7),
    ⟨(by decide : 6 < 7), below_disconnectFeed venue (by decide : 6 < 7)⟩,
    below_stopParser venue (by decide : 4 < 7), List.forall_mem_nil _⟩

/-- So does disconnecting from outside. -/
theorem below_disconnect (above : 7 < level) : (disconnect venue).Below rank level :=
  ⟨above, below_disconnectLocked venue (by decide : 6 < 7)⟩

/-- A Subscribe takes the life cycle lock twice. -/
theorem below_subscribe (above : 7 < level) : (subscribe venue).Below rank level := by
  apply below_sequence
  simp only [List.forall_mem_cons]
  refine ⟨below_briefly above, ⟨above, fun receiver => below_sequence ?_⟩, List.forall_mem_nil _⟩
  simp only [List.forall_mem_cons]
  exact ⟨below_makeReceiver receiver (by decide : 2 < 7),
    below_optionally (below_briefly (by decide : 3 < 7)),
    below_destroyReceiver receiver (by decide : 2 < 7), List.forall_mem_nil _⟩

/-- An Unsubscribe takes it once. -/
theorem below_unsubscribe (above : 7 < level) : (unsubscribe venue).Below rank level := by
  refine ⟨above, below_sequence ?_⟩
  simp only [List.forall_mem_cons]
  exact ⟨below_briefly (by decide : 3 < 7),
    fun receiver => below_destroyReceiver receiver (by decide : 2 < 7), List.forall_mem_nil _⟩

/-- The resubscriber takes it for each pair. -/
theorem below_resubscribeQueued (above : 7 < level) :
    (resubscribeQueued venue).Below rank level := by
  have awaits : (awaitPair venue).Below rank level :=
    ⟨below_briefly (Nat.lt_trans (by decide : 0 < 7) above),
      below_briefly (Nat.lt_trans (by decide : 0 < 7) above)⟩
  exact ⟨awaits, below_briefly above, awaits⟩

/-- A manager's destructor waits for its resubscriber, and disconnects. -/
theorem below_destroyManager (above : 8 < level) : (destroyManager venue).Below rank level := by
  apply below_sequence
  simp only [List.forall_mem_cons]
  exact ⟨above, below_disconnect venue (by omega), below_disconnectFeed venue (by omega),
    below_stopParser venue (by omega), fun receiver => below_destroyReceiver receiver (by omega),
    List.forall_mem_nil _⟩

/-- Watching a stream waits for the outbox and the stream. -/
theorem below_watch (above : 2 < level) : watch.Below rank level := by
  apply below_sequence
  simp only [List.forall_mem_cons]
  exact ⟨below_briefly above, fun receiver => below_briefly above, List.forall_mem_nil _⟩

/-- Callers hold nothing between their calls. -/
theorem below_calls (above : 8 < level) : calls.Below rank level := by
  have manager : 7 < level := Nat.lt_of_succ_lt above
  have stream : 2 < level := Nat.lt_trans (by decide) above
  refine fun venue => Code.below_oneOf ?_
  simp only [List.forall_mem_cons]
  exact ⟨above, below_destroyManager venue above, below_connect venue manager,
    below_disconnect venue manager, below_briefly manager, below_subscribe venue manager,
    below_unsubscribe venue manager, below_briefly manager, below_watch stream,
    below_watch stream, List.forall_mem_nil _⟩

end Below

/-- The order in which the threads wait. A parser gives the slots of its queue, and so waits
for nothing above them. -/
def waitOrder : LockOrder pipeline Nat where
  rank := rank
  base
    | .caller number => rank (.ending (.caller number))
    | .network venue => rank (.ending (.network venue))
    | .parser venue => rank (.ending (.parser venue))
    | .resubscriber venue => rank (.ending (.resubscriber venue))
    | .writer receiver => rank (.ending (.writer receiver))
  base_le_ending
    | .caller _ | .network _ | .parser _ | .resubscriber _ | .writer _ => le_rfl
  base_le_slot
    | .rawFrames _ => (by decide : 4 ≤ 5)
    | .messages _ => le_rfl
  below
    | .caller _ => below_calls (by decide : 8 < 9)
    | .network _ => (by decide : 5 < 6)
    | .parser venue => below_dispatch venue (by decide : 3 < 4)
    | .resubscriber venue => below_resubscribeQueued venue (by decide : 7 < 8)
    | .writer _ => trivial

/-- Every thread that waits does so, in the end, for one that can go on or that has left a
full queue. -/
theorem waits_for_going {state : State Mutex Spsc Thread}
    (reachable : (system pipeline).Reachable state) (thread : Thread) :
    ∃ other, Relation.ReflTransGen (Waits pipeline state) thread other ∧
      (state.stack other = none ∨ ∀ choice, step pipeline state (.go other choice) ≠ none) :=
  waitOrder.waits_for_going reachable thread

/-- **The pipeline's threads cannot deadlock.** -/
theorem threads_not_deadlocked {state : State Mutex Spsc Thread}
    (reachable : (system pipeline).Reachable state) : ¬ Deadlocked pipeline state :=
  waitOrder.not_deadlocked reachable

/-- A manager is being destroyed, while its resubscriber is about to resubscribe a pair and
someone else has just begun to disconnect. -/
def waitingRun : List (Action Thread) :=
  [1, 0, 0, 0].map (.go (.caller 0)) ++ [0, 0, 0, 0, 0, 0, 1, 0].map (.go (.resubscriber 0)) ++
    [1, 0, 1, 1, 1, 0, 0].map (.go (.caller 1)) ++ [1, 0, 1, 0, 1, 0].map (.go (.caller 0))

/-- The destructor waits for the resubscriber, and that for the other caller. -/
theorem threads_not_deadlocked_waiting :
    ∃ state, (system pipeline).run waitingRun = some state ∧
      Waits pipeline state (.caller 0) (.resubscriber 0) ∧
        Waits pipeline state (.resubscriber 0) (.caller 1) ∧ ¬ Deadlocked pipeline state := by
  obtain ⟨state, ran⟩ := Option.isSome_iff_exists.mp
    (show ((system pipeline).run waitingRun).isSome = true from rfl)
  refine ⟨state, ran, ?_, ?_, threads_not_deadlocked ⟨waitingRun, ran⟩⟩
  · obtain rfl := Option.some.inj ran
    exact ⟨_, _, .ending (.resubscriber 0), rfl, rfl, rfl, Option.some_ne_none _⟩
  · obtain rfl := Option.some.inj ran
    exact ⟨_, _, .lock (.lifeCycle 0), rfl, rfl, rfl⟩

end DataFeed.Venue.WaitOrder
