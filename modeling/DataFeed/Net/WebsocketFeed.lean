import DataFeed.Foundation.FixedWidth

/-! # A venue's websocket feed

The network thread reads frames off the connection and pushes them into the queue
the parser takes them from. A push waits for a slot unless the pipeline has failed.
The thread is stopped by a flag, and joined by whoever stopped it.
-/

namespace DataFeed.Net

/-- A frame as it came off the socket, and when it was read. -/
structure RawFrame where
  json : String
  captureTimeNs : Int64
  deriving DecidableEq, Repr

/-- Capacity of the queue between the feed and the parser. -/
def maxQueuedFrames : Nat := 256

/-- Where a network thread is. -/
inductive NetworkThread where
  /-- Waits for the next frame, or for the stop flag. -/
  | reading
  /-- Waits for a slot in the queue. -/
  | pushing (frame : RawFrame)
  /-- Has returned, and is to be joined. -/
  | ended
  deriving DecidableEq, Repr

/-- One venue's connection, and the thread that reads from it. -/
structure WebsocketFeed where
  /-- The texts handed to the connection, while there is one. -/
  connection : Option (List String)
  /-- Which connection the network thread reads from. -/
  number : Nat
  stop : Bool
  thread : Option NetworkThread
  deriving DecidableEq, Repr

namespace WebsocketFeed

/-- A feed that has not connected yet. -/
def init : WebsocketFeed := ⟨none, 0, false, none⟩

/-- A new connection, with its network thread. -/
def connect (number : Nat) : WebsocketFeed := ⟨some [], number, false, some .reading⟩

/-- What an attempt to connect that throws leaves. -/
def refused : WebsocketFeed := ⟨none, 0, true, none⟩

/-- The first half of `Disconnect`: tells the network thread to stop. -/
def requestStop (feed : WebsocketFeed) : WebsocketFeed := { feed with stop := true }

/-- The second half of `Disconnect`: waits for the network thread and closes the
connection. -/
def join (feed : WebsocketFeed) : Option WebsocketFeed :=
  match feed.thread with
  | none | some .ended => some { feed with connection := none, thread := none }
  | some .reading | some (.pushing _) => none

/-- Queues a text for the venue. Ignored while there is no connection. -/
def send (feed : WebsocketFeed) (text : String) : WebsocketFeed :=
  { feed with connection := feed.connection.map fun texts => texts ++ [text] }

theorem join_eq {feed joined : WebsocketFeed} (done : feed.join = some joined) :
    joined = { feed with connection := none, thread := none } := by
  unfold join at done
  split at done
  · exact (Option.some.inj done).symm
  · exact (Option.some.inj done).symm
  · exact (Option.some_ne_none _ done.symm).elim
  · exact (Option.some_ne_none _ done.symm).elim

end WebsocketFeed

end DataFeed.Net
