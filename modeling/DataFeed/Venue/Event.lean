import Mathlib.Data.List.ReduceOption
import DataFeed.Foundation.History
import DataFeed.L2.Stretch

/-! # What happens in a venue's pipeline

The events of a venue's frames, parser and receivers, in the order in which they
happen. A receiver is named by the order in which it was made, so its name says
which object it is and nothing else.
-/

namespace DataFeed.Venue

open Foundation L2 DataFeed.Core

/-- A receiver object. -/
abbrev ReceiverId := Nat

/-- Which change of a book's subscription a request asks the venue for. -/
inductive BookRequest where
  | subscribe
  | unsubscribe
  deriving DecidableEq, Repr

/-- One thing that happens in a venue's pipeline. -/
inductive Event where
  /-- The parser routes a pair to a receiver, for a subscription at a depth. -/
  | attached (symbol : String) (depth : UInt32) (receiver : ReceiverId)
  /-- The parser stops routing a pair. -/
  | detached (symbol : String)
  /-- The parser starts on a new connection. -/
  | started
  /-- The connection that was up is over. -/
  | ended
  /-- A frame is read off the connection numbered `connection`. -/
  | read (connection : Nat)
  /-- A frame that was read off the connection numbered `connection` is decoded. -/
  | decoded (connection : Nat)
  /-- The decoder emits a book change; `mismatch` says whether the book it
  leaves failed its checksum. -/
  | emitted (message : Message) (mismatch : Bool)
  /-- A receiver's `Receive` is called. -/
  | received (receiver : ReceiverId) (message : Message)
  /-- A receiver's `OnGap` is called. -/
  | gapped (receiver : ReceiverId) (gap : Gap)
  /-- The checksum check's handler is told a pair. -/
  | mismatched (symbol : String)
  /-- A book request is handed to the connection. -/
  | sent (request : BookRequest) (book : BookSpec)
  deriving DecidableEq, Repr

namespace Event

/-- The message an event hands to `receiver`, if it does. -/
def receivedBy? (receiver : ReceiverId) : Event → Option Message
  | received target message => if target = receiver then some message else none
  | _ => none

/-- The message or gap an event brings `receiver`, if it does. -/
def entryOf? (receiver : ReceiverId) : Event → Option Entry
  | received target message => if target = receiver then some (some message) else none
  | gapped target _ => if target = receiver then some none else none
  | _ => none

/-- The depth an event attaches `receiver` at, if it does. -/
def attachedDepth? (receiver : ReceiverId) : Event → Option UInt32
  | attached _ depth target => if target = receiver then some depth else none
  | _ => none

/-- Whether an event leaves a pair silenced: a mismatch does until the pair's next
message. -/
def mutes? (symbol : String) : Event → Option Bool
  | mismatched pair => if pair = symbol then some true else none
  | received _ message => if message.symbol = symbol then some false else none
  | _ => none

end Event

/-- The messages a receiver got, in order. -/
def receivedBy (receiver : ReceiverId) (log : List Event) : List Message :=
  log.filterMap (Event.receivedBy? receiver)

/-- The messages and gaps a receiver got, in order. -/
def entriesOf (receiver : ReceiverId) (log : List Event) : List Entry :=
  log.filterMap (Event.entryOf? receiver)

/-- The depth a receiver was last attached at. -/
def attachedDepth (receiver : ReceiverId) (log : List Event) : Option UInt32 :=
  (log.filterMap (Event.attachedDepth? receiver)).getLast?

/-- A mismatch of a pair was reported, and nothing of it was delivered since. -/
def muted (symbol : String) (log : List Event) : Bool :=
  (log.filterMap (Event.mutes? symbol)).getLast?.getD false

/-- Nothing is received from no events. -/
@[simp] theorem receivedBy_nil (receiver : ReceiverId) : receivedBy receiver [] = [] := rfl

/-- What is received is received in the order of the events. -/
@[simp] theorem receivedBy_append (receiver : ReceiverId) (first second : List Event) :
    receivedBy receiver (first ++ second) = receivedBy receiver first ++ receivedBy receiver second :=
  List.filterMap_append

/-- The first event's part is received first. -/
@[simp] theorem receivedBy_cons (receiver : ReceiverId) (event : Event) (rest : List Event) :
    receivedBy receiver (event :: rest) =
      (event.receivedBy? receiver).toList ++ receivedBy receiver rest := by
  unfold receivedBy
  rw [List.filterMap_cons]
  cases event.receivedBy? receiver <;> rfl

/-- A recorder's entries come in the order of the events. -/
theorem entriesOf_append (receiver : ReceiverId) (first second : List Event) :
    entriesOf receiver (first ++ second) = entriesOf receiver first ++ entriesOf receiver second :=
  List.filterMap_append

/-- The messages a receiver got are what it got without the gaps. -/
theorem reduceOption_entriesOf (receiver : ReceiverId) (log : List Event) :
    (entriesOf receiver log).reduceOption = receivedBy receiver log := by
  unfold entriesOf receivedBy List.reduceOption
  rw [List.filterMap_filterMap]
  congr 1
  funext event
  cases event with
  | received target message =>
      simp only [Event.entryOf?, Event.receivedBy?]
      split <;> rfl
  | gapped target gap =>
      simp only [Event.entryOf?, Event.receivedBy?]
      split <;> rfl
  | _ => rfl

/-- The depth attached last is the one attached. -/
theorem attachedDepth_append (receiver : ReceiverId) (first second : List Event) :
    attachedDepth receiver (first ++ second) =
      (attachedDepth receiver second).or (attachedDepth receiver first) := by
  unfold attachedDepth
  rw [List.filterMap_append, List.getLast?_append]

/-- An attached depth comes from an attachment. -/
theorem mem_of_attachedDepth {receiver : ReceiverId} {log : List Event} {depth : UInt32}
    (found : attachedDepth receiver log = some depth) :
    ∃ symbol, .attached symbol depth receiver ∈ log := by
  obtain ⟨event, member, attaches⟩ := List.mem_filterMap.mp (List.mem_of_getLast? found)
  cases event with
  | attached symbol stored target =>
      simp only [Event.attachedDepth?] at attaches
      split at attaches
      · rename_i same
        obtain rfl := Option.some.inj attaches
        exact ⟨symbol, same ▸ member⟩
      · exact (Option.some_ne_none _ attaches.symm).elim
  | _ => exact (Option.some_ne_none _ attaches.symm).elim

/-- Whether a symbol is muted is decided by the last event that bears on it. -/
theorem muted_append (symbol : String) (first second : List Event) :
    muted symbol (first ++ second) =
      (second.filterMap (Event.mutes? symbol)).getLast?.getD (muted symbol first) := by
  unfold muted
  rw [List.filterMap_append, List.getLast?_append]
  cases (second.filterMap (Event.mutes? symbol)).getLast? <;> rfl

end DataFeed.Venue
