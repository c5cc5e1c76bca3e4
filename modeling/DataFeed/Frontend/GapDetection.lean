import DataFeed.Foundation.History
import DataFeed.Foundation.Numbering
import DataFeed.Frontend.Session

/-! # A client can tell what it missed

Numbers are given out when payloads are queued, frames go out later, and books
are dropped by the length of a queue that grows and shrinks in between. `Sound`
relates the queue to what has happened so far: what was sent out is the beginning
of what was queued, and what was queued is what took a number and was not
dropped. The rest is about numbers alone (`NumberedFrom`).
-/

namespace DataFeed.Frontend

open Foundation

/-- A payload is refused only once the connection is closed. -/
def RefusedWhenClosed (past : List SessionEvent) (event : SessionEvent) : Prop :=
  ∀ payload, event = .refused payload → .closed ∈ past

namespace Session

/-- The queue and its history fit together. -/
structure Sound (session : Session) (log : List SessionEvent) : Prop where
  flight : session.writing = [] ∨
    ∃ front rest, session.outgoing = front :: rest ∧ session.writing = [front]
  backlog : session.outgoing.length ≤ maxBacklogFrames
  waiting : session.closed = false →
    writtenFrames log ++ session.outgoing.drop session.writing.length = queuedFrames log
  sent : writtenFrames log <+: queuedFrames log
  numbered : NumberedFrom SessionEvent.number 0 (numberedEvents log)
  next : session.nextSequence = UInt64.ofNat (numberedEvents log).length
  books : ∀ frame, .dropped frame ∈ log → ∃ book, frame.payload = .book book
  closed : session.closed = true → .closed ∈ log
  refused : Along RefusedWhenClosed log

/-- A new session is sound. -/
theorem Sound.new (opened : Nat) : (Session.new opened).Sound [] where
  flight := Or.inl rfl
  backlog := Nat.zero_le _
  waiting _ := rfl
  sent := List.nil_prefix
  numbered := trivial
  next := rfl
  books _ member := (List.not_mem_nil member).elim
  closed shut := Bool.noConfusion shut
  refused := .nil

/-- An event that neither numbers nor sends a payload. -/
def Inert : SessionEvent → Prop
  | .offered _ => True
  | .refused _ => True
  | .closed => True
  | _ => False

/-- An event that gives out no number keeps the log sound. -/
theorem Sound.inert {session : Session} {log : List SessionEvent} (sound : session.Sound log)
    {event : SessionEvent} (inert : Inert event) (allowed : RefusedWhenClosed log event) :
    session.Sound (log ++ [event]) := by
  have quiet : event.queued? = none ∧ event.written? = none ∧ event.numbered = none ∧
      ∀ frame, event ≠ .dropped frame := by
    cases event with
    | offered payload => exact ⟨rfl, rfl, rfl, fun _ same => SessionEvent.noConfusion same⟩
    | refused payload => exact ⟨rfl, rfl, rfl, fun _ same => SessionEvent.noConfusion same⟩
    | closed => exact ⟨rfl, rfl, rfl, fun _ same => SessionEvent.noConfusion same⟩
    | queued frame => exact inert.elim
    | dropped frame => exact inert.elim
    | written frame sendTimeNs => exact inert.elim
  obtain ⟨queued, written, numbered, kept⟩ := quiet
  refine ⟨sound.flight, sound.backlog, ?_, ?_, ?_, ?_, ?_, ?_, sound.refused.concat allowed⟩
  · rw [queuedFrames_concat, writtenFrames_concat, queued, written, Option.toList_none,
      List.append_nil, List.append_nil]
    exact sound.waiting
  · rw [queuedFrames_concat, writtenFrames_concat, queued, written, Option.toList_none,
      List.append_nil, List.append_nil]
    exact sound.sent
  · rw [numberedEvents_concat, numbered, Option.toList_none, List.append_nil]
    exact sound.numbered
  · rw [numberedEvents_concat, numbered, Option.toList_none, List.append_nil]
    exact sound.next
  · intro frame member
    rcases List.mem_append.mp member with older | here
    · exact sound.books frame older
    · exact (kept frame (List.mem_singleton.mp here).symm).elim
  · exact fun shut => List.mem_append_left _ (sound.closed shut)

/-- An event that gives out the next number. -/
theorem Sound.number {session : Session} {log : List SessionEvent} (sound : session.Sound log)
    (event : SessionEvent) (counts : event.numbered = some event)
    (number : event.number = session.nextSequence) :
    NumberedFrom SessionEvent.number 0 (numberedEvents (log ++ [event])) ∧
      session.nextSequence + 1 = UInt64.ofNat (numberedEvents (log ++ [event])).length := by
  rw [numberedEvents_concat, counts, Option.toList_some, List.length_append,
    List.length_singleton, UInt64.ofNat_add, ← sound.next]
  refine ⟨NumberedFrom.append_iff.mpr ⟨sound.numbered, ?_, trivial⟩, rfl⟩
  rw [Nat.zero_add, number, sound.next]

/-- So does a book that is dropped: it takes the next number. -/
theorem Sound.drop {session : Session} {log : List SessionEvent} (sound : session.Sound log)
    {payload : Payload} (book : ∃ content, payload = .book content) :
    { session with nextSequence := session.nextSequence + 1 : Session }.Sound
      (log ++ [.dropped ⟨session.nextSequence, payload⟩]) := by
  obtain ⟨numbered, next⟩ :=
    sound.number (.dropped ⟨session.nextSequence, payload⟩) rfl rfl
  refine ⟨sound.flight, sound.backlog, ?_, ?_, numbered, next, ?_, ?_,
    sound.refused.concat fun _ same => SessionEvent.noConfusion same⟩
  · rw [queuedFrames_concat, writtenFrames_concat]
    simp only [SessionEvent.queued?, SessionEvent.written?, Option.toList_none, List.append_nil]
    exact sound.waiting
  · rw [queuedFrames_concat, writtenFrames_concat]
    simp only [SessionEvent.queued?, SessionEvent.written?, Option.toList_none, List.append_nil]
    exact sound.sent
  · intro frame member
    rcases List.mem_append.mp member with older | here
    · exact sound.books frame older
    · obtain rfl := SessionEvent.dropped.inj (List.mem_singleton.mp here)
      exact book
  · exact fun shut => List.mem_append_left _ (sound.closed shut)

/-- So does a frame that is queued under the next number. -/
theorem Sound.push {session : Session} {log : List SessionEvent} (sound : session.Sound log)
    (payload : Payload) (now : Nat) (room : session.outgoing.length < maxBacklogFrames) :
    { session with
      outgoing := session.outgoing ++ [⟨session.nextSequence, payload⟩]
      nextSequence := session.nextSequence + 1
      lastEnqueue := now : Session }.Sound
      (log ++ [.queued ⟨session.nextSequence, payload⟩]) := by
  obtain ⟨numbered, next⟩ := sound.number (.queued ⟨session.nextSequence, payload⟩) rfl rfl
  have began : session.writing.length ≤ session.outgoing.length := by
    rcases sound.flight with idle | ⟨front, rest, queue, write⟩
    · rw [idle]
      exact Nat.zero_le _
    · rw [queue, write]
      exact Nat.succ_le_succ (Nat.zero_le _)
  refine ⟨?_, ?_, ?_, ?_, numbered, next, ?_, ?_,
    sound.refused.concat fun _ same => SessionEvent.noConfusion same⟩
  · rcases sound.flight with idle | ⟨front, rest, queue, write⟩
    · exact Or.inl idle
    · exact Or.inr ⟨front, rest ++ [_], by simp only [queue, List.cons_append]; rfl, write⟩
  · rw [List.length_append, List.length_singleton]
    exact room
  · intro opened
    rw [queuedFrames_concat, writtenFrames_concat]
    simp only [SessionEvent.queued?, SessionEvent.written?, Option.toList_none, Option.toList_some,
      List.append_nil]
    rw [List.drop_append_of_le_length began, ← List.append_assoc, sound.waiting opened]
  · rw [queuedFrames_concat, writtenFrames_concat]
    simp only [SessionEvent.written?, Option.toList_none, List.append_nil]
    exact sound.sent.trans (List.prefix_append _ _)
  · intro frame member
    rcases List.mem_append.mp member with older | here
    · exact sound.books frame older
    · exact SessionEvent.noConfusion (List.mem_singleton.mp here)
  · exact fun shut => List.mem_append_left _ (sound.closed shut)

/-- Beginning the next write, none being in flight. -/
theorem Sound.writeFront {session : Session} {log : List SessionEvent}
    (sound : session.Sound log) (opened : session.closed = false) (idle : session.writing = [])
    (now : Clock) :
    (session.writeFront now).1.Sound (log ++ (session.writeFront now).2) := by
  cases queue : session.outgoing with
  | nil =>
      unfold Session.writeFront
      simp only [queue, List.append_nil]
      exact sound
  | cons front rest =>
      rw [writeFront_eq queue]
      have waiting := sound.waiting opened
      rw [queue, idle, List.length_nil, List.drop_zero] at waiting
      have all : writtenFrames (log ++ [.written front now.unix]) ++ rest =
          queuedFrames (log ++ [.written front now.unix]) := by
        rw [queuedFrames_concat, writtenFrames_concat]
        simp only [SessionEvent.queued?, SessionEvent.written?, Option.toList_none,
          Option.toList_some, List.append_nil, List.append_assoc, List.singleton_append, waiting]
      have numbered : numberedEvents (log ++ [.written front now.unix]) = numberedEvents log := by
        rw [numberedEvents_concat]
        exact List.append_nil _
      refine ⟨?_, ?_, ?_, ⟨rest, all⟩, ?_, ?_, ?_, ?_,
        sound.refused.concat fun _ same => SessionEvent.noConfusion same⟩
      · exact Or.inr ⟨front, rest, queue, by rw [idle, List.nil_append]⟩
      · exact sound.backlog
      · intro _
        simp only [idle, queue, List.nil_append, List.length_singleton, List.drop_one,
          List.tail_cons]
        exact all
      · rw [numbered]
        exact sound.numbered
      · rw [numbered]
        exact sound.next
      · intro frame member
        rcases List.mem_append.mp member with older | here
        · exact sound.books frame older
        · exact SessionEvent.noConfusion (List.mem_singleton.mp here)
      · exact fun shut => List.mem_append_left _ (sound.closed shut)

/-- So does closing. -/
theorem Sound.close {session : Session} {log : List SessionEvent} (sound : session.Sound log) :
    session.close.1.Sound (log ++ session.close.2) := by
  unfold Session.close
  by_cases shut : session.closed = true
  · rw [if_pos shut, List.append_nil]
    exact sound
  · rw [if_neg shut]
    have closing : session.Sound (log ++ [.closed]) :=
      sound.inert trivial fun _ same => SessionEvent.noConfusion same
    exact { closing with
      waiting := fun opened => Bool.noConfusion opened
      closed := fun _ => List.mem_append_right _ (List.mem_singleton_self _) }

/-- So does queueing, with the write that it may begin. -/
theorem Sound.pushBack {session : Session} {log : List SessionEvent} (sound : session.Sound log)
    (opened : session.closed = false) (room : session.outgoing.length < maxBacklogFrames)
    (payload : Payload) (now : Clock) :
    (session.pushBack payload now).1.Sound (log ++ (session.pushBack payload now).2) := by
  have pushed := sound.push payload now.steady room
  unfold Session.pushBack
  dsimp only
  split
  · rename_i alone
    have idle : session.writing = [] := by
      rcases sound.flight with idle | ⟨front, rest, queue, _⟩
      · exact idle
      · rw [queue, List.length_append, List.length_cons, List.length_singleton] at alone
        omega
    rw [List.append_cons log]
    exact pushed.writeFront opened idle now
  · exact pushed

/-- So does a payload, however it is decided on. -/
theorem Sound.enqueue {session : Session} {log : List SessionEvent} (sound : session.Sound log)
    (payload : Payload) (now : Clock) :
    (session.enqueue payload now).1.Sound (log ++ (session.enqueue payload now).2) := by
  have offered : session.Sound (log ++ [.offered payload]) :=
    sound.inert trivial fun _ same => SessionEvent.noConfusion same
  unfold Session.enqueue
  by_cases shut : session.closed = true
  · rw [if_pos shut, List.append_cons log]
    exact offered.inert trivial fun _ _ => List.mem_append_left _ (sound.closed shut)
  · rw [if_neg shut]
    have opened := Bool.of_not_eq_true shut
    split
    · rename_i full
      rw [List.append_cons log]
      exact offered.drop (Payload.fieldNumber_eq_book_iff.mp full.2)
    · split
      · have closing := offered.close
        have shut : session.close.1.closed = true := by
          unfold Session.close
          rw [if_neg (by rw [opened]; exact Bool.false_ne_true)]
        dsimp only
        rw [List.cons_append, List.append_cons log, ← List.append_assoc]
        exact closing.inert trivial fun _ _ => closing.closed shut
      · rename_i notBook notFull
        rw [List.append_cons log]
        refine offered.pushBack opened ?_ payload now
        by_contra full
        have most : maxQueuedFrames ≤ maxBacklogFrames := by decide
        exact notFull ⟨by omega, by omega⟩

/-- A write ended and left the queue's front frame sent. -/
theorem Sound.pop {session : Session} {log : List SessionEvent} (sound : session.Sound log)
    (busy : session.writing ≠ []) :
    { session with
      writing := session.writing.tail, outgoing := session.outgoing.tail : Session }.Sound log := by
  obtain ⟨front, rest, queue, write⟩ := sound.flight.resolve_left busy
  refine { sound with flight := ?_, backlog := ?_, waiting := ?_ }
  · exact Or.inl (by rw [write, List.tail_cons])
  · have backlog := sound.backlog
    rw [queue, List.length_cons] at backlog
    rw [queue, List.tail_cons]
    exact Nat.le_of_succ_le backlog
  · intro opened
    have waiting := sound.waiting opened
    rw [queue, write, List.length_singleton, List.drop_one, List.tail_cons] at waiting
    rw [queue, write, List.tail_cons, List.tail_cons, List.length_nil, List.drop_zero]
    exact waiting

/-- A write failed, and the connection closes. -/
theorem Sound.fail {session : Session} {log : List SessionEvent} (sound : session.Sound log)
    (busy : session.writing ≠ []) :
    { session with writing := session.writing.tail : Session }.close.1.Sound
      (log ++ { session with writing := session.writing.tail : Session }.close.2) := by
  obtain ⟨front, rest, queue, write⟩ := sound.flight.resolve_left busy
  have closing := sound.close
  unfold Session.close at closing ⊢
  dsimp only
  by_cases shut : session.closed = true
  · simp only [shut, ↓reduceIte] at closing ⊢
    exact { closing with
      flight := Or.inl (by rw [write, List.tail_cons])
      waiting := fun opened => Bool.noConfusion opened
      closed := fun _ => closing.closed shut }
  · simp only [shut, Bool.false_eq_true, ↓reduceIte] at closing ⊢
    exact { closing with
      flight := Or.inl (by rw [write, List.tail_cons])
      waiting := fun opened => Bool.noConfusion opened }

/-- So does the end of a write. -/
theorem Sound.wrote {session : Session} {log : List SessionEvent} (sound : session.Sound log)
    (busy : session.writing ≠ []) (failed : Bool) (now : Clock) :
    (session.wrote failed now).1.Sound (log ++ (session.wrote failed now).2) := by
  have popped := sound.pop busy
  have idle : session.writing.tail = [] := by
    obtain ⟨front, rest, _, write⟩ := sound.flight.resolve_left busy
    rw [write, List.tail_cons]
  unfold Session.wrote
  dsimp only
  split
  · exact sound.fail busy
  · split
    · rename_i more
      have opened : session.closed = false := by
        simpa only [Bool.not_eq_eq_eq_not, Bool.not_true] using (Bool.and_eq_true_iff.mp more).1
      exact popped.writeFront opened idle now
    · rw [List.append_nil]
      exact popped

/-- The heartbeat timer has no part in the queue. -/
theorem Sound.arm {session : Session} {log : List SessionEvent} (sound : session.Sound log)
    (armed : Bool) : { session with armed := armed : Session }.Sound log :=
  { sound with }

/-- So does the timer. -/
theorem Sound.heartbeat {session : Session} {log : List SessionEvent} (sound : session.Sound log)
    (failed : Bool) (now : Clock) :
    (session.heartbeat failed now).1.Sound (log ++ (session.heartbeat failed now).2) := by
  have fired := sound.arm false
  unfold Session.heartbeat
  dsimp only
  split
  · rw [List.append_nil]
    exact fired
  · split
    · split
      · exact fired.enqueue .heartbeat now
      · exact (fired.enqueue .heartbeat now).arm true
    · split
      · rw [List.append_nil]
        exact fired
      · rw [List.append_nil]
        exact fired.arm true

/-- So does every handler. -/
theorem Sound.handle {session : Session} {log : List SessionEvent} (sound : session.Sound log)
    {handler : Handler} {next : Session × List SessionEvent}
    (handled : session.handle handler = some next) : next.1.Sound (log ++ next.2) := by
  cases handler with
  | enqueue payload now =>
      obtain rfl := Option.some.inj handled
      exact sound.enqueue payload now
  | wrote failed now =>
      simp only [Session.handle] at handled
      split at handled
      · contradiction
      · rename_i busy
        obtain rfl := Option.some.inj handled
        exact sound.wrote busy failed now
  | heartbeat failed now =>
      simp only [Session.handle] at handled
      split at handled
      · obtain rfl := Option.some.inj handled
        exact sound.heartbeat failed now
      · contradiction
  | begun failed =>
      obtain rfl := Option.some.inj handled
      unfold Session.begun
      split
      · exact sound.close
      · rw [List.append_nil]
        exact sound.arm true
  | close =>
      obtain rfl := Option.some.inj handled
      exact sound.close

/-- Closing decides on no payload. -/
theorem settled_close (session : Session) :
    settledPayloads session.close.2 = [] ∧ offeredPayloads session.close.2 = [] := by
  unfold Session.close
  split <;> exact ⟨rfl, rfl⟩

/-- Neither does beginning a write. -/
theorem settled_writeFront (session : Session) (now : Clock) :
    settledPayloads (session.writeFront now).2 = [] ∧
      offeredPayloads (session.writeFront now).2 = [] := by
  unfold Session.writeFront
  split <;> exact ⟨rfl, rfl⟩

/-- Queueing decides on the payload it is given, and on no other. -/
theorem settled_enqueue (session : Session) (payload : Payload) (now : Clock) :
    settledPayloads (session.enqueue payload now).2 = [payload] ∧
      offeredPayloads (session.enqueue payload now).2 = [payload] := by
  unfold Session.enqueue
  split
  · exact ⟨rfl, rfl⟩
  · split
    · exact ⟨rfl, rfl⟩
    · split
      · obtain ⟨settled, offered⟩ := session.settled_close
        unfold settledPayloads at settled ⊢
        unfold offeredPayloads at offered ⊢
        simp only [List.cons_append, List.filterMap_cons, List.filterMap_append,
          SessionEvent.settled?, SessionEvent.offered?, settled, offered, List.filterMap_nil,
          List.nil_append, and_self]
      · unfold Session.pushBack
        dsimp only
        split
        · have pushed := settled_writeFront { session with
            outgoing := session.outgoing ++ [⟨session.nextSequence, payload⟩]
            nextSequence := session.nextSequence + 1
            lastEnqueue := now.steady } now
          obtain ⟨settled, offered⟩ := pushed
          unfold settledPayloads at settled ⊢
          unfold offeredPayloads at offered ⊢
          simp only [List.filterMap_cons, SessionEvent.settled?, SessionEvent.offered?, settled,
            offered, and_self]
        · exact ⟨rfl, rfl⟩

/-- Every payload a handler offers is decided on by the time it ends. -/
theorem settled_handle {session : Session} {handler : Handler}
    {next : Session × List SessionEvent} (handled : session.handle handler = some next) :
    settledPayloads next.2 = offeredPayloads next.2 := by
  have closing : ∀ other : Session, settledPayloads other.close.2 = offeredPayloads other.close.2 :=
    fun other => other.settled_close.1.trans other.settled_close.2.symm
  cases handler with
  | enqueue payload now =>
      obtain rfl := Option.some.inj handled
      exact (session.settled_enqueue payload now).1.trans
        (session.settled_enqueue payload now).2.symm
  | wrote failed now =>
      simp only [Session.handle] at handled
      split at handled
      · contradiction
      · obtain rfl := Option.some.inj handled
        unfold Session.wrote
        dsimp only
        split
        · exact closing _
        · split
          · exact (settled_writeFront _ now).1.trans (settled_writeFront _ now).2.symm
          · rfl
  | heartbeat failed now =>
      simp only [Session.handle] at handled
      split at handled
      · obtain rfl := Option.some.inj handled
        unfold Session.heartbeat
        dsimp only
        split
        · rfl
        · split
          · exact (settled_enqueue _ .heartbeat now).1.trans
              (settled_enqueue _ .heartbeat now).2.symm
          · rfl
      · contradiction
  | begun failed =>
      obtain rfl := Option.some.inj handled
      unfold Session.begun
      split
      · exact closing session
      · rfl
  | close =>
      obtain rfl := Option.some.inj handled
      exact closing session

/-- What holds of a session and its history in every state it can reach. -/
theorem Sound.reachable {opened : Nat} {state : Logged}
    (reachable : (system opened).Reachable state) :
    state.1.Sound state.2 ∧ settledPayloads state.2 = offeredPayloads state.2 := by
  apply reachable.invariant
  · exact ⟨Sound.new opened, rfl⟩
  · intro state handler next held stepped
    obtain ⟨handled, done, rfl⟩ := Option.map_eq_some_iff.mp stepped
    refine ⟨held.1.handle done, ?_⟩
    have settled := settled_handle done
    unfold settledPayloads offeredPayloads at settled held ⊢
    rw [List.filterMap_append, List.filterMap_append, held.2, settled]

/-- Two frames sent out one after the other stand for the events that queued them, and
only drops of books lie between, as many as the numbers skip. -/
def SkipsBooks (log : List SessionEvent) : Prop :=
  ∀ before first second after, writtenFrames log = before ++ first :: second :: after →
    ∃ earlier dropped later,
      numberedEvents log = earlier ++ .queued first :: (dropped ++ .queued second :: later) ∧
      (∀ event ∈ dropped, ∃ sequence book, event = .dropped ⟨sequence, .book book⟩) ∧
      second.sequence.toNat = first.sequence.toNat + dropped.length + 1

/-- Frames sent out one after the other with consecutive numbers are all that took a
number from the first to the last of them. -/
def CompleteWhenConsecutive (log : List SessionEvent) : Prop :=
  ∀ before block after, writtenFrames log = before ++ block ++ after →
    block.IsChain (fun first second => second.sequence = first.sequence + 1) →
      ∃ earlier later, numberedEvents log = earlier ++ block.map .queued ++ later

/-- A queued frame has the number that its event gives out. -/
theorem label_queued : ∀ (event : SessionEvent) (frame : Outgoing),
    event.queued? = some frame → frame.sequence = event.number := by
  intro event frame queued
  cases event with
  | queued stored =>
      obtain rfl := Option.some.inj queued
      rfl
  | _ => exact (Option.some_ne_none _ queued.symm).elim

/-- Only queueing puts a frame in the queue. -/
theorem eq_queued {event : SessionEvent} {frame : Outgoing} (queued : event.queued? = some frame) :
    event = .queued frame := by
  cases event with
  | queued stored =>
      obtain rfl := Option.some.inj queued
      rfl
  | _ => exact (Option.some_ne_none _ queued.symm).elim

/-- Events that each queue a frame are those of the frames. -/
theorem eq_map_queued {events : List SessionEvent} {frames : List Outgoing}
    (queued : events.map SessionEvent.queued? = frames.map some) :
    events = frames.map .queued := by
  induction events generalizing frames with
  | nil =>
      rw [List.map_nil, eq_comm, List.map_eq_nil_iff] at queued
      rw [queued, List.map_nil]
  | cons event rest ih =>
      cases frames with
      | nil => exact (List.cons_ne_nil _ _ queued).elim
      | cons frame frames =>
          obtain ⟨here, tail⟩ := List.cons.inj queued
          rw [List.map_cons, eq_queued here, ih tail]

/-- An event that takes a number and queues nothing drops a book. -/
theorem Sound.dropped {session : Session} {log : List SessionEvent} (sound : session.Sound log)
    {event : SessionEvent} (member : event ∈ numberedEvents log) (skipped : event.queued? = none) :
    ∃ sequence book, event = .dropped ⟨sequence, .book book⟩ := by
  obtain ⟨source, listed, same⟩ := List.mem_filterMap.mp member
  cases source with
  | queued frame =>
      obtain rfl := Option.some.inj same
      exact (Option.some_ne_none _ skipped).elim
  | dropped frame =>
      obtain rfl := Option.some.inj same
      obtain ⟨book, content⟩ := sound.books frame listed
      exact ⟨frame.sequence, book, by rw [← content]⟩
  | _ => exact (Option.some_ne_none _ same.symm).elim

/-- Between two frames the numbers that are skipped are those of dropped books. -/
theorem Sound.skipsBooks {session : Session} {log : List SessionEvent} (sound : session.Sound log)
    (few : (numberedEvents log).length ≤ UInt64.size) : SkipsBooks log := by
  intro before first second after adjacent
  obtain ⟨waiting, queued⟩ := sound.sent
  rw [← filterMap_numberedEvents, adjacent, List.append_assoc, List.cons_append,
    List.cons_append] at queued
  obtain ⟨earlier, left, dropped, right, later, split, keptLeft, out, keptRight, skip⟩ :=
    sound.numbered.skipped label_queued (by rwa [Nat.zero_add]) queued.symm
  refine ⟨earlier, dropped, later, ?_, ?_, skip⟩
  · rw [split, eq_queued keptLeft, eq_queued keptRight]
  · intro event member
    refine sound.dropped ?_ (out event member)
    rw [split]
    exact List.mem_append_right _ (List.mem_cons_of_mem _ (List.mem_append_left _ member))

/-- If no number is skipped nothing was dropped in between. -/
theorem Sound.complete {session : Session} {log : List SessionEvent} (sound : session.Sound log)
    (few : (numberedEvents log).length ≤ UInt64.size) : CompleteWhenConsecutive log := by
  intro before block after split chain
  obtain ⟨waiting, queued⟩ := sound.sent
  rw [← filterMap_numberedEvents, split, List.append_assoc] at queued
  obtain ⟨earlier, segment, later, whole, kept⟩ :=
    sound.numbered.consecutive label_queued (by rwa [Nat.zero_add]) queued.symm chain
  refine ⟨earlier, later, ?_⟩
  rw [whole, eq_map_queued kept]

/-- **Gap detection.** In every state a session can reach, one write is in flight at
most, the queue is bounded, frames go out in the order they were queued, and only
a book is dropped while the connection is open. Until the sequence numbers come
round, they increase, skip exactly the books dropped in between, and a client
that sees consecutive numbers has everything that took a number meanwhile. -/
theorem client_detects_gaps (opened : Nat) (session : Session) (log : List SessionEvent)
    (reachable : (system opened).Reachable (session, log)) :
    session.writing.length ≤ 1 ∧
    session.outgoing.length ≤ maxBacklogFrames ∧
    writtenFrames log <+: queuedFrames log ∧
    (session.closed = false →
      writtenFrames log ++ session.outgoing.drop session.writing.length = queuedFrames log) ∧
    settledPayloads log = offeredPayloads log ∧
    (∀ frame, .dropped frame ∈ log → ∃ book, frame.payload = .book book) ∧
    Along RefusedWhenClosed log ∧
    ((numberedEvents log).length ≤ UInt64.size →
      (writtenFrames log).Pairwise (fun first second => first.sequence < second.sequence) ∧
      SkipsBooks log ∧ CompleteWhenConsecutive log) := by
  obtain ⟨sound, settled⟩ := Sound.reachable reachable
  refine ⟨?_, sound.backlog, sound.sent, sound.waiting, settled, sound.books, sound.refused, ?_⟩
  · rcases sound.flight with idle | ⟨front, rest, _, write⟩
    · rw [idle]
      exact Nat.zero_le _
    · rw [write, List.length_singleton]
  · intro few
    refine ⟨?_, sound.skipsBooks few, sound.complete few⟩
    have increasing := sound.numbered.increasing label_queued (by rwa [Nat.zero_add])
    rw [filterMap_numberedEvents] at increasing
    exact increasing.sublist sound.sent.sublist

/-- A heartbeat under a number. -/
def beat (number : Nat) : Outgoing := ⟨UInt64.ofNat number, .heartbeat⟩

/-- A queue that is filled while its first frame is being written. -/
theorem run_fill {count : Nat} (fits : count < maxQueuedFrames) :
    ∃ log, (system 0).run (List.replicate (count + 1) (.enqueue .heartbeat ⟨0, 0⟩)) =
        some ({ new 0 with
          outgoing := (List.range (count + 1)).map beat
          nextSequence := UInt64.ofNat (count + 1)
          writing := [beat 0] }, log) ∧
      writtenFrames log = [beat 0] ∧ (numberedEvents log).length = count + 1 := by
  induction count with
  | zero => exact ⟨_, rfl, rfl, rfl⟩
  | succ count ih =>
      obtain ⟨log, reached, written, numbered⟩ := ih (Nat.lt_of_succ_lt fits)
      refine ⟨log ++ [.offered .heartbeat, .queued (beat (count + 1))], ?_, ?_, ?_⟩
      · have small : ¬ maxQueuedFrames ≤ count + 1 := Nat.not_le.mpr fits
        rw [List.replicate_succ', System.run, System.runFrom_concat, ← System.run, reached,
          Option.bind_some, List.range_succ (n := count + 1), List.map_append]
        simp only [system, handle, enqueue, new, pushBack, List.length_map, List.length_range,
          List.length_append, List.length_singleton, ge_iff_le, small, false_and, if_false,
          Bool.false_eq_true, Nat.succ_ne_zero, Nat.add_eq_right, Option.map_some, List.map_cons,
          List.map_nil, beat, UInt64.ofNat_add]
        rfl
      · unfold writtenFrames at written ⊢
        rw [List.filterMap_append, written]
        rfl
      · unfold numberedEvents at numbered ⊢
        rw [List.filterMap_append, List.length_append, numbered]
        rfl

/-- The frames that wait go out one by one. -/
theorem runFrom_drain {rest : List Outgoing} {front : Outgoing} {session : Session}
    {log : List SessionEvent} (waiting : session.outgoing = front :: rest)
    (writing : session.writing = [front]) (connected : session.closed = false) :
    ∃ final more, (system 0).runFrom (session, log)
        (List.replicate rest.length (.wrote false ⟨0, 0⟩)) = some (final, log ++ more) ∧
      writtenFrames more = rest ∧ numberedEvents more = [] := by
  induction rest generalizing front session log with
  | nil => exact ⟨session, [], by rw [List.append_nil]; rfl, rfl, rfl⟩
  | cons next rest ih =>
      let after : Session := { session with outgoing := next :: rest, writing := [next] }
      have stepped : (system 0).step (session, log) (.wrote false ⟨0, 0⟩) =
          some (after, log ++ [.written next 0]) := by
        simp [system, handle, wrote, writing, waiting, connected, writeFront, after]
      obtain ⟨final, more, reached, written, numbered⟩ :=
        @ih next after (log ++ [.written next 0]) rfl rfl connected
      refine ⟨final, .written next 0 :: more, ?_, ?_, numbered⟩
      · rw [List.length_cons, List.replicate_succ, System.runFrom, stepped, Option.bind_some,
          reached, List.append_assoc, List.singleton_append]
      · exact congrArg (List.cons next) written

/-- A book that comes while the queue is full, one write, and a heartbeat behind it. -/
def crowdedRun (book : Wire.Book) : List Handler :=
  List.replicate maxQueuedFrames (.enqueue .heartbeat ⟨0, 0⟩) ++
    ([.enqueue (.book book) ⟨0, 0⟩, .wrote false ⟨0, 0⟩, .enqueue .heartbeat ⟨0, 0⟩] ++
      List.replicate (maxQueuedFrames - 1) (.wrote false ⟨0, 0⟩))

/-- What the queue's frames are when it is full. -/
theorem range_beat {count : Nat} : (List.range (count + 2)).map beat =
    beat 0 :: beat 1 :: (List.range count).map fun number => beat (number + 2) := by
  simp [List.range_succ_eq_map, Function.comp_def]

/-- The book is dropped, and the frames on both sides of it go out. -/
theorem run_crowded (book : Wire.Book) :
    ∃ session log, (system 0).run (crowdedRun book) = some (session, log) ∧
      .dropped ⟨UInt64.ofNat maxQueuedFrames, .book book⟩ ∈ log ∧
      writtenFrames log =
        (List.range maxQueuedFrames).map beat ++ [beat (maxQueuedFrames + 1)] ∧
      (numberedEvents log).length = maxQueuedFrames + 2 := by
  obtain ⟨count, full⟩ : ∃ count, maxQueuedFrames = count + 2 := ⟨4094, rfl⟩
  obtain ⟨log, reached, written, numbered⟩ :=
    @run_fill (count + 1) (full ▸ Nat.lt_succ_self _)
  let others := (List.range count).map fun number => beat (number + 2)
  let crowded : Session :=
    { new 0 with
      outgoing := beat 1 :: (others ++ [beat (maxQueuedFrames + 1)])
      nextSequence := UInt64.ofNat (maxQueuedFrames + 2)
      writing := [beat 1] }
  let seen : List SessionEvent :=
    [.offered (.book book), .dropped ⟨UInt64.ofNat maxQueuedFrames, .book book⟩,
      .written (beat 1) 0, .offered .heartbeat, .queued (beat (maxQueuedFrames + 1))]
  have middle : (system 0).runFrom
      ({ new 0 with
        outgoing := beat 0 :: beat 1 :: others
        nextSequence := UInt64.ofNat maxQueuedFrames
        writing := [beat 0] }, log)
      [.enqueue (.book book) ⟨0, 0⟩, .wrote false ⟨0, 0⟩, .enqueue .heartbeat ⟨0, 0⟩] =
        some (crowded, log ++ seen) := by
    have length : others.length = count := by simp [others]
    have numbers : UInt64.ofNat count + 2 + 1 + 1 = UInt64.ofNat count + 2 + 2 :=
      UInt64.add_assoc _ 1 1
    simp [System.runFrom, system, handle, enqueue, new, wrote, writeFront, pushBack, length, full,
      Payload.fieldNumber, Payload.bookFieldNumber, crowded, seen, beat, UInt64.ofNat_add, numbers]
  obtain ⟨final, more, drained, sent, silent⟩ :=
    @runFrom_drain _ _ crowded (log ++ seen) rfl rfl rfl
  have length : (others ++ [beat (maxQueuedFrames + 1)]).length = maxQueuedFrames - 1 := by
    simp [others, full]
  refine ⟨final, log ++ seen ++ more, ?_, ?_, ?_, ?_⟩
  · rw [crowdedRun, System.run_append, full, reached, Option.bind_some, System.runFrom_append,
      range_beat, ← full, middle, Option.bind_some, ← length, drained]
  · exact List.mem_append_left _ (List.mem_append_right _ (by simp [seen]))
  · unfold writtenFrames at written sent ⊢
    rw [List.filterMap_append, List.filterMap_append, written, sent, full, range_beat]
    rfl
  · unfold numberedEvents at numbered silent ⊢
    rw [List.filterMap_append, List.filterMap_append, List.length_append, List.length_append,
      numbered, silent, full]
    rfl

/-- A book that is dropped while the queue is full is seen as one number that is skipped. -/
theorem client_detects_gaps_full_queue :
    let book : Wire.Book := ⟨65536, .delta, [⟨10, 1⟩], [], 0, 0, 0⟩
    ∃ session log, (system 0).run (crowdedRun book) = some (session, log) ∧
      .dropped ⟨4096, .book book⟩ ∈ log ∧
      writtenFrames log = (List.range 4096).map beat ++ [beat 4097] ∧
      session.writing.length ≤ 1 ∧ SkipsBooks log ∧ CompleteWhenConsecutive log := by
  intro book
  obtain ⟨session, log, reached, dropped, written, numbered⟩ := run_crowded book
  obtain ⟨writing, _, _, _, _, _, _, numbers⟩ :=
    client_detects_gaps 0 session log ⟨crowdedRun book, reached⟩
  obtain ⟨_, skips, complete⟩ := numbers (by rw [numbered]; decide)
  exact ⟨session, log, reached, dropped, written, writing, skips, complete⟩

/-- A heartbeat that is queued and written, again and again. -/
def beats (count : Nat) : List Handler :=
  (List.replicate count [.enqueue .heartbeat ⟨0, 0⟩, .wrote false ⟨0, 0⟩]).flatten

/-- After each beat the queue is empty again, one number further on. -/
theorem run_beats (count : Nat) :
    ∃ log, (system 0).run (beats count) =
        some ({ new 0 with nextSequence := UInt64.ofNat count }, log) ∧
      writtenFrames log =
        (List.range count).map fun number => ⟨UInt64.ofNat number, .heartbeat⟩ := by
  induction count with
  | zero => exact ⟨[], rfl, rfl⟩
  | succ count ih =>
      obtain ⟨log, reached, written⟩ := ih
      have longer : beats (count + 1) =
          beats count ++ [.enqueue .heartbeat ⟨0, 0⟩, .wrote false ⟨0, 0⟩] := by
        simp only [beats, List.replicate_succ', List.flatten_append, List.flatten_singleton]
      refine ⟨log ++ [.offered .heartbeat, .queued ⟨UInt64.ofNat count, .heartbeat⟩,
        .written ⟨UInt64.ofNat count, .heartbeat⟩ 0] ++ [], ?_, ?_⟩
      · rw [longer, System.run_append, reached, Option.bind_some, UInt64.ofNat_add]
        rfl
      · rw [List.append_nil, List.range_succ, List.map_append, ← written]
        exact List.filterMap_append

/-- The counter has 64 bits, so after that many frames a number is used again. -/
theorem sequence_numbers_come_round :
    ¬ ∀ opened session log, (system opened).Reachable (session, log) →
      (writtenFrames log).Pairwise fun first second => first.sequence < second.sequence := by
  intro increasing
  obtain ⟨log, reached, written⟩ := run_beats (UInt64.size + 1)
  have beats := increasing 0 _ log ⟨_, reached⟩
  rw [written, List.pairwise_map] at beats
  have first : 0 < (List.range (UInt64.size + 1)).length := by
    rw [List.length_range]
    omega
  have last : UInt64.size < (List.range (UInt64.size + 1)).length := by
    rw [List.length_range]
    omega
  have less := List.pairwise_iff_getElem.mp beats 0 (UInt64.size) first last (by decide)
  rw [List.getElem_range, List.getElem_range] at less
  exact absurd less (by decide)

end Session

end DataFeed.Frontend
