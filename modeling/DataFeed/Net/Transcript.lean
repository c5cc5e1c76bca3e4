import Mathlib.Data.List.Sublists
import DataFeed.Net.Connection

/-! # What a feed writes, logs and queues

A connection has one write in flight, of the text at the front of its outbox, as long as
there is one, and one read. Its texts are written in the order in which they were sent. The
frames that the parser takes are those in the raw logs, in their order.
-/

namespace DataFeed.Net

open Foundation

namespace Connection

/-- The order of the texts, and what is in flight. -/
structure Sound (connection : Connection) : Prop where
  /-- What is being written is the front of the outbox, if there is one. -/
  flight : connection.writing = connection.outbox.head?.toList.map some
  order : (connection.written ++ connection.outbox ++ connection.posted).Sublist connection.sent
  whole : connection.writeError = false →
    connection.written ++ connection.outbox ++ connection.posted = connection.sent

namespace Sound

variable {connection next : Connection}

/-- A new connection is sound. -/
theorem new : Sound .new := ⟨rfl, List.nil_sublist _, fun _ => rfl⟩

/-- Sending on a connection keeps it sound. -/
theorem send (sound : Sound connection) (text : String) : Sound (connection.send text) where
  flight := sound.flight
  order := by
    rw [Connection.send, ← List.append_assoc]
    exact sound.order.append (List.Sublist.refl [text])
  whole fine := by
    rw [Connection.send, ← List.append_assoc, sound.whole fine]

/-- Asking for a read keeps the connection sound. -/
theorem beginRead (sound : Sound connection) : Sound connection.beginRead :=
  ⟨sound.flight, sound.order, sound.whole⟩

/-- A read that ended keeps the connection sound. -/
theorem readEnded (sound : Sound connection) (ran : connection.readEnded = some next) :
    Sound next := by
  unfold Connection.readEnded at ran
  split at ran
  · contradiction
  · obtain rfl := Option.some.inj ran
    exact ⟨sound.flight, sound.order, sound.whole⟩

/-- A posted text goes to the end of the outbox. -/
theorem runPosted (sound : Sound connection) (ran : connection.runPosted = some next) :
    Sound next := by
  unfold Connection.runPosted at ran
  cases waiting : connection.posted with
  | nil =>
      rw [waiting] at ran
      contradiction
  | cons text rest =>
      rw [waiting] at ran
      obtain rfl := Option.some.inj ran
      have moved : connection.written ++ (connection.outbox ++ [text]) ++ rest =
          connection.written ++ connection.outbox ++ connection.posted := by
        rw [waiting, List.append_assoc, List.append_assoc, List.append_assoc,
          List.singleton_append]
      have flight := sound.flight
      split
      · -- The outbox was empty, so nothing was in flight.
        rename_i alone
        have empty : connection.outbox = [] := by
          rw [List.length_append, List.length_singleton] at alone
          exact List.length_eq_zero_iff.mp (by omega)
        rw [empty] at flight moved
        refine ⟨?_, ?_, fun fine => ?_⟩
        · simp only [writeFront, flight, empty, List.head?_nil, Option.toList_none, List.map_nil,
            List.nil_append, List.head?_cons, Option.toList_some, List.map_cons]
        · simp only [writeFront, empty]
          rw [moved]
          exact empty ▸ sound.order
        · simp only [writeFront, empty] at fine ⊢
          rw [moved]
          exact empty ▸ sound.whole fine
      · rename_i others
        obtain ⟨front, later, some_texts⟩ := List.exists_cons_of_ne_nil
          (fun empty : connection.outbox = [] => others (by rw [empty]; rfl))
        refine ⟨?_, ?_, fun fine => ?_⟩
        · rw [flight, some_texts]
          rfl
        · rw [moved]
          exact sound.order
        · rw [moved]
          exact sound.whole fine

/-- A text that is written leaves the outbox, and a failed write empties it. -/
theorem wrote (sound : Sound connection) {success : Bool}
    (ran : connection.wrote success = some next) : Sound next := by
  have flight := sound.flight
  unfold Connection.wrote at ran
  cases queued : connection.outbox with
  | nil =>
      rw [queued] at flight
      rw [show connection.writing = [] from flight] at ran
      contradiction
  | cons text rest =>
      rw [queued] at flight
      rw [show connection.writing = [some text] from flight] at ran
      have order := sound.order
      have whole := sound.whole
      rw [queued] at order whole
      cases success with
      | false =>
          obtain rfl := Option.some.inj ran
          refine ⟨rfl, ?_, fun fine => Bool.noConfusion fine⟩
          refine List.Sublist.trans ?_ order
          rw [List.append_nil]
          exact (List.sublist_append_left _ _).append (List.Sublist.refl _)
      | true =>
          have moved : connection.written ++ [text] ++ rest ++ connection.posted =
              connection.written ++ text :: rest ++ connection.posted := by
            rw [List.append_assoc connection.written, List.singleton_append]
          simp only [queued, ↓reduceIte, List.tail_cons, Option.toList_some, Option.some.injEq]
            at ran
          subst ran
          split
          · rename_i last
            subst last
            exact ⟨rfl, moved ▸ order, fun fine => moved.trans (whole fine)⟩
          · rename_i others
            obtain ⟨front, later, rfl⟩ := List.exists_cons_of_ne_nil others
            exact ⟨rfl, moved ▸ order, fun fine => moved.trans (whole fine)⟩

end Sound

end Connection

namespace Feed

/-- What the lines of the raw logs are, the closed ones first. -/
def lines (feed : Feed) : List String := feed.rawLogs.flatten ++ feed.rawLog.getD []

/-- The frames that were pushed, taken or not, and the one that is about to be. -/
def passed (feed : Feed) : List String :=
  ((feed.consumed ++ feed.frames.map Prod.snd) ++ (feed.thread.bind Place.logged?).toList).map
    RawFrame.json

/-- What the flags are where the network thread is. -/
def Flagged (feed : Feed) : Place → Prop
  | .closing | .stopped => feed.stop = true
  | .failed => feed.failed = true
  | .next | .polling | .running | .completed _ | .stamped _ | .pushing _ | .refused _
  | .thrown => True

/-- What is on the connection where the network thread is. Only `Close` goes on after a
write has failed, and it leaves nothing behind. -/
structure Serves (connection : Connection) (place : Place) : Prop where
  sound : connection.Sound
  reads : place.Reads connection.reads
  failed : connection.writeError = true →
    place = .closing ∨ place = .stopped ∨ place = .thrown ∨ place = .failed
  idle : place = .stopped → connection.Idle

/-- What holds whatever a feed's owner, its thread, the parser and the venue do. -/
structure Sound (feed : Feed) : Prop where
  /-- While there is a connection it has a thread and a raw log. -/
  serves : ∀ connection, feed.connection = some connection →
    feed.rawLog.isSome ∧ ∃ place, feed.thread = some place ∧ Serves connection place
  apart : feed.connection = none → feed.thread = none ∧ feed.rawLog = none
  flagged : ∀ place, feed.thread = some place → feed.Flagged place
  bounded : feed.frames.length ≤ maxQueuedFrames
  logged : feed.passed.Sublist feed.lines
  whole : feed.lost = false → feed.passed = feed.lines

variable {feed next : Feed} {connection : Connection} {place : Place}

/-- Where there is a thread there is a connection. -/
theorem Sound.serving (sound : feed.Sound) (here : feed.thread = some place) :
    ∃ connection, feed.connection = some connection ∧ feed.rawLog.isSome ∧
      Serves connection place := by
  cases found : feed.connection with
  | none =>
      rw [(sound.apart found).1] at here
      contradiction
  | some connection =>
      obtain ⟨log, other, there, serves⟩ := sound.serves connection found
      obtain rfl := Option.some.inj (here.symm.trans there)
      exact ⟨connection, rfl, log, serves⟩

/-- What there is to show while a thread runs. -/
theorem Sound.serve (current : feed.connection = some connection)
    (there : feed.thread = some place) (log : feed.rawLog.isSome)
    (serves : Serves connection place) (flagged : feed.Flagged place)
    (bounded : feed.frames.length ≤ maxQueuedFrames)
    (logged : feed.passed.Sublist feed.lines)
    (whole : feed.lost = false → feed.passed = feed.lines) : feed.Sound := by
  refine ⟨fun other same => ?_, fun none => ?_, fun other here => ?_, bounded, logged, whole⟩
  · obtain rfl := Option.some.inj (current.symm.trans same)
    exact ⟨log, place, there, serves⟩
  · exact (Option.some_ne_none _ (current.symm.trans none)).elim
  · obtain rfl := Option.some.inj (there.symm.trans here)
    exact flagged

/-- The thread is elsewhere, and nothing but its connection has changed. -/
theorem Sound.moved (sound : feed.Sound) (here : feed.thread = some place) (after : Place)
    (serves : Serves connection after) (flagged : feed.Flagged after)
    (same : after.logged? = place.logged?) :
    Sound { feed with connection := some connection, thread := some after } := by
  obtain ⟨_, _, log, _⟩ := sound.serving here
  have passed : passed { feed with connection := some connection, thread := some after } =
      feed.passed := by
    simp only [Feed.passed, here, Option.bind_some, same]
  exact .serve rfl rfl log serves flagged sound.bounded (passed ▸ sound.logged)
    fun kept => passed ▸ sound.whole kept

/-- The thread goes on with the same connection. -/
theorem Sound.goTo (sound : feed.Sound) (here : feed.thread = some place) {after : Place}
    (serves : ∀ connection, Serves connection place → Serves connection after)
    (flagged : feed.Flagged after) (same : after.logged? = place.logged?) :
    (feed.goTo after).Sound := by
  obtain ⟨connection, found, _, served⟩ := sound.serving here
  have moved := sound.moved here after (serves connection served) flagged same
  rwa [← found] at moved

/-- The places where no write has failed. -/
def Going (place : Place) : Prop :=
  place ≠ .closing ∧ place ≠ .stopped ∧ place ≠ .thrown ∧ place ≠ .failed

/-- While the thread goes on, no write has failed. -/
theorem Serves.fine (serves : Serves connection place) (going : Going place) :
    connection.writeError = false := by
  obtain ⟨closing, stopped, thrown, ended⟩ := going
  cases failing : connection.writeError with
  | false => rfl
  | true =>
      rcases serves.failed failing with here | here | here | here
      · exact (closing here).elim
      · exact (stopped here).elim
      · exact (thrown here).elim
      · exact (ended here).elim

/-- While no write has failed the thread may be anywhere. -/
theorem Serves.of_fine (sound : connection.Sound) (fine : connection.writeError = false)
    (reads : place.Reads connection.reads) (running : place ≠ .stopped) :
    Serves connection place :=
  ⟨sound, reads, fun failed => Bool.noConfusion (fine.symm.trans failed),
    fun stopped => (running stopped).elim⟩

/-- From where no write has failed the thread may go on. -/
theorem Serves.goOn (serves : Serves connection place) (going : Going place) {after : Place}
    (reads : after.Reads connection.reads) (running : after ≠ .stopped) :
    Serves connection after :=
  .of_fine serves.sound (serves.fine going) reads running

/-- After a handler in `Next` the thread goes on, or has thrown. -/
theorem Serves.handled {after : Place} (sound : connection.Sound)
    (reads : after.Reads connection.reads) (few : connection.reads ≤ 1)
    (running : after ≠ .stopped) :
    Serves connection (if connection.writeError then .thrown else after) := by
  split
  · rename_i failed
    exact ⟨sound, few, fun _ => .inr (.inr (.inl rfl)), fun stopped => Place.noConfusion stopped⟩
  · rename_i fine
    exact .of_fine sound ((Bool.not_eq_true _).mp fine) reads running

/-- A frame is logged before it is pushed. -/
theorem Sound.log (sound : feed.Sound) {frame : RawFrame}
    (here : feed.thread = some (.stamped frame)) :
    Sound { feed with
      rawLog := feed.rawLog.map (· ++ [frame.json])
      thread := some (.pushing frame) } := by
  obtain ⟨connection, found, log, serves⟩ := sound.serving here
  obtain ⟨written, logging⟩ := Option.isSome_iff_exists.mp log
  have before : feed.passed = (feed.consumed ++ feed.frames.map Prod.snd).map RawFrame.json := by
    simp only [passed, here, Option.bind_some, Place.logged?, Option.toList_none, List.append_nil]
  have passes : passed { feed with
      rawLog := feed.rawLog.map (· ++ [frame.json])
      thread := some (.pushing frame) } = feed.passed ++ [frame.json] := by
    rw [before]
    simp only [passed, Option.bind_some, Place.logged?, Option.toList_some, List.map_append,
      List.map_cons, List.map_nil]
  have longer : lines { feed with
      rawLog := feed.rawLog.map (· ++ [frame.json])
      thread := some (.pushing frame) } = feed.lines ++ [frame.json] := by
    simp only [lines, logging, Option.map_some, Option.getD_some, List.append_assoc]
  refine .serve found rfl (Option.isSome_map.trans log) (serves.goOn (by simp [Going])
    serves.reads (by simp)) trivial sound.bounded ?_ fun kept => ?_
  · rw [passes, longer]
    exact sound.logged.append (List.Sublist.refl _)
  · rw [passes, longer, sound.whole kept]

/-- A frame that is pushed is the last one in the queue. -/
theorem Sound.push (sound : feed.Sound) {frame : RawFrame}
    (here : feed.thread = some (.pushing frame)) (room : feed.frames.length < maxQueuedFrames) :
    Sound { feed with
      frames := feed.frames ++ [(feed.number, frame)]
      thread := some .next } := by
  obtain ⟨connection, found, log, serves⟩ := sound.serving here
  have passes : passed { feed with
      frames := feed.frames ++ [(feed.number, frame)]
      thread := some .next } = feed.passed := by
    simp only [passed, here, Option.bind_some, Place.logged?, Option.toList_some,
      Option.toList_none, List.append_nil, List.map_append, List.map_cons, List.map_nil,
      List.append_assoc]
  refine .serve found rfl log (serves.goOn (by simp [Going]) serves.reads (by simp)) trivial ?_
    (passes ▸ sound.logged) fun kept => passes ▸ sound.whole kept
  rw [List.length_append]
  exact room

/-- A frame that is given up is lost. -/
theorem Sound.giveUp (sound : feed.Sound) {frame : RawFrame}
    (here : feed.thread = some (.refused frame)) :
    Sound { feed with thread := some .next, lost := true } := by
  obtain ⟨connection, found, log, serves⟩ := sound.serving here
  refine .serve found rfl log (serves.goOn (by simp [Going]) serves.reads (by simp)) trivial
    sound.bounded ?_ fun kept => Bool.noConfusion kept
  refine List.Sublist.trans ?_ sound.logged
  simp only [passed, here, Option.bind_some, Place.logged?, Option.toList_some,
    Option.toList_none, List.append_nil, List.map_append]
  exact List.sublist_append_left _ _

/-- An exception marks the pipeline. -/
theorem Sound.caught (sound : feed.Sound) (here : feed.thread = some .thrown) :
    Sound { feed with failed := true, thread := some .failed } := by
  obtain ⟨connection, found, log, serves⟩ := sound.serving here
  have same : passed { feed with failed := true, thread := some .failed } = feed.passed := by
    simp only [passed, here, Option.bind_some, Place.logged?]
  exact .serve found rfl log ⟨serves.sound, serves.reads, fun _ => .inr (.inr (.inr rfl)),
      fun stopped => Place.noConfusion stopped⟩ rfl sound.bounded (same ▸ sound.logged)
    fun kept => same ▸ sound.whole kept

/-- What the thread does of its own. -/
theorem Sound.go (sound : feed.Sound) (here : feed.thread = some place)
    (went : feed.go place = some next) : next.Sound := by
  obtain ⟨connection, found, log, serves⟩ := sound.serving here
  cases place with
  | next =>
      rw [Feed.go, found] at went
      obtain rfl := Option.some.inj went
      have none_pending : connection.reads = 0 := serves.reads
      refine sound.moved here .polling
        (.of_fine serves.sound.beginRead (serves.fine (by simp [Going])) ?_ (by simp)) trivial rfl
      show connection.reads + 1 = 1
      rw [none_pending]
  | polling =>
      obtain rfl := Option.some.inj went
      split
      · rename_i stop
        refine sound.goTo here (fun connection serves => ?_) stop rfl
        exact serves.goOn (by simp [Going]) (Nat.le_of_eq serves.reads) (by simp)
      · exact sound.goTo here (fun connection serves => serves.goOn (by simp [Going]) serves.reads
          (by simp)) trivial rfl
  | running => contradiction
  | completed frame =>
      cases frame with
      | some json => contradiction
      | none =>
          obtain rfl := Option.some.inj went
          refine sound.goTo here (fun connection serves => ?_) trivial rfl
          have none_pending : connection.reads = 0 := serves.reads
          exact serves.goOn (by simp [Going]) (show connection.reads ≤ 1 by omega) (by simp)
  | closing =>
      rw [Feed.go, found, Option.bind_some] at went
      split at went
      · rename_i idle
        obtain rfl := Option.some.inj went
        have moved := sound.moved here .stopped
          ⟨serves.sound, idle.2.2, fun _ => .inr (.inl rfl), fun _ => idle⟩
          (sound.flagged .closing here) rfl
        rwa [← found] at moved
      · contradiction
  | stamped frame =>
      obtain rfl := Option.some.inj went
      exact sound.log here
  | pushing frame =>
      rw [Feed.go] at went
      split at went
      · rename_i room
        obtain rfl := Option.some.inj went
        exact sound.push here room
      · obtain rfl := Option.some.inj went
        exact sound.goTo here (fun connection serves => serves.goOn (by simp [Going]) serves.reads
          (by simp)) trivial rfl
  | refused frame =>
      rw [Feed.go] at went
      split at went
      · obtain rfl := Option.some.inj went
        exact sound.giveUp here
      · obtain rfl := Option.some.inj went
        exact sound.goTo here (fun connection serves => serves.goOn (by simp [Going]) serves.reads
          (by simp)) trivial rfl
  | thrown =>
      obtain rfl := Option.some.inj went
      exact sound.caught here
  | stopped => contradiction
  | failed => contradiction

/-- A handler runs in `Next` or in `Close`. -/
theorem Sound.handle (sound : feed.Sound) (here : feed.thread = some place)
    {handler : Connection → Option Connection} (after : Place)
    (keeps : ∀ before later, before.Sound → handler before = some later → later.Sound)
    (reads : ∀ before later, handler before = some later → before.reads ≤ 1 →
      later.reads ≤ 1 ∧ (before.reads = 1 → after.Reads later.reads))
    (running : after ≠ .stopped) (unflagged : feed.Flagged after) (unlogged : after.logged? = none)
    (handled : feed.handle place after (feed.connection.bind handler) = some next) :
    next.Sound := by
  obtain ⟨connection, found, log, serves⟩ := sound.serving here
  rw [found, Option.bind_some] at handled
  cases place with
  | running =>
      obtain ⟨later, ran, rfl⟩ := Option.map_eq_some_iff.mp handled
      have pending : connection.reads = 1 := serves.reads
      obtain ⟨few, there⟩ := reads connection later ran (Nat.le_of_eq pending)
      refine sound.moved here _ (.handled (keeps connection later serves.sound ran) (there pending)
        few running) ?_ ?_
      · split
        · trivial
        · exact unflagged
      · split
        · rfl
        · exact unlogged
  | closing =>
      obtain ⟨later, ran, rfl⟩ := Option.map_eq_some_iff.mp handled
      obtain ⟨few, _⟩ := reads connection later ran serves.reads
      have moved := sound.moved here .closing
        ⟨keeps connection later serves.sound ran, few, fun _ => .inl rfl, by simp⟩
        (sound.flagged .closing here) rfl
      rwa [← here] at moved
  | _ => contradiction

/-- A step of the network thread. -/
theorem Sound.move (sound : feed.Sound) (here : feed.thread = some place) {move : Move}
    (moved : feed.move place move = some next) : next.Sound := by
  cases move with
  | go => exact sound.go here moved
  | timeout =>
      cases place with
      | running =>
          obtain rfl := Option.some.inj moved
          exact sound.goTo here (fun connection serves => serves.goOn (by simp [Going])
            serves.reads (by simp)) trivial rfl
      | _ => contradiction
  | posted =>
      have same : ∀ before later : Connection, before.runPosted = some later →
          later.reads = before.reads := fun before later ran => by
        unfold Connection.runPosted at ran
        split at ran
        · contradiction
        · obtain rfl := Option.some.inj ran
          split <;> rfl
      exact sound.handle here .polling (fun _ _ sound ran => sound.runPosted ran)
        (fun before later ran few => ⟨(same before later ran).trans_le few,
          (same before later ran).trans⟩) (by simp) trivial rfl moved
  | wrote success =>
      have same : ∀ before later : Connection, before.wrote success = some later →
          later.reads = before.reads := fun before later ran => by
        unfold Connection.wrote at ran
        split at ran
        · contradiction
        · split at ran
          · obtain rfl := Option.some.inj ran
            split <;> rfl
          · obtain rfl := Option.some.inj ran
            rfl
      exact sound.handle here .polling (fun _ _ sound ran => sound.wrote ran)
        (fun before later ran few => ⟨(same before later ran).trans_le few,
          (same before later ran).trans⟩) (by simp) trivial rfl moved
  | read frame =>
      have less : ∀ before later : Connection, before.readEnded = some later →
          later.reads = before.reads - 1 := fun before later ran => by
        unfold Connection.readEnded at ran
        split at ran
        · contradiction
        · obtain rfl := Option.some.inj ran
          rfl
      refine sound.handle here (.completed frame) (fun _ _ sound ran => sound.readEnded ran)
        (fun before later ran few => ?_) (by simp) trivial rfl moved
      rw [less before later ran]
      exact ⟨(Nat.sub_le _ _).trans few, fun one => by rw [one]; rfl⟩
  | stamp nowNs =>
      cases place with
      | completed frame =>
          cases frame with
          | none => contradiction
          | some json =>
              obtain rfl := Option.some.inj moved
              exact sound.goTo here (fun connection serves => serves.goOn (by simp [Going])
                serves.reads (by simp)) trivial rfl
      | _ => contradiction

/-- A new connection has a new raw log. -/
theorem Sound.connect (sound : feed.Sound) (closed : feed.connection = none) (number : Nat) :
    Sound { feed with
      connection := some .new
      number := number
      stop := false
      thread := some .next
      rawLog := some [] } := by
  obtain ⟨gone, shut⟩ := sound.apart closed
  have passes : passed { feed with
      connection := some .new
      number := number
      stop := false
      thread := some .next
      rawLog := some [] } = feed.passed := by
    simp only [passed, gone, Option.bind_some, Option.bind_none, Place.logged?]
  have same : lines { feed with
      connection := some .new
      number := number
      stop := false
      thread := some .next
      rawLog := some [] } = feed.lines := by
    simp only [lines, shut, Option.getD_some, Option.getD_none]
  refine .serve rfl rfl rfl (.of_fine .new rfl rfl (by simp)) trivial sound.bounded ?_
    fun kept => ?_
  · rw [passes, same]
    exact sound.logged
  · rw [passes, same]
    exact sound.whole kept

/-- What there is to show without a connection. -/
theorem Sound.shut (closed : next.connection = none) (gone : next.thread = none)
    (log : next.rawLog = none) (bounded : next.frames.length ≤ maxQueuedFrames)
    (logged : next.passed.Sublist next.lines)
    (whole : next.lost = false → next.passed = next.lines) : next.Sound := by
  refine ⟨fun _ some => ?_, fun _ => ⟨gone, log⟩, fun _ some => ?_, bounded, logged, whole⟩
  · exact (Option.some_ne_none _ (some.symm.trans closed)).elim
  · exact (Option.some_ne_none _ (some.symm.trans gone)).elim

/-- A raw log that is closed stays as it is. -/
theorem Sound.join (sound : feed.Sound) (ended : joinable feed.thread = true) :
    Sound { feed with
      connection := none
      thread := none
      rawLog := none
      rawLogs := feed.rawLogs ++ feed.rawLog.toList } := by
  have passes : passed { feed with
      connection := none
      thread := none
      rawLog := none
      rawLogs := feed.rawLogs ++ feed.rawLog.toList } = feed.passed := by
    cases here : feed.thread with
    | none => simp only [passed, here]
    | some place =>
        rw [here] at ended
        cases place with
        | stopped | failed => simp only [passed, here, Option.bind_none, Option.bind_some,
            Place.logged?]
        | _ => contradiction
  have same : lines { feed with
      connection := none
      thread := none
      rawLog := none
      rawLogs := feed.rawLogs ++ feed.rawLog.toList } = feed.lines := by
    cases log : feed.rawLog with
    | none => simp only [lines, log, Option.toList_none, List.append_nil]
    | some written =>
        simp only [lines, log, Option.toList_some, List.flatten_append, List.flatten_singleton,
          Option.getD_none, Option.getD_some, List.append_nil]
  refine .shut rfl rfl rfl sound.bounded ?_ fun kept => ?_
  · rw [passes, same]
    exact sound.logged
  · rw [passes, same]
    exact sound.whole kept

/-- Frames that leave the queue without being taken are no longer among those passed on. -/
theorem Sound.discard (sound : feed.Sound) (closed : feed.connection = none) :
    Sound { feed with frames := [], lost := feed.lost || !feed.frames.isEmpty } := by
  obtain ⟨gone, shut⟩ := sound.apart closed
  have fewer : (passed { feed with
      frames := []
      lost := feed.lost || !feed.frames.isEmpty }).Sublist feed.passed := by
    simp only [passed, gone, Option.bind_none, Option.toList_none, List.append_nil, List.map_nil,
      List.map_append]
    exact List.sublist_append_left _ _
  refine .shut closed gone shut (Nat.zero_le _) (fewer.trans sound.logged) fun kept => ?_
  obtain ⟨before, empty⟩ := Bool.or_eq_false_iff.mp kept
  have none_left : feed.frames = [] := List.isEmpty_iff.mp (by simpa using empty)
  refine Eq.trans ?_ (sound.whole before)
  simp only [passed, none_left]

/-- The parser takes the oldest frame. -/
theorem Sound.consume (sound : feed.Sound) {number : Nat} {frame : RawFrame}
    {rest : List (Nat × RawFrame)} (queued : feed.frames = (number, frame) :: rest) :
    Sound { feed with frames := rest, consumed := feed.consumed ++ [frame] } := by
  have same : passed { feed with frames := rest, consumed := feed.consumed ++ [frame] } =
      feed.passed := by
    simp only [passed, queued, List.map_cons, List.append_assoc, List.singleton_append]
  have bounded := sound.bounded
  rw [queued, List.length_cons] at bounded
  exact ⟨sound.serves, sound.apart, sound.flagged, Nat.le_of_succ_le bounded,
    same ▸ sound.logged, fun kept => same ▸ sound.whole kept⟩

/-- **One step.** Whoever takes it keeps what holds of the feed. -/
theorem Sound.step (sound : feed.Sound) {action : Action}
    (stepped : feed.step action = some next) : next.Sound := by
  cases action with
  | connect number =>
      rw [Feed.step] at stepped
      split at stepped
      · rename_i closed
        obtain rfl := Option.some.inj stepped
        exact sound.connect (Option.isNone_iff_eq_none.mp closed) number
      · contradiction
  | refuse logOpen =>
      rw [Feed.step] at stepped
      split at stepped
      · rename_i closed
        obtain rfl := Option.some.inj stepped
        have closed := Option.isNone_iff_eq_none.mp closed
        obtain ⟨gone, shut⟩ := sound.apart closed
        have same : lines { feed with
            number := 0
            stop := true
            rawLogs := feed.rawLogs ++ if logOpen then [[]] else [] } = feed.lines := by
          cases logOpen <;> simp [lines]
        exact .shut closed gone shut sound.bounded (same ▸ sound.logged)
          fun kept => same ▸ sound.whole kept
      · contradiction
  | send text =>
      rw [Feed.step] at stepped
      split at stepped
      · contradiction
      · rename_i allowed
        obtain rfl := Option.some.inj stepped
        refine ⟨fun connection found => ?_, fun none => ?_, sound.flagged, sound.bounded,
          sound.logged, sound.whole⟩
        · obtain ⟨before, current, rfl⟩ := Option.map_eq_some_iff.mp found
          obtain ⟨log, place, here, serves⟩ := sound.serves before current
          refine ⟨log, place, here, serves.sound.send text, serves.reads, serves.failed,
            fun stopped => ?_⟩
          subst stopped
          have stop : feed.stop = true := sound.flagged .stopped here
          exact (allowed ⟨by rw [current]; rfl, stop⟩).elim
        · exact sound.apart (Option.map_eq_none_iff.mp none)
  | requestStop =>
      obtain rfl := Option.some.inj stepped
      refine ⟨sound.serves, sound.apart, fun place here => ?_, sound.bounded, sound.logged,
        sound.whole⟩
      have before := sound.flagged place here
      cases place with
      | closing | stopped => rfl
      | failed => exact before
      | _ => trivial
  | join =>
      rw [Feed.step] at stepped
      split at stepped
      · rename_i allowed
        obtain rfl := Option.some.inj stepped
        exact sound.join allowed.2
      · contradiction
  | network move =>
      obtain ⟨place, here, moved⟩ := Option.bind_eq_some_iff.mp stepped
      exact sound.move here moved
  | consume =>
      rw [Feed.step] at stepped
      split at stepped
      · contradiction
      · rename_i number frame rest queued
        obtain rfl := Option.some.inj stepped
        exact sound.consume queued
  | fail =>
      obtain rfl := Option.some.inj stepped
      refine ⟨sound.serves, sound.apart, fun place here => ?_, sound.bounded, sound.logged,
        sound.whole⟩
      have before := sound.flagged place here
      cases place with
      | closing | stopped => exact before
      | failed => rfl
      | _ => trivial
  | discard =>
      rw [Feed.step] at stepped
      split at stepped
      · rename_i closed
        obtain rfl := Option.some.inj stepped
        exact sound.discard (Option.isNone_iff_eq_none.mp closed)
      · contradiction
  | reset =>
      rw [Feed.step] at stepped
      split at stepped
      · rename_i closed
        obtain rfl := Option.some.inj stepped
        have closed := Option.isNone_iff_eq_none.mp closed
        obtain ⟨gone, shut⟩ := sound.apart closed
        exact .shut closed gone shut sound.bounded sound.logged sound.whole
      · contradiction

/-- A feed that has not started is sound. -/
theorem Sound.init : Feed.init.Sound :=
  .shut rfl rfl rfl (Nat.zero_le _) (List.Sublist.refl _) fun _ => rfl

/-- Every reachable feed is sound. -/
theorem reachable_sound (reachable : system.Reachable feed) : feed.Sound :=
  reachable.invariant Sound.init fun _ _ _ sound stepped => sound.step stepped

/-! ## The results -/

/-- **Texts are written one by one, in the order they were sent.** Whatever the feed's owner,
its thread and the venue do, at most one write and one read are in flight, the text that is
being written is still at the front of the outbox, and while no write has failed every text
that was sent is written, in the outbox or about to be put there, in this order. After a
failed write the thread begins nothing more but `Close`; and a thread that returns after
a stop without one has written all that was sent. -/
theorem texts_written_in_order (reachable : system.Reachable feed)
    (current : feed.connection = some connection) :
    connection.writing = connection.outbox.head?.toList.map some ∧ connection.reads ≤ 1 ∧
      (connection.written ++ connection.outbox ++ connection.posted).Sublist connection.sent ∧
      (connection.writeError = false →
        connection.written ++ connection.outbox ++ connection.posted = connection.sent) ∧
      (connection.writeError = true → feed.thread = some .closing ∨ feed.thread = some .stopped ∨
        feed.thread = some .thrown ∨ feed.thread = some .failed) ∧
      (feed.thread = some .stopped → connection.writeError = false →
        connection.written = connection.sent) := by
  obtain ⟨_, place, here, serves⟩ := (reachable_sound reachable).serves connection current
  have reads : connection.reads ≤ 1 := by
    have pending := serves.reads
    cases place with
    | polling | running => exact Nat.le_of_eq pending
    | closing | thrown | failed => exact pending
    | next | completed | stamped | pushing | refused | stopped =>
        exact (Nat.le_of_eq pending).trans (Nat.zero_le 1)
  refine ⟨serves.sound.flight, reads, serves.sound.order, serves.sound.whole, ?_, ?_⟩
  · intro failed
    rw [here]
    simpa only [Option.some.injEq] using serves.failed failed
  · intro stopped fine
    rw [here] at stopped
    obtain ⟨posted, writing, _⟩ := serves.idle (Option.some.inj stopped)
    have empty : connection.outbox = [] := by
      have flight := serves.sound.flight
      rw [writing] at flight
      cases queued : connection.outbox with
      | nil => rfl
      | cons text rest =>
          rw [queued] at flight
          contradiction
    have whole := serves.sound.whole fine
    rwa [posted, empty, List.append_nil, List.append_nil] at whole

/-- Two texts are sent, and a frame is read while the second is being written. -/
def conversation : List Action :=
  [.connect 1, .network .go, .send "ping", .send "subscribe", .network .go, .network .posted,
    .network .go, .network .posted, .network .go, .network (.wrote true), .network .go,
    .network (.read (some "pong")), .network (.stamp 5), .network .go, .network .go, .consume]

/-- The first text has been written, and the second is being written. -/
theorem texts_written_in_order_conversation :
    ∃ feed connection, system.run conversation = some feed ∧ feed.connection = some connection ∧
      connection.written = ["ping"] ∧
      connection.writing = connection.outbox.head?.toList.map some ∧ connection.reads ≤ 1 ∧
      (connection.written ++ connection.outbox ++ connection.posted).Sublist connection.sent ∧
      (connection.writeError = false →
        connection.written ++ connection.outbox ++ connection.posted = connection.sent) ∧
      (connection.writeError = true → feed.thread = some .closing ∨ feed.thread = some .stopped ∨
        feed.thread = some .thrown ∨ feed.thread = some .failed) ∧
      (feed.thread = some .stopped → connection.writeError = false →
        connection.written = connection.sent) := by
  have ends : (system.run conversation).any (fun feed =>
      feed.connection.any fun connection => connection.written = ["ping"]) = true := by
    decide +kernel
  obtain ⟨feed, reached, talking⟩ := (Option.any_eq_true _ _).mp ends
  obtain ⟨connection, current, written⟩ := (Option.any_eq_true _ _).mp talking
  exact ⟨feed, connection, reached, current, of_decide_eq_true written,
    texts_written_in_order ⟨conversation, reached⟩ current⟩

/-- The pipeline is in order before the step, and its queue is empty if it is to be. -/
def InOrder (feed : Feed) (action : Action) : Prop :=
  feed.failed = false ∧ (action = .discard → feed.frames = [])

instance instDecidableInOrder (feed : Feed) (action : Action) : Decidable (feed.InOrder action) :=
  inferInstanceAs (Decidable (_ ∧ _))

/-- While the pipeline is in order nothing is lost. -/
theorem lost_step {action : Action} (met : feed.InOrder action)
    (stepped : feed.step action = some next) : next.lost = feed.lost := by
  obtain ⟨fine, empty⟩ := met
  cases action with
  | network move =>
      obtain ⟨place, _, moved⟩ := Option.bind_eq_some_iff.mp stepped
      have handled : ∀ after ran, feed.handle place after ran = some next →
          next.lost = feed.lost := fun after ran handled => by
        unfold handle at handled
        split at handled
        · obtain ⟨_, _, rfl⟩ := Option.map_eq_some_iff.mp handled
          rfl
        · obtain ⟨_, _, rfl⟩ := Option.map_eq_some_iff.mp handled
          rfl
        · contradiction
      cases move with
      | posted | wrote | read => exact handled _ _ moved
      | timeout | stamp =>
          unfold Feed.move at moved
          dsimp only at moved
          split at moved
          · obtain rfl := Option.some.inj moved
            rfl
          · contradiction
      | go =>
          unfold Feed.move Feed.go at moved
          dsimp only at moved
          split at moved
          · obtain ⟨_, _, rfl⟩ := Option.map_eq_some_iff.mp moved
            rfl
          · obtain rfl := Option.some.inj moved
            rfl
          · obtain rfl := Option.some.inj moved
            rfl
          · obtain ⟨_, _, ended⟩ := Option.bind_eq_some_iff.mp moved
            split at ended
            · obtain rfl := Option.some.inj ended
              rfl
            · contradiction
          · obtain rfl := Option.some.inj moved
            rfl
          · split at moved
            · obtain rfl := Option.some.inj moved
              rfl
            · obtain rfl := Option.some.inj moved
              rfl
          · rw [if_neg (by rw [fine]; exact Bool.false_ne_true)] at moved
            obtain rfl := Option.some.inj moved
            rfl
          · obtain rfl := Option.some.inj moved
            rfl
          all_goals contradiction
  | discard =>
      rw [Feed.step] at stepped
      split at stepped
      · obtain rfl := Option.some.inj stepped
        rw [empty rfl]
        exact Bool.or_false _
      · contradiction
  | fail | requestStop =>
      obtain rfl := Option.some.inj stepped
      rfl
  | connect | refuse | send | join | consume | reset =>
      rw [Feed.step] at stepped
      split at stepped
      all_goals first
        | contradiction
        | (obtain rfl := Option.some.inj stepped
           rfl)

/-- **The raw logs hold what the parser gets.** Over any number of connections, what the
parser has taken, the queue, and the frame that waits for a slot in it, are lines of the raw
logs in their order; and they are all the lines if the pipeline was in order throughout. The
queue is never more than full, a thread that died has marked the pipeline, one that
returned was told to, and a feed without a connection has no thread and no open log. -/
theorem logs_hold_frames {actions : List Action} (reached : system.run actions = some feed) :
    feed.passed.Sublist feed.lines ∧
      (system.Throughout InOrder actions → feed.passed = feed.lines) ∧
      feed.frames.length ≤ maxQueuedFrames ∧
      (feed.thread = some .failed → feed.failed = true) ∧
      (feed.thread = some .stopped → feed.stop = true) ∧
      (feed.connection = none → feed.thread = none ∧ feed.rawLog = none) := by
  have sound := reachable_sound ⟨actions, reached⟩
  refine ⟨sound.logged, fun met => sound.whole ?_, sound.bounded, sound.flagged .failed,
    sound.flagged .stopped, sound.apart⟩
  have kept : ∀ state action next, InOrder state action → state.lost = false →
      system.step state action = some next → next.lost = false :=
    fun state action next met kept stepped => (lost_step met stepped).trans kept
  exact @System.Throughout.invariant _ _ system InOrder actions feed (fun feed => feed.lost = false)
    met rfl kept reached

/-- The frame is taken, and it is all that is in the log. -/
theorem logs_hold_frames_conversation :
    ∃ feed, system.run conversation = some feed ∧ feed.consumed.map RawFrame.json = ["pong"] ∧
      feed.passed.Sublist feed.lines ∧ feed.passed = feed.lines ∧
      feed.frames.length ≤ maxQueuedFrames ∧
      (feed.thread = some .failed → feed.failed = true) ∧
      (feed.thread = some .stopped → feed.stop = true) ∧
      (feed.connection = none → feed.thread = none ∧ feed.rawLog = none) := by
  have ends : (system.run conversation).any (fun feed =>
      feed.consumed.map RawFrame.json = ["pong"]) = true := by
    decide +kernel
  obtain ⟨feed, reached, taken⟩ := (Option.any_eq_true _ _).mp ends
  have met : system.Throughout InOrder conversation := by
    apply System.Throughout.of_indices
    decide +kernel
  obtain ⟨logged, whole, rest⟩ := logs_hold_frames reached
  exact ⟨feed, reached, of_decide_eq_true taken, logged, whole met, rest⟩

end Feed

end DataFeed.Net
