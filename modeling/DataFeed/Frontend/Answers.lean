import DataFeed.Frontend.Commands

/-! # Every command is answered, in order

One record (`Answering`) accounts for every frame that a connection has read: it is
answered, or being run, or waits; and for every answer that was sent: it is queued to go
out, or on its way. The counter of pending commands counts the frames that are not done.
-/

namespace DataFeed.Frontend

open Foundation L2 Venue

namespace Session

variable {session : Session}

/-- Writing does not close the session. -/
theorem writeFront_closed (session : Session) (now : Clock) :
    (session.writeFront now).1.closed = session.closed := by
  unfold writeFront
  split <;> rfl

/-- A closed session is closed. -/
theorem close_closed (session : Session) : session.close.1.closed = true := by
  unfold close
  split
  · assumption
  · rfl

/-- A payload is only queued while the connection is open, and then it is, unless it is a
book. -/
theorem enqueue_open {payload : Payload} {now : Clock}
    (still : (session.enqueue payload now).1.closed = false) :
    session.closed = false ∧ (payload.fieldNumber ≠ Payload.bookFieldNumber →
      queuedFrames (session.enqueue payload now).2 ≠ []) := by
  unfold enqueue at still ⊢
  split at still
  · rename_i shut
    rw [shut] at still
    contradiction
  · rename_i opened
    have opened := (Bool.not_eq_true _).mp opened
    refine ⟨opened, fun other => ?_⟩
    rw [if_neg (by rw [opened]; exact Bool.false_ne_true)]
    rw [if_neg fun dropped => other dropped.2] at still ⊢
    split at still
    · rw [close_closed] at still
      contradiction
    · rename_i room
      rw [if_neg room]
      unfold pushBack
      dsimp only
      split <;> exact List.cons_ne_nil _ _

/-- A closed connection stays closed. -/
theorem handle_open {handler : Handler} {next : Session × List SessionEvent}
    (handled : session.handle handler = some next) (still : next.1.closed = false) :
    session.closed = false := by
  cases handler with
  | enqueue payload now =>
      obtain rfl := Option.some.inj handled
      exact (enqueue_open still).1
  | wrote failed now =>
      simp only [handle] at handled
      split at handled
      · contradiction
      · obtain rfl := Option.some.inj handled
        unfold wrote at still
        dsimp only at still
        split at still
        · rw [close_closed] at still
          contradiction
        · split at still
          · rw [writeFront_closed] at still
            exact still
          · exact still
  | heartbeat failed now =>
      simp only [handle] at handled
      split at handled
      · obtain rfl := Option.some.inj handled
        unfold heartbeat at still
        dsimp only at still
        split at still
        · exact still
        · rename_i opened
          exact (Bool.or_eq_false_iff.mp ((Bool.not_eq_true _).mp opened)).2
      · contradiction
  | begun failed =>
      obtain rfl := Option.some.inj handled
      unfold begun at still
      split at still
      · rw [close_closed] at still
        contradiction
      · exact still
  | close =>
      obtain rfl := Option.some.inj handled
      rw [close_closed] at still
      contradiction

end Session

/-- The frame that a command strand is running. -/
def Strand.running? : Strand → Option ClientFrame
  | .running frame => some frame
  | .idle | .sent _ => none

/-- How many frames a command strand is busy with. -/
def Strand.busy : Strand → Nat
  | .idle => 0
  | .running _ | .sent _ => 1

/-- How many answers a command strand has sent and not counted. -/
def Strand.uncounted : Strand → Nat
  | .sent _ => 1
  | .idle | .running _ => 0

namespace Connection

/-- Every frame and every answer is accounted for. -/
structure Answering (connection : Connection) : Prop where
  read : connection.read =
    connection.answers.map Prod.fst ++ connection.strand.running?.toList ++ connection.commands
  answered : ∀ entry ∈ connection.answers, ∃ attempt, entry.2 = answer attempt entry.1
  sent : connection.session.closed = false →
    connection.answers.map Prod.snd =
      connection.enqueued ++ connection.posted.filterMap Post.result?
  pending : connection.pending = connection.commands.length + connection.strand.busy
  done : connection.answers.length = connection.done + connection.strand.uncounted
  bounded : connection.pending ≤ maxPendingCommands

namespace Answering

variable {connection next : Connection}

/-- A new connection owes no answer. -/
theorem new (now : Nat) : (Connection.new now).Answering :=
  ⟨rfl, fun _ member => (List.not_mem_nil member).elim, fun _ => rfl, rfl, rfl,
    Int.natCast_nonneg _⟩

/-- Reading a frame keeps answers in the order of the commands. -/
theorem handleRead (answering : connection.Answering) (frame : ClientFrame) :
    (connection.handleRead frame).Answering := by
  unfold Connection.handleRead
  split
  · exact answering
  · split
    · refine { answering with sent := fun still => ?_ }
      rw [Session.close_closed] at still
      contradiction
    · rename_i room
      refine { answering with read := ?_, pending := ?_, bounded := ?_ }
      · dsimp only
        rw [answering.read, List.append_assoc]
      · dsimp only
        rw [answering.pending, List.length_append, List.length_singleton]
        omega
      · dsimp only
        omega

/-- Taking a command up keeps answers in the order of the commands. -/
theorem begin (answering : connection.Answering) (began : connection.begin = some next) :
    next.Answering := by
  unfold Connection.begin at began
  split at began
  · rename_i frame rest idle waiting
    obtain rfl := Option.some.inj began
    refine { answering with read := ?_, pending := ?_, done := ?_ }
    · have read := answering.read
      rw [idle, waiting] at read
      simp only [Strand.running?, Option.toList_none, Option.toList_some, List.append_nil,
        List.append_assoc, List.singleton_append] at read ⊢
      exact read
    · have pending := answering.pending
      rw [idle, waiting] at pending
      rw [pending, List.length_cons]
      simp only [Strand.busy]
      omega
    · have done := answering.done
      rw [idle] at done
      exact done
  · contradiction

/-- Replying to a command keeps answers in the order of the commands. -/
theorem reply (answering : connection.Answering) {attempt : Except String Wire.Reply}
    (replied : connection.reply attempt = some next) : next.Answering := by
  unfold Connection.reply at replied
  split at replied
  · rename_i frame running
    obtain rfl := Option.some.inj replied
    refine { answering with
      read := ?_, answered := ?_, sent := fun still => ?_, pending := ?_, done := ?_ }
    · have read := answering.read
      rw [running] at read
      simp only [Strand.running?, Option.toList_none, Option.toList_some, List.append_nil,
        List.map_append, List.map_cons, List.map_nil] at read ⊢
      exact read
    · intro entry member
      rcases List.mem_append.mp member with old | new
      · exact answering.answered entry old
      · rw [List.mem_singleton.mp new]
        exact ⟨attempt, rfl⟩
    · dsimp only at still ⊢
      rw [List.map_append, List.filterMap_append, answering.sent still, List.append_assoc]
      rfl
    · have pending := answering.pending
      rw [running] at pending
      exact pending
    · have done := answering.done
      rw [running] at done
      dsimp only
      rw [List.length_append, done]
      rfl
  · contradiction
  · contradiction

/-- Counting a command as done keeps answers in the order of the commands. -/
theorem commandDone (answering : connection.Answering)
    (counted : connection.commandDone = some next) : next.Answering := by
  unfold Connection.commandDone at counted
  split at counted
  · rename_i frame sent
    obtain rfl := Option.some.inj counted
    have pending := answering.pending
    have bounded := answering.bounded
    rw [sent] at pending
    refine { answering with read := ?_, pending := ?_, done := ?_, bounded := ?_ }
    · have read := answering.read
      rw [sent] at read
      exact read
    · dsimp only
      rw [pending]
      simp only [Strand.busy]
      omega
    · have done := answering.done
      rw [sent] at done
      exact done
    · dsimp only
      omega
  · contradiction
  · contradiction

/-- Writing from the outbox keeps answers in the order of the commands. -/
theorem deliver (answering : connection.Answering) {now : Clock}
    (delivered : connection.deliver now = some next) : next.Answering := by
  unfold Connection.deliver at delivered
  split at delivered
  · contradiction
  · rename_i post rest waiting
    obtain rfl := Option.some.inj delivered
    refine { answering with sent := fun still => ?_ }
    dsimp only at still ⊢
    obtain ⟨opened, queued⟩ := Session.enqueue_open still
    rw [answering.sent opened, waiting, List.append_assoc]
    congr 1
    cases post with
    | stream payload =>
        rw [List.filterMap_cons]
        simp only [Post.result?, Option.toList_none, ite_self, List.nil_append]
    | result result =>
        have listed : (queuedFrames (connection.session.enqueue
            (Post.result result).payload now).2).isEmpty = false := by
          rw [List.isEmpty_eq_false_iff]
          refine queued ?_
          change (7 : Nat) ≠ 4
          decide
        rw [listed, List.filterMap_cons]
        rfl

/-- Every step keeps answers in the order of the commands. -/
theorem step (answering : connection.Answering) {action : Action}
    (stepped : connection.step action = some next) : next.Answering := by
  cases action with
  | read frame =>
      obtain rfl := Option.some.inj stepped
      exact answering.handleRead frame
  | begin => exact answering.begin stepped
  | reply attempt => exact answering.reply stepped
  | commandDone => exact answering.commandDone stepped
  | deliver now => exact answering.deliver stepped
  | send payload =>
      obtain rfl := Option.some.inj stepped
      refine { answering with sent := fun still => ?_ }
      dsimp only
      rw [List.filterMap_append, answering.sent still]
      exact (List.append_nil _).symm ▸ rfl
  | handle handler =>
      have kept : ∀ handler : Session.Handler,
          ((connection.session.handle handler).map fun after =>
            { connection with session := after.1 }) = some next → next.Answering := by
        intro handler stepped
        obtain ⟨after, handled, rfl⟩ := Option.map_eq_some_iff.mp stepped
        exact { answering with
          sent := fun still => answering.sent (Session.handle_open handled still) }
      cases handler with
      | enqueue => contradiction
      | wrote failed now => exact kept (.wrote failed now) stepped
      | heartbeat failed now => exact kept (.heartbeat failed now) stepped
      | begun failed => exact kept (.begun failed) stepped
      | close => exact kept .close stepped

/-- On every reachable connection the answers are in the order of the commands. -/
theorem of_reachable {opened : Nat} (reachable : (system opened).Reachable connection) :
    connection.Answering := by
  apply reachable.invariant
  · exact new opened
  · exact fun _ _ _ answering stepped => answering.step stepped

end Answering

/-- **Every command is answered once, in order.** In every reachable state: the answers
sent are those to the first frames read, one each and in order, each with its frame's
request id, whatever its command returned or threw; while the connection is open, those
queued to go out are the first of them, and all of them once the command strand and the
network thread have nothing left to do. The counter of pending commands is the number of
frames read and not done, between 0 and the limit, and a frame that is read while it
stands at the limit is not run. -/
theorem commands_answered {opened : Nat} (reachable : (system opened).Reachable connection) :
    connection.answers.map Prod.fst <+: connection.read ∧
      (∀ entry ∈ connection.answers, entry.2.requestId = entry.1.requestId ∧
        ∃ attempt, entry.2 = answer attempt entry.1) ∧
      (connection.session.closed = false →
        connection.enqueued <+: connection.answers.map Prod.snd ∧
          (connection.commands = [] → connection.strand = .idle → connection.posted = [] →
            connection.enqueued = connection.answers.map Prod.snd ∧
              connection.answers.map Prod.fst = connection.read)) ∧
      (connection.pending = connection.read.length - connection.done ∧
        0 ≤ connection.pending ∧ connection.pending ≤ maxPendingCommands ∧
        connection.done ≤ connection.answers.length ∧
        connection.answers.length ≤ connection.done + 1) ∧
      (connection.pending = maxPendingCommands → ∀ frame,
        (connection.handleRead frame).commands = connection.commands ∧
          (connection.handleRead frame).session.closed = true) := by
  have answering := Answering.of_reachable reachable
  have split := answering.read
  have pending := answering.pending
  have done := answering.done
  have lengths := congrArg List.length split
  rw [List.length_append, List.length_append, List.length_map] at lengths
  have working : connection.strand.busy =
      connection.strand.running?.toList.length + connection.strand.uncounted := by
    cases connection.strand <;> rfl
  refine ⟨?_, fun entry member => ?_, fun still => ⟨?_, fun idle quiet silent => ⟨?_, ?_⟩⟩,
    ⟨?_, ?_, answering.bounded, ?_, ?_⟩, fun full frame => ?_⟩
  · rw [split, List.append_assoc]
    exact List.prefix_append _ _
  · obtain ⟨attempt, same⟩ := answering.answered entry member
    refine ⟨?_, attempt, same⟩
    rw [same]
    cases entry.1 <;> rfl
  · rw [answering.sent still]
    exact List.prefix_append _ _
  · rw [answering.sent still, silent]
    exact (List.append_nil _).symm
  · rw [split, idle, quiet]
    exact ((List.append_nil _).trans (List.append_nil _)).symm
  · omega
  · omega
  · omega
  · have few : connection.strand.uncounted ≤ 1 := by
      unfold Strand.uncounted
      split
      · exact Nat.le_refl 1
      · exact Nat.zero_le 1
      · exact Nat.zero_le 1
    omega
  · unfold Connection.handleRead
    split
    · rename_i shut
      exact ⟨rfl, shut⟩
    · rw [if_pos (Int.le_of_eq full.symm)]
      exact ⟨rfl, Session.close_closed _⟩

/-- A command that throws and bytes that are no command, both answered. -/
theorem commands_answered_two :
    let watch : ClientFrame := .command ⟨7, some (.watch 256)⟩
    ∃ connection : Connection,
      (system 0).run
        [.read watch, .read .unparseable, .begin, .reply (.error "disk full"), .deliver ⟨0, 0⟩,
          .commandDone, .begin, .reply (.ok .ok), .commandDone, .deliver ⟨1, 1⟩] =
        some connection ∧
      connection.session.closed = false ∧ connection.enqueued =
        [⟨7, .error .venueFailed "disk full"⟩, ⟨0, .error .invalidCommand "Not a ClientCommand"⟩] ∧
      connection.answers.map Prod.fst = connection.read := by
  intro watch
  have ran : ((system 0).run
      [.read watch, .read .unparseable, .begin, .reply (.error "disk full"), .deliver ⟨0, 0⟩,
        .commandDone, .begin, .reply (.ok .ok), .commandDone, .deliver ⟨1, 1⟩]).map
      (fun connection => (connection.session.closed, connection.enqueued, connection.commands,
        connection.strand, connection.posted)) =
      some (false, [⟨7, .error .venueFailed "disk full"⟩,
        ⟨0, .error .invalidCommand "Not a ClientCommand"⟩], [], .idle, []) := by
    decide
  obtain ⟨connection, reached, seen⟩ := Option.map_eq_some_iff.mp ran
  obtain ⟨opened, enqueued, commands, strand, posted⟩ : connection.session.closed = false ∧
      connection.enqueued = _ ∧ connection.commands = [] ∧ connection.strand = .idle ∧
        connection.posted = [] := by
    simpa only [Prod.mk.injEq] using seen
  obtain ⟨_, _, sent, _⟩ := commands_answered ⟨_, reached⟩
  exact ⟨connection, reached, opened, enqueued, ((sent opened).2 commands strand posted).2⟩

end Connection

end DataFeed.Frontend
