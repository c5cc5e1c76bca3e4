import DataFeed.Frontend.Answers
import DataFeed.Frontend.Registration
import DataFeed.Frontend.Server

/-! # What a connection's own threads do to it

`Kept` accounts for the order to forget a connection, which is given once, and for the
commands that were not counted as done. A connection that was dropped begins nothing anew,
whatever had completed before: each handler uses up what was outstanding, and a command takes
a bounded number of steps (`Turn.spends`).
-/

namespace DataFeed.Frontend

open Foundation L2 Venue DataFeed.Core Watching

namespace Session

variable {session : Session}

/-- A closed connection is not closed again. -/
theorem close_of_closed (closed : session.closed = true) : session.close.1 = session := by
  unfold close
  rw [if_pos closed]

/-- Nothing is queued on a closed connection. -/
theorem enqueue_of_closed (closed : session.closed = true) (payload : Payload) (now : Clock) :
    (session.enqueue payload now).1 = session := by
  unfold enqueue
  rw [if_pos closed]

/-- Once the connection is closed a write that ends begins no other. -/
theorem wrote_of_closed (closed : session.closed = true) (failed : Bool) (now : Clock) :
    (session.wrote failed now).1.writing = session.writing.tail ∧
      (session.wrote failed now).1.armed = session.armed := by
  cases failed with
  | true =>
      have ended : (session.wrote true now).1 = { session with writing := session.writing.tail } :=
        close_of_closed (show { session with writing := session.writing.tail : Session }.closed =
          true from closed)
      rw [ended]
      exact ⟨rfl, rfl⟩
  | false =>
      simp [wrote, closed]

/-- Once the connection is closed the timer is not set again. -/
theorem heartbeat_of_closed (closed : session.closed = true) (failed : Bool) (now : Clock) :
    (session.heartbeat failed now).1 = { session with armed := false } := by
  simp [heartbeat, closed]

/-- A handshake that ends on a closed connection begins nothing. -/
theorem begun_of_closed (closed : session.closed = true) (failed : Bool) :
    (session.begun failed).1 = session := by
  unfold begun
  rw [if_pos (by simp [closed])]
  exact close_of_closed closed

/-- A closed connection stays closed. -/
theorem handle_of_closed (closed : session.closed = true) {handler : Handler}
    {next : Session × List SessionEvent} (handled : session.handle handler = some next) :
    next.1.closed = true := by
  cases still : next.1.closed with
  | true => rfl
  | false => exact (handle_open handled still).symm.trans closed

end Session

namespace Watching

/-- What a step within a command can still cost, and send. -/
def Phase.work : Phase → Nat
  | .idle => 0
  | .other | .refuse _ | .assign _ | .remove _ _ none => 1
  | .remove _ _ (some _) | .unwatch _ none => 2
  | .unwatch _ (some _) => 3
  | .watched _ => 4
  | .add _ _ => 7
  | .watch _ => 8

end Watching

namespace Server

/-- What a task that has begun can still cost, but for its steps. -/
def Work.work : Work → Nat
  | .running _ => 3
  | .sent => 1

namespace Peer

variable (peer : Peer)

/-- The operations outstanding on the connection's socket and timer. -/
def operations : Nat :=
  peer.handshaking.toNat + peer.reading.toNat + peer.session.writing.length +
    peer.session.armed.toNat

/-- What the connection can still cost once it was dropped. -/
def work (client : Viewer) : Nat :=
  12 * client.tasks.length + client.phase.work + (peer.current.map Work.work).getD 0 +
    peer.operations + peer.posted.length

/-- The orders to forget the connection that were not carried out. -/
def orders (client : Viewer) : Nat :=
  client.tasks.count .forget + if peer.current = some (.running .forget) then 1 else 0

/-- The commands that were read and not counted as done. -/
def undone (client : Viewer) : Nat :=
  client.tasks.countP (· ≠ .forget) +
    if peer.current = none ∨ peer.current = some (.running .forget) then 0 else 1

/-- The network thread and the command strand agree on a connection, which the server holds
until it is forgotten, and it is ordered to be forgotten once. -/
structure Kept (client : Viewer) (listed : Prop) : Prop where
  closed : client.closed = peer.session.closed
  held : peer.session.closed = false → listed
  ordered : peer.session.closed = true → listed → peer.orders client = 1
  unordered : peer.session.closed = false ∨ ¬ listed → peer.orders client = 0
  counted : peer.pending = peer.undone client

/-- What a handler of the network thread does to a connection. -/
structure Handled (before after : Peer) : Prop where
  current : after.current = before.current
  pending : after.pending = before.pending
  stays : before.session.closed = true → after.session.closed = true
  spends : before.session.closed = true →
    after.operations + after.posted.length < before.operations + before.posted.length ∧
      after.operations ≤ before.operations ∧ after.posted.length ≤ before.posted.length

variable {peer} {after : Peer} {client : Viewer} {listed : Prop}

/-- When nothing is outstanding on the socket and the timer. -/
theorem operations_eq_zero_iff : peer.operations = 0 ↔
    peer.handshaking = false ∧ peer.reading = false ∧ peer.session.writing = [] ∧
      peer.session.armed = false := by
  unfold operations
  simp [and_assoc]

/-- When the network thread has nothing to do for the connection. -/
theorem quiet_iff : peer.Quiet ↔ peer.operations = 0 ∧ peer.posted = [] := by
  rw [operations_eq_zero_iff]
  unfold Quiet
  tauto

/-- The handshake has ended. -/
theorem begun_handled (handshaking : peer.handshaking = true) (failed : Bool) :
    Handled peer (peer.begun failed) := by
  unfold begun
  refine ⟨?_, ?_, ?_, ?_⟩
  · dsimp only
    split <;> rfl
  · dsimp only
    split <;> rfl
  · intro closed
    simp [closed, Session.begun_of_closed closed]
  · intro closed
    simp [closed, Session.begun_of_closed closed, operations, handshaking]

/-- A read has ended that drops the connection. -/
theorem close_handled (reading : peer.reading = true) :
    Handled peer (close { peer with reading := false }) := by
  refine ⟨rfl, rfl, fun _ => Session.close_closed _, ?_⟩
  intro closed
  simp [close, Session.close_of_closed closed, operations, reading]

/-- A read has ended that posts nothing. -/
theorem read_handled (reading : peer.reading = true) {task : Option Task}
    (unread : (peer.read task).2 = none) : Handled peer (peer.read task).1 := by
  unfold read at unread ⊢
  dsimp only at unread ⊢
  split
  · exact close_handled reading
  · rename_i kept
    rw [if_neg kept] at unread
    split
    · exact close_handled reading
    · rename_i room
      rw [if_neg room] at unread
      simp [show task = none from unread] at kept

/-- What was sent has reached the network thread. -/
theorem deliver_handled {now : Clock} (delivered : peer.deliver now = some after) :
    Handled peer after := by
  unfold deliver at delivered
  split at delivered
  · contradiction
  · rename_i payload rest posted
    obtain rfl := Option.some.inj delivered
    refine ⟨rfl, rfl, ?_, ?_⟩
    · intro closed
      dsimp only
      rw [Session.enqueue_of_closed closed]
      exact closed
    · intro closed
      simp [Session.enqueue_of_closed closed, operations, posted]

/-- A write has ended, or the timer. -/
theorem socket_handled {handler : Session.Handler} (ended : peer.socket handler = some after) :
    Handled peer after := by
  cases handler with
  | enqueue _ _ | begun _ | close => contradiction
  | wrote failed now =>
      obtain ⟨next, handled, rfl⟩ := Option.map_eq_some_iff.mp ended
      refine ⟨rfl, rfl, fun closed => Session.handle_of_closed closed handled, ?_⟩
      intro closed
      simp only [Session.handle] at handled
      split at handled
      · contradiction
      · rename_i writing
        obtain rfl := Option.some.inj handled
        obtain ⟨tail, armed⟩ := Session.wrote_of_closed closed failed now
        have begun := List.length_pos_iff.mpr writing
        simp only [operations, tail, armed, List.length_tail]
        omega
  | heartbeat failed now =>
      obtain ⟨next, handled, rfl⟩ := Option.map_eq_some_iff.mp ended
      refine ⟨rfl, rfl, fun closed => Session.handle_of_closed closed handled, ?_⟩
      intro closed
      simp only [Session.handle] at handled
      split at handled
      · rename_i armed
        obtain rfl := Option.some.inj handled
        simp [operations, Session.heartbeat_of_closed closed, armed]
      · contradiction

namespace Kept

/-- A connection that was just accepted is kept. -/
theorem accepted (now : Nat) : (Peer.accepted now).Kept .new True :=
  ⟨rfl, fun _ => trivial, fun closed => Bool.noConfusion closed, fun _ => rfl, rfl⟩

/-- Kept is said of how far the connection and its commands are, and of nothing else. -/
theorem same (kept : peer.Kept client listed) {later : Viewer} {still : Prop}
    (closed : after.session.closed = peer.session.closed) (current : after.current = peer.current)
    (pending : after.pending = peer.pending) (agrees : later.closed = client.closed)
    (tasks : later.tasks = client.tasks) (holds : still ↔ listed) : after.Kept later still := by
  have orders : after.orders later = peer.orders client := by
    rw [orders, orders, current, tasks]
  have undone : after.undone later = peer.undone client := by
    rw [undone, undone, current, tasks]
  refine ⟨?_, ?_, ?_, ?_, ?_⟩
  · rw [agrees, closed]
    exact kept.closed
  · rw [closed, holds]
    exact kept.held
  · rw [closed, holds, orders]
    exact kept.ordered
  · rw [closed, holds, orders]
    exact kept.unordered
  · rw [pending, undone]
    exact kept.counted

/-- A handler of the network thread has run: if it dropped the connection, that is ordered to
be forgotten. -/
theorem ran (kept : peer.Kept client listed) (current : after.current = peer.current)
    (pending : after.pending = peer.pending)
    (stays : peer.session.closed = true → after.session.closed = true) :
    after.Kept (if after.session.closed then client.close else client) listed := by
  cases before : peer.session.closed with
  | true =>
      have closed := stays before
      have left : client.close = client := by
        unfold Viewer.close
        rw [if_pos (kept.closed.trans before)]
      rw [if_pos closed, left]
      exact kept.same (closed.trans before.symm) current pending rfl rfl Iff.rfl
  | false =>
      cases closed : after.session.closed with
      | false =>
          rw [if_neg Bool.false_ne_true]
          exact kept.same (closed.trans before.symm) current pending rfl rfl Iff.rfl
      | true =>
          have running : client.closed ≠ true := by simp [kept.closed, before]
          have none := kept.unordered (.inl before)
          have counted := kept.counted
          simp only [orders, undone] at none counted
          rw [if_pos rfl, Viewer.close, if_neg running]
          refine ⟨closed.symm, fun open_ => ?_, fun _ _ => ?_, fun either => ?_, ?_⟩
          · exact (Bool.false_ne_true (open_.symm.trans closed)).elim
          · simp only [orders, current, List.count_append, List.count_singleton_self]
            omega
          · rcases either with opened | lost
            · exact (Bool.false_ne_true (opened.symm.trans closed)).elim
            · exact (lost (kept.held before)).elim
          · rw [pending, counted]
            simp [undone, current, List.countP_append]

/-- A command was read. -/
theorem read (kept : peer.Kept client listed) {task posted : Task} (command : task ≠ .forget)
    (handled : (peer.read (some task)).2 = some posted) :
    (peer.read (some task)).1.Kept (client.read posted) listed := by
  unfold Peer.read at handled ⊢
  dsimp only at handled ⊢
  split at handled
  · contradiction
  · rename_i opened
    split at handled
    · contradiction
    · rename_i room
      obtain rfl := Option.some.inj handled
      have opened : peer.session.closed = false := by simpa using opened
      have running : client.closed ≠ true := by simp [kept.closed, opened]
      have none := kept.unordered (.inl opened)
      have counted := kept.counted
      simp only [orders, undone] at none counted
      rw [if_neg (by simp [opened]), if_neg room, Viewer.read, if_neg running]
      have orders : orders { peer with pending := peer.pending + 1 }
          { client with tasks := client.tasks ++ [task] } = 0 := by
        simp only [Peer.orders, List.count_append, List.count_singleton]
        rw [if_neg (by simpa using command)]
        exact none
      refine ⟨kept.closed, kept.held, fun closed _ => ?_, fun _ => orders, ?_⟩
      · exact (Bool.false_ne_true (opened.symm.trans closed)).elim
      · dsimp only
        have counts : decide (task ≠ .forget) = true := by simpa using command
        rw [counted, undone, List.countP_append, List.countP_singleton, if_pos counts]
        dsimp only
        omega

/-- The command strand takes the next task. -/
theorem begin (kept : peer.Kept client listed) {later : Viewer} (rests : peer.current = none)
    (began : client.begin = some later) :
    Kept { peer with current := client.tasks.head?.map .running } later listed := by
  unfold Viewer.begin at began
  split at began
  · rename_i task rest idle queued
    obtain rfl := Option.some.inj began
    obtain ⟨closed, tasks⟩ := Viewer.start_keeps { client with tasks := rest } task
    have orders : orders { peer with current := client.tasks.head?.map .running }
        (Viewer.start { client with tasks := rest } task) = peer.orders client := by
      simp only [Peer.orders, tasks, queued, rests, List.head?_cons, Option.map_some,
        List.count_cons, Option.some.injEq, Work.running.injEq, beq_iff_eq, reduceCtorEq,
        ↓reduceIte, Nat.add_zero]
    refine ⟨closed.trans kept.closed, kept.held, ?_, ?_, ?_⟩
    · rw [orders]
      exact kept.ordered
    · rw [orders]
      exact kept.unordered
    · dsimp only
      rw [kept.counted, undone, undone, tasks, queued, rests]
      by_cases forget : task = .forget
      · simp [forget]
      · simp [forget]
  · contradiction

/-- The command strand has forgotten the connection. -/
theorem forgotten (kept : peer.Kept client listed)
    (forgets : peer.current = some (.running .forget)) :
    Kept { peer with current := none } client False := by
  have counted := kept.counted
  have ordered := kept.ordered
  have unordered := kept.unordered
  simp only [orders, undone, forgets, ↓reduceIte, or_true] at counted ordered unordered
  have closed : peer.session.closed = true := by
    by_contra opened
    have none := unordered (.inl ((Bool.not_eq_true _).mp opened))
    omega
  have held : listed := by
    by_contra lost
    have none := unordered (.inr lost)
    omega
  have once := ordered closed held
  refine ⟨kept.closed, fun opened => ?_, fun _ => False.elim, fun _ => ?_, ?_⟩
  · exact Bool.false_ne_true (opened.symm.trans closed)
  · simp only [orders, reduceCtorEq, ↓reduceIte]
    omega
  · rw [counted]
    simp [undone]

/-- The command strand has sent a command's result. -/
theorem concluded (kept : peer.Kept client listed) {task : Task} (command : task ≠ .forget)
    (runs : peer.current = some (.running task)) (posted : List Payload) :
    Kept { peer with current := some .sent, posted := posted } client listed := by
  have counted := kept.counted
  have ordered := kept.ordered
  have unordered := kept.unordered
  simp only [orders, undone, runs, Option.some.injEq, Work.running.injEq, command, reduceCtorEq,
    or_false, ↓reduceIte] at counted ordered unordered
  exact ⟨kept.closed, kept.held, by simpa [orders] using ordered, by simpa [orders] using unordered,
    by simpa [undone] using counted⟩

/-- The command strand has counted a command as done. -/
theorem done (kept : peer.Kept client listed) (sent : peer.current = some .sent) :
    Kept { peer with current := none, pending := peer.pending - 1 } client listed := by
  have counted := kept.counted
  have ordered := kept.ordered
  have unordered := kept.unordered
  simp only [orders, undone, sent, Option.some.injEq, reduceCtorEq, or_false, ↓reduceIte]
    at counted ordered unordered
  refine ⟨kept.closed, kept.held, by simpa [orders] using ordered, by simpa [orders] using unordered,
    ?_⟩
  dsimp only
  simp [undone, counted]

/-- A connection whose strand rests is not held any more if it was dropped, and every command
of it was counted as done. -/
theorem rests (kept : peer.Kept client listed) (rests : peer.Rests client) :
    (peer.session.closed = true → ¬ listed) ∧ peer.pending = 0 := by
  obtain ⟨tasks, _, current⟩ := rests
  refine ⟨fun closed held => ?_, ?_⟩
  · have once := kept.ordered closed held
    simp [orders, tasks, current] at once
  · rw [kept.counted]
    simp [undone, tasks, current]

end Kept

/-- What one of a connection's own threads does to it. -/
inductive Turn (peer : Peer) (client : Viewer) (listed : Prop) : Peer → Viewer → Prop → Prop where
  | handled (after : Peer) (handled : Handled peer after) :
      Turn peer client listed after (if after.session.closed then client.close else client) listed
  | read (task posted : Task) (command : task ≠ .forget)
      (handled : (peer.read (some task)).2 = some posted) :
      Turn peer client listed (peer.read (some task)).1 (client.read posted) listed
  | begin (later : Viewer) (rests : peer.current = none) (began : client.begin = some later) :
      Turn peer client listed { peer with current := client.tasks.head?.map .running } later listed
  | advance (find : SubscriptionId → Option StreamRef) (later : Viewer)
      (advanced : client.advance find = some later) (sent : List Payload)
      (spends : later.phase.work + sent.length < client.phase.work) :
      Turn peer client listed { peer with posted := peer.posted ++ sent } later listed
  | refuse (later : Viewer) (refused : client.refuse = some later) :
      Turn peer client listed peer later listed
  | forgotten (forgets : peer.current = some (.running .forget)) :
      Turn peer client listed { peer with current := none } client False
  | concluded (task : Task) (command : task ≠ .forget)
      (runs : peer.current = some (.running task)) (result : Payload) :
      Turn peer client listed
        { peer with current := some .sent, posted := peer.posted ++ [result] } client listed
  | done (sent : peer.current = some .sent) :
      Turn peer client listed { peer with current := none, pending := peer.pending - 1 } client
        listed

/-- A read that ends on a closed connection posts nothing. -/
theorem unread_of_closed (closed : peer.session.closed = true) (task : Option Task) :
    (peer.read task).2 = none := by
  simp [Peer.read, closed]

/-- A command that begins costs eight steps at most. -/
theorem start_work (client : Viewer) (task : Task) : (client.start task).phase.work ≤ 8 := by
  have unwatch : client.unwatch.phase.work ≤ 8 := by
    unfold Viewer.unwatch
    split
    · exact (by decide : 2 ≤ 8)
    · exact Nat.zero_le _
  cases task with
  | watch id => exact Nat.le_refl _
  | other => exact (by decide : 1 ≤ 8)
  | unwatch | forget => exact unwatch

/-- A watch that fails leaves the tasks, and less to do. -/
theorem refuse_work {later : Viewer} (refused : client.refuse = some later) :
    later.closed = client.closed ∧ later.tasks = client.tasks ∧
      later.phase.work < client.phase.work := by
  unfold Viewer.refuse at refused
  split at refused
  · rename_i id phase
    obtain rfl := Option.some.inj refused
    exact ⟨rfl, rfl, by simp [phase, Phase.work]⟩
  · contradiction

namespace Turn

variable {later : Viewer} {still : Prop}

/-- Every turn keeps the connection. -/
theorem kept (turn : Turn peer client listed after later still)
    (kept : peer.Kept client listed) : after.Kept later still := by
  cases turn with
  | handled _ handled => exact kept.ran handled.current handled.pending handled.stays
  | read task posted command handled => exact kept.read command handled
  | begin _ rests began => exact kept.begin rests began
  | advance find _ advanced sent spends =>
      obtain ⟨closed, tasks⟩ := (Viewer.advance_advances advanced).keeps
      exact kept.same rfl rfl rfl closed tasks Iff.rfl
  | refuse _ refused =>
      obtain ⟨closed, tasks, _⟩ := refuse_work refused
      exact kept.same rfl rfl rfl closed tasks Iff.rfl
  | forgotten forgets => exact kept.forgotten forgets
  | concluded task command runs result => exact kept.concluded command runs _
  | done sent => exact kept.done sent

/-- A connection that was dropped stays so, and nothing begins on its socket. -/
theorem stays (turn : Turn peer client listed after later still)
    (closed : peer.session.closed = true) :
    after.session.closed = true ∧ after.operations ≤ peer.operations := by
  cases turn with
  | handled _ handled => exact ⟨handled.stays closed, (handled.spends closed).2.1⟩
  | read task posted command handled =>
      rw [unread_of_closed closed] at handled
      contradiction
  | begin | advance | refuse | forgotten | concluded | done =>
      exact ⟨closed, Nat.le_refl _⟩

/-- A strand that rests once the connection was dropped goes on resting. -/
theorem rests (turn : Turn peer client listed after later still)
    (agrees : client.closed = peer.session.closed) (closed : peer.session.closed = true)
    (rests : peer.Rests client) :
    after.Rests later ∧ after.posted.length ≤ peer.posted.length := by
  obtain ⟨tasks, idle, current⟩ := rests
  cases turn with
  | handled _ handled =>
      have left : client.close = client := by
        unfold Viewer.close
        rw [if_pos (agrees.trans closed)]
      rw [left, ite_self]
      exact ⟨⟨tasks, idle, handled.current.trans current⟩, (handled.spends closed).2.2⟩
  | read task posted command handled =>
      rw [unread_of_closed closed] at handled
      contradiction
  | begin _ _ began => simp [Viewer.begin, idle, tasks] at began
  | advance find _ advanced sent spends => simp [Viewer.advance, idle] at advanced
  | refuse _ refused => simp [Viewer.refuse, idle] at refused
  | forgotten runs | concluded _ _ runs _ | done runs =>
      rw [current] at runs
      contradiction

/-- Once the connection was dropped, whatever happens to it is paid for. -/
theorem spends (turn : Turn peer client listed after later still)
    (agrees : client.closed = peer.session.closed) (closed : peer.session.closed = true) :
    after.work later < peer.work client := by
  cases turn with
  | handled _ handled =>
      have left : client.close = client := by
        unfold Viewer.close
        rw [if_pos (agrees.trans closed)]
      have less := (handled.spends closed).1
      rw [left, ite_self, work, work, handled.current]
      omega
  | read task posted command handled =>
      rw [unread_of_closed closed] at handled
      contradiction
  | begin _ rests began =>
      unfold Viewer.begin at began
      split at began
      · rename_i task rest idle queued
        obtain rfl := Option.some.inj began
        have cost := start_work { client with tasks := rest } task
        have tasks := (Viewer.start_keeps { client with tasks := rest } task).2
        simp only [work, tasks, queued, rests, List.head?_cons, Option.map_some, Option.map_none,
          Option.getD_some, Option.getD_none, Work.work, List.length_cons, operations]
        omega
      · contradiction
  | advance find _ advanced sent spends =>
      have tasks := (Viewer.advance_advances advanced).keeps.2
      simp only [work, tasks, operations, List.length_append]
      omega
  | refuse _ refused =>
      obtain ⟨_, tasks, less⟩ := refuse_work refused
      simp only [work, tasks]
      omega
  | forgotten runs =>
      simp only [work, runs, Option.map_some, Option.map_none, Option.getD_some, Option.getD_none,
        Work.work, operations]
      omega
  | concluded task command runs result =>
      simp only [work, runs, Option.map_some, Option.getD_some, Work.work, operations,
        List.length_append, List.length_singleton]
      omega
  | done sent =>
      simp only [work, sent, Option.map_some, Option.map_none, Option.getD_some, Option.getD_none,
        Work.work, operations]
      omega

end Turn

end Peer

end Server

end DataFeed.Frontend
