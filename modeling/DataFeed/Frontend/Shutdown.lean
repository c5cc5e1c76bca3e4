import Mathlib.Algebra.BigOperators.Group.Finset.Piecewise
import Mathlib.Algebra.Order.BigOperators.Group.Finset
import DataFeed.Foundation.Potential
import DataFeed.Frontend.ServerSound

/-! # The server's teardown

Once every connection was dropped, whatever the server's threads do is paid for by what was
outstanding then and what transmitters send meanwhile. So the destructor comes to its end,
and then nothing refers to a connection any more.
-/

namespace DataFeed.Frontend

open Foundation L2 Venue DataFeed.Core Watching

namespace Server

variable {server next : Server}

/-- A connection that is dropped in the middle of a watch, with the heartbeat set and a read
outstanding. -/
def droppedRun : List Action :=
  [.transmitter 65536 "Kraken" ⟨"BTC/USD", 10⟩ ⟨1, 8⟩, .accept .connected 0, .handshake 0 false,
    .read 0 (some (.watch 65536)), .begin 0, .advance 0, .stop, .drop]

/-- The same, to its end: the read has completed before, and the watch goes on. -/
def goneRun : List Action :=
  droppedRun ++ [.advance 0, .interrupt 65536 .disconnected, .accept .connected 0,
    .read 0 (some .other), .socket 0 (.heartbeat true ⟨0, 0⟩), .deliver 0 ⟨0, 0⟩,
    .deliver 0 ⟨0, 0⟩, .joinNetwork, .advance 0, .advance 0, .conclude 0 7, .commandDone 0,
    .begin 0, .advance 0, .advance 0, .conclude 0 0, .joinCommands, .deliver 0 ⟨0, 0⟩, .finish]

/-- **The teardown lets go of every connection.** When the destructor is through, the server
holds no connection; every one that was ever accepted was dropped, has nothing outstanding on
the network thread, has had every command it sent run and counted as done, and has been
forgotten: no registered stream holds it. -/
theorem teardown_releases (reachable : system.Reachable server) (gone : server.stage = .gone) :
    server.sessions = [] ∧ server.listening = false ∧ server.accepting = false ∧
      server.retrying = false ∧
      ∀ session < server.accepted, (server.peers session).session.closed = true ∧
        (server.peers session).Quiet ∧
        (server.peers session).Rests (server.audience.clients session) ∧
        (server.peers session).pending = 0 ∧
        ∀ id stream, server.audience.streams.outbox.find? id = some stream →
          session ∉ server.audience.streams.watchersOf stream := by
  have sound := reachable_sound reachable
  have late : 5 ≤ server.stage.number := by simp [gone, Stage.number]
  obtain ⟨shut, closed⟩ := sound.dropped (by omega)
  obtain ⟨accepting, retrying, idle⟩ := sound.joined (by omega)
  have rests := sound.drained (by omega)
  have settled := fun session present => (sound.kept session present).rests (rests session present)
  refine ⟨?_, shut, accepting, retrying, fun session present => ?_⟩
  · refine List.eq_nil_iff_forall_not_mem.mpr fun session member => ?_
    have present := sound.members session member
    exact (settled session present).1 (closed session present) member
  · refine ⟨closed session present, ?_, rests session present, (settled session present).2, ?_⟩
    · exact Peer.quiet_iff.mpr ⟨idle session present, sound.gone late session present⟩
    · obtain ⟨tasks, phase, -⟩ := rests session present
      have forgotten := (sound.kept session present).closed.trans (closed session present)
      exact fun id stream registered => (Audience.reachable_sound sound.audience).released
        ⟨forgotten, tasks, phase⟩ registered

/-- The teardown of a server with one session runs to its end. -/
theorem teardown_releases_watching :
    ∃ server, system.run goneRun = some server ∧ server.accepted = 1 ∧ server.sessions = [] ∧
      (server.peers 0).Quiet ∧ (server.peers 0).pending = 0 := by
  have runs : (system.run goneRun).any (fun server =>
      server.stage = .gone && server.accepted = 1) = true := by
    decide +kernel
  obtain ⟨server, reached, seen⟩ := (Option.any_eq_true _ _).mp runs
  obtain ⟨gone, one⟩ := Bool.and_eq_true_iff.mp seen
  have one : server.accepted = 1 := of_decide_eq_true one
  obtain ⟨none, _, _, _, released⟩ :=
    teardown_releases ⟨goneRun, reached⟩ (of_decide_eq_true gone)
  obtain ⟨_, quiet, _, settled, _⟩ := released 0 (by omega)
  exact ⟨server, reached, one, none, quiet, settled⟩

variable (server) in
/-- What the connections can still cost once they were dropped, and the destructor. -/
def potential : Nat :=
  (∑ session ∈ Finset.range server.accepted,
      (server.peers session).work (server.audience.clients session)) +
    server.accepting.toNat + server.retrying.toNat + (5 - server.stage.number)

/-- An action is the server's own, and not a transmitter's. -/
def Action.own : Action → Bool
  | .transmitter _ _ _ _ | .destroy _ | .receive _ _ | .interrupt _ _ => false
  | _ => true

variable (server) in
/-- Every connection was dropped. -/
def Torn : Prop := server.Sound ∧ 2 ≤ server.stage.number

/-- A connection's own step costs something of it, and nothing of the others. -/
theorem Turns.spends {session : WatcherId} (turns : Turns server session next)
    (torn : server.Torn) (present : session < server.accepted) :
    next.potential < server.potential := by
  obtain ⟨sound, late⟩ := torn
  have closed := (sound.dropped late).2 session present
  have less := turns.turn.spends (sound.kept session present).closed closed
  have sum : ∑ other ∈ Finset.range server.accepted,
        (next.peers other).work (next.audience.clients other) <
      ∑ other ∈ Finset.range server.accepted,
        (server.peers other).work (server.audience.clients other) := by
    refine Finset.sum_lt_sum (fun other _ => ?_) ⟨session, Finset.mem_range.mpr present, less⟩
    by_cases same : other = session
    · subst same
      exact less.le
    · rw [turns.own.peers other same, turns.own.clients same]
  unfold potential
  rw [turns.own.accepted, turns.own.accepting, turns.own.retrying, turns.own.stage]
  omega

/-- What is sent is counted once for all connections. -/
theorem sum_sent (sent : List Sending) (sessions : Finset Nat) :
    ∑ session ∈ sessions, (sent.filter fun sending => sending.1 = session).length ≤
      sent.length := by
  induction sent with
  | nil => simp
  | cons first rest ih =>
      have counts : ∀ session : Nat,
          ((first :: rest).filter fun sending => sending.1 = session).length =
            (if first.1 = session then 1 else 0) +
              (rest.filter fun sending => sending.1 = session).length := by
        intro session
        by_cases same : first.1 = session
        · rw [List.filter_cons_of_pos (by simpa using same), if_pos same, List.length_cons]
          omega
        · rw [List.filter_cons_of_neg (by simpa using same), if_neg same, Nat.zero_add]
      have once : ∑ session ∈ sessions, (if first.1 = session then 1 else 0) ≤ 1 := by
        rw [Finset.sum_ite_eq]
        split
        · exact Nat.le_refl _
        · exact Nat.zero_le _
      rw [Finset.sum_congr rfl fun session _ => counts session, Finset.sum_add_distrib,
        List.length_cons]
      omega

/-- A stream's call adds to what is left to do no more than it sends. -/
theorem transmit_receives {id : SubscriptionId} {made : Stream.Call}
    (called : server.transmit id made = some next) :
    next.potential + server.streamed ≤ server.potential + next.streamed ∧
      next.stage = server.stage := by
  obtain ⟨stream, -, rfl⟩ := Option.map_eq_some_iff.mp called
  refine ⟨?_, rfl⟩
  have all := sum_sent (server.audience.streams.sendings stream made)
    (Finset.range server.accepted)
  simp only [potential, send, Peer.work, Peer.operations, List.length_append, List.length_map,
    Finset.sum_add_distrib]
  omega

/-- Accepting a connection leaves the stage of the teardown. -/
theorem stage_accept (result : Accepted) (now : Nat) :
    (server.accept result now).stage = server.stage := by
  unfold Server.accept
  split
  · rfl
  · split <;> rfl

/-- Retrying to accept leaves the stage of the teardown. -/
theorem stage_retry (failed : Bool) : (server.retry failed).stage = server.stage := by
  unfold Server.retry
  split <;> rfl

/-- A teardown goes on once it has begun. -/
theorem Torn.step (torn : server.Torn) {action : Action}
    (stepped : server.step action = some next) : next.Torn := by
  obtain ⟨sound, late⟩ := torn
  refine ⟨sound.step stepped, ?_⟩
  cases about : action.session? with
  | some session =>
      rw [(step_turns about stepped).own.stage]
      exact late
  | none =>
      cases action with
      | handshake | read | socket | deliver | begin | advance | refuse | conclude |
        commandDone => contradiction
      | transmitter id venue book precision =>
          obtain ⟨audience, -, rfl⟩ := Option.map_eq_some_iff.mp stepped
          exact late
      | destroy id =>
          obtain rfl := Option.some.inj stepped
          exact late
      | receive id message | interrupt id gap =>
          rw [(transmit_receives stepped).2]
          exact late
      | accept result now =>
          obtain ⟨-, -, rfl⟩ := network_eq_some_iff.mp stepped
          rw [stage_accept]
          exact late
      | retry failed =>
          obtain ⟨-, -, rfl⟩ := network_eq_some_iff.mp stepped
          rw [stage_retry]
          exact late
      | stop | drop =>
          simp only [Server.step] at stepped
          split at stepped
          · rename_i stage
            rw [stage] at late
            exact absurd late (by decide)
          · contradiction
      | joinNetwork | joinCommands | finish =>
          simp only [Server.step] at stepped
          split at stepped
          · obtain rfl := Option.some.inj stepped
            simp [Stage.number]
          · contradiction

/-- The destructor's own steps: it gets on. -/
theorem finishes_stage {stage : Stage} (gets_on : server.stage.number < stage.number) :
    Server.potential { server with stage := stage } < server.potential := by
  have last : stage.number ≤ 5 := by cases stage <;> decide
  simp only [potential]
  omega

/-- Once every connection was dropped the server's own steps are paid for. -/
theorem torn_paid : system.Paid Torn Action.own potential Server.streamed where
  keeps _ _ _ torn stepped := torn.step stepped
  spends server action next torn mine stepped := by
    cases about : action.session? with
    | some session =>
        have turns := step_turns about stepped
        exact ⟨turns.spends torn (torn.1.session_lt about stepped), turns.own.streamed⟩
    | none =>
        obtain ⟨shut, -⟩ := torn.1.dropped torn.2
        cases action with
        | handshake | read | socket | deliver | begin | advance | refuse | conclude |
          commandDone => contradiction
        | transmitter | destroy | receive | interrupt => contradiction
        | accept result now =>
            obtain ⟨-, accepting, rfl⟩ := network_eq_some_iff.mp stepped
            simp [Server.accept, shut, potential, accepting]
        | retry failed =>
            obtain ⟨-, retrying, rfl⟩ := network_eq_some_iff.mp stepped
            simp [Server.retry, shut, potential, retrying]
        | stop | drop =>
            simp only [system, Server.step] at stepped
            split at stepped
            · rename_i stage
              have late := torn.2
              rw [stage] at late
              exact absurd late (by decide)
            · contradiction
        | joinNetwork | joinCommands | finish =>
            simp only [system, Server.step] at stepped
            split at stepped
            · rename_i ended
              obtain rfl := Option.some.inj stepped
              exact ⟨finishes_stage (by rw [ended.1]; decide), rfl⟩
            · contradiction
  receives server action next torn others stepped := by
    cases action with
    | transmitter id venue book precision =>
        obtain ⟨audience, built, rfl⟩ := Option.map_eq_some_iff.mp stepped
        have same := clients_stream built rfl
        simp only [potential, same]
        omega
    | destroy id =>
        obtain rfl := Option.some.inj stepped
        exact Nat.le_refl _
    | receive | interrupt => exact (transmit_receives stepped).1
    | accept | retry | handshake | read | socket | deliver | begin | advance | refuse |
      conclude | commandDone | stop | drop | joinNetwork | joinCommands | finish => contradiction

variable (server) in
/-- Some step of the server's own is possible. -/
def GoesOn : Prop := ∃ action next, Action.own action = true ∧ server.step action = some next

/-- A step of the server's own that is possible goes on. -/
theorem goes_on_of_isSome (action : Action) (mine : action.own = true)
    (possible : (server.step action).isSome = true) : server.GoesOn := by
  obtain ⟨next, stepped⟩ := Option.isSome_iff_exists.mp possible
  exact ⟨action, next, mine, stepped⟩

/-- What is outstanding on the network thread can be handled while that runs. -/
theorem goes_on_of_network (runs : server.stage.networking = true) (work : ¬ server.NetworkDone) :
    server.GoesOn := by
  by_cases accepting : server.accepting = true
  · exact goes_on_of_isSome (.accept .aborted 0) rfl (by simp [step, network, runs, accepting])
  by_cases retrying : server.retrying = true
  · exact goes_on_of_isSome (.retry true) rfl (by simp [step, network, runs, retrying])
  have some : ∃ session, ¬ (server.peers session).Quiet := by
    by_contra none
    refine work ⟨(Bool.not_eq_true _).mp accepting, (Bool.not_eq_true _).mp retrying, ?_⟩
    exact fun session _ => not_not.mp (not_exists.mp none session)
  obtain ⟨session, busy⟩ := some
  by_cases handshaking : (server.peers session).handshaking = true
  · exact goes_on_of_isSome (.handshake session true) rfl
      (by simp [step, network, runs, handshaking])
  by_cases reading : (server.peers session).reading = true
  · exact goes_on_of_isSome (.read session none) rfl (by simp [step, network, runs, reading])
  by_cases armed : (server.peers session).session.armed = true
  · exact goes_on_of_isSome (.socket session (.heartbeat true ⟨0, 0⟩)) rfl
      (by simp [step, network, runs, Peer.socket, Session.handle, armed])
  by_cases writing : (server.peers session).session.writing = []
  · cases posted : (server.peers session).posted with
    | cons payload rest =>
        exact goes_on_of_isSome (.deliver session ⟨0, 0⟩) rfl
          (by simp [step, network, runs, Peer.deliver, posted])
    | nil =>
        refine (busy ⟨?_, ?_, writing, ?_, posted⟩).elim
        · exact (Bool.not_eq_true _).mp handshaking
        · exact (Bool.not_eq_true _).mp reading
        · exact (Bool.not_eq_true _).mp armed
  · exact goes_on_of_isSome (.socket session (.wrote true ⟨0, 0⟩)) rfl
      (by simp [step, network, runs, Peer.socket, Session.handle, writing])

/-- A command strand that is within a command can take its next step. -/
theorem advance_or_refuse (client : Viewer) (find : SubscriptionId → Option StreamRef)
    (within : client.phase ≠ .idle) :
    (∃ later, client.advance find = some later) ∨ ∃ later, client.refuse = some later := by
  unfold Viewer.advance Viewer.refuse
  cases phase : client.phase with
  | idle => exact (within phase).elim
  | refuse id => exact .inr ⟨_, rfl⟩
  | other | add | remove | assign => exact .inl ⟨_, rfl⟩
  | watched id =>
      refine .inl ?_
      dsimp only
      split <;> exact ⟨_, rfl⟩
  | watch id | unwatch id within =>
      refine .inl ?_
      dsimp only
      split <;> exact ⟨_, rfl⟩

/-- A command strand that has something to do can do it. -/
theorem goes_on_of_commands (work : ¬ server.CommandsDone) : server.GoesOn := by
  have some : ∃ session, ¬ (server.peers session).Rests (server.audience.clients session) := by
    by_contra none
    exact work fun session _ => not_not.mp (not_exists.mp none session)
  obtain ⟨session, busy⟩ := some
  by_cases idle : (server.audience.clients session).phase = .idle
  · cases current : (server.peers session).current with
    | none =>
        cases tasks : (server.audience.clients session).tasks with
        | nil => exact (busy ⟨tasks, idle, current⟩).elim
        | cons task rest =>
            exact goes_on_of_isSome (.begin session) rfl
              (by simp [step, Server.begin, current, Viewer.begin, idle, tasks])
    | some work =>
        cases work with
        | sent =>
            exact goes_on_of_isSome (.commandDone session) rfl
              (by simp [step, Server.commandDone, current])
        | running task =>
            refine goes_on_of_isSome (.conclude session 0) rfl ?_
            cases task <;> simp [step, Server.conclude, idle, current]
  · rcases advance_or_refuse _ server.audience.streams.outbox.find? idle with
      ⟨later, advanced⟩ | ⟨later, refused⟩
    · exact goes_on_of_isSome (.advance session) rfl
        (by simp [step, Server.advance, Audience.advance, advanced])
    · exact goes_on_of_isSome (.refuse session) rfl (by simp [step, refused])

/-- Until it is through, the teardown can go on of its own. -/
theorem Torn.goes_on (torn : server.Torn) (unfinished : server.stage ≠ .gone) :
    server.GoesOn := by
  have late := torn.2
  cases stage : server.stage with
  | serving | stopping =>
      rw [stage] at late
      exact absurd late (by decide)
  | gone => exact (unfinished stage).elim
  | dropped =>
      by_cases done : server.NetworkDone
      · exact ⟨.joinNetwork, _, rfl, if_pos ⟨stage, done⟩⟩
      · exact goes_on_of_network (by rw [stage]; rfl) done
  | joined =>
      by_cases done : server.CommandsDone
      · exact ⟨.joinCommands, _, rfl, if_pos ⟨stage, done⟩⟩
      · exact goes_on_of_commands done
  | draining =>
      by_cases done : server.NetworkDone
      · exact ⟨.finish, _, rfl, if_pos ⟨stage, done⟩⟩
      · exact goes_on_of_network (by rw [stage]; rfl) done

/-- **The teardown ends.** Once every connection was dropped, whatever had completed before
and however the threads interleave: the server's own steps are no more than what was then
outstanding and what transmitters send meanwhile; and from wherever it stands the destructor
can be brought to its end by such steps. -/
theorem teardown_ends (reachable : system.Reachable server)
    (dropped : 2 ≤ server.stage.number) :
    (∀ actions final, system.runFrom server actions = some final →
      actions.countP Action.own + server.streamed ≤ server.potential + final.streamed) ∧
    ∃ actions final, (∀ action ∈ actions, Action.own action = true) ∧
      system.runFrom server actions = some final ∧ final.stage = .gone := by
  have torn : server.Torn := ⟨reachable_sound reachable, dropped⟩
  refine ⟨fun actions final reached => ?_, ?_⟩
  · have paid := torn_paid.runFrom torn reached
    omega
  · have goes_on : ∀ state : Server, state.Torn → ¬ state.stage = .gone →
        ∃ action next, Action.own action = true ∧ system.step state action = some next :=
      fun state torn unfinished => torn.goes_on unfinished
    exact torn_paid.ends goes_on torn

/-- A session that watches is torn down to the end. -/
theorem teardown_ends_watching :
    ∃ server, system.run droppedRun = some server ∧ server.sessions = [0] ∧
      ∃ actions final, (∀ action ∈ actions, Action.own action = true) ∧
        system.runFrom server actions = some final ∧ final.stage = .gone := by
  have runs : (system.run droppedRun).any (fun server =>
      server.stage = .dropped && server.sessions = [0]) = true := by
    decide +kernel
  obtain ⟨server, reached, seen⟩ := (Option.any_eq_true _ _).mp runs
  obtain ⟨dropped, held⟩ := Bool.and_eq_true_iff.mp seen
  have late : 2 ≤ server.stage.number := by
    rw [of_decide_eq_true dropped]
    decide
  exact ⟨server, reached, of_decide_eq_true held, (teardown_ends ⟨droppedRun, reached⟩ late).2⟩

end Server

end DataFeed.Frontend
