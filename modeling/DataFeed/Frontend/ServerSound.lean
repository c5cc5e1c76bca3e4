import DataFeed.Frontend.Turns
import DataFeed.Frontend.WatchedStream

/-! # What holds of a server however its threads interleave

Every step is one connection's own, which leaves the others as they are (`Turns`), or a
transmitter's, or one of the acceptor and the destructor.
-/

namespace DataFeed.Frontend

open Foundation L2 Venue DataFeed.Core Watching

namespace Server

/-- The stages in their order. -/
def Stage.number : Stage → Nat
  | .serving => 0
  | .stopping => 1
  | .dropped => 2
  | .joined => 3
  | .draining => 4
  | .gone => 5

variable (server : Server)

/-- A connection that the server holds. -/
abbrev Holds (session : WatcherId) : Prop := session ∈ server.sessions

/-- What holds of a server however its threads interleave. -/
structure Sound : Prop where
  audience : Audience.system.Reachable server.audience
  unused : ∀ session, server.accepted ≤ session →
    server.peers session = .unused ∧ server.audience.clients session = .new
  watchers : ∀ stream, ∀ session ∈ server.audience.streams.watchersOf stream,
    session < server.accepted
  members : ∀ session ∈ server.sessions, session < server.accepted
  kept : ∀ session < server.accepted,
    (server.peers session).Kept (server.audience.clients session) (server.Holds session)
  dropped : 2 ≤ server.stage.number → server.listening = false ∧
    ∀ session < server.accepted, (server.peers session).session.closed = true
  joined : 3 ≤ server.stage.number → server.accepting = false ∧ server.retrying = false ∧
    ∀ session < server.accepted, (server.peers session).operations = 0
  drained : 4 ≤ server.stage.number → server.CommandsDone
  gone : 5 ≤ server.stage.number →
    ∀ session < server.accepted, (server.peers session).posted = []

/-- The connection that an action of the audience is about. -/
def sessionOf : Audience.Action → Option WatcherId
  | .read session _ | .close session | .begin session | .advance session | .refuse session =>
      some session
  | _ => none

/-- A step that is one connection's own leaves the others and the rest of the server. -/
structure Own (session : WatcherId) (server next : Server) : Prop where
  audience : next.audience = server.audience ∨ ∃ action, sessionOf action = some session ∧
    server.audience.step action = some next.audience
  peers : ∀ other, other ≠ session → next.peers other = server.peers other
  sessions : ∀ other, other ≠ session → (next.Holds other ↔ server.Holds other)
  accepted : next.accepted = server.accepted
  listening : next.listening = server.listening
  accepting : next.accepting = server.accepting
  retrying : next.retrying = server.retrying
  stage : next.stage = server.stage
  streamed : next.streamed = server.streamed
  shrinks : next.sessions ⊆ server.sessions

variable {server} {next : Server}

/-- A connection's own action is about that connection. -/
theorem sessionOf_own {session : WatcherId} {client after : Viewer} {streams later : Streams}
    {action : Audience.Action} (own : Audience.Own session client streams action after later) :
    sessionOf action = some session := by
  cases own <;> rfl

/-- Only a connection's own steps make a stream hold it. -/
theorem watchers_step {audience later : Audience} {action : Audience.Action}
    (stepped : audience.step action = some later) {stream : StreamRef} {session : WatcherId}
    (watches : session ∈ later.streams.watchersOf stream) :
    session ∈ audience.streams.watchersOf stream ∨ sessionOf action = some session := by
  rcases Audience.step_cases stepped session with own | ⟨-, undisturbed⟩
  · exact .inr (sessionOf_own own)
  · exact .inl ((undisturbed.watching stream).mp watches)

/-- A step that is about one connection leaves the others as they are. -/
theorem clients_step {audience later : Audience} {action : Audience.Action}
    (stepped : audience.step action = some later) {session other : WatcherId}
    (about : sessionOf action = some session) (apart : other ≠ session) :
    later.clients other = audience.clients other := by
  rcases Audience.step_cases stepped other with own | ⟨same, -⟩
  · exact (apart (Option.some.inj ((sessionOf_own own).symm.trans about))).elim
  · exact same

/-- A step that is one connection's own leaves the other clients. -/
theorem Own.clients {session : WatcherId} (own : Own session server next) {other : WatcherId}
    (apart : other ≠ session) :
    next.audience.clients other = server.audience.clients other := by
  rcases own.audience with same | ⟨action, about, stepped⟩
  · rw [same]
  · exact clients_step stepped about apart

namespace Sound

/-- A new server is sound. -/
theorem init : Server.init.Sound where
  audience := .init
  unused _ _ := ⟨rfl, rfl⟩
  watchers _ _ watches := (List.not_mem_nil watches).elim
  members _ member := (List.not_mem_nil member).elim
  kept _ before := (Nat.not_lt_zero _ before).elim
  dropped late := absurd late (by decide)
  joined late := absurd late (by decide)
  drained late := absurd late (by decide)
  gone late := absurd late (by decide)

/-- A connection's own step. -/
theorem own (sound : server.Sound) {session : WatcherId} (before : session < server.accepted)
    (own : Own session server next)
    (turn : (server.peers session).Turn (server.audience.clients session) (server.Holds session)
      (next.peers session) (next.audience.clients session) (next.Holds session)) :
    next.Sound where
  audience := by
    rcases own.audience with same | ⟨action, -, stepped⟩
    · rw [same]
      exact sound.audience
    · exact sound.audience.step stepped
  unused other after := by
    rw [own.accepted] at after
    have apart : other ≠ session := (Nat.lt_of_lt_of_le before after).ne'
    rw [own.peers other apart, own.clients apart]
    exact sound.unused other after
  watchers stream other watches := by
    rw [own.accepted]
    rcases own.audience with same | ⟨action, about, stepped⟩
    · rw [same] at watches
      exact sound.watchers stream other watches
    · rcases watchers_step stepped watches with earlier | mine
      · exact sound.watchers stream other earlier
      · obtain rfl := Option.some.inj (about.symm.trans mine)
        exact before
  members other member := own.accepted ▸ sound.members other (own.shrinks member)
  kept other present := by
    rw [own.accepted] at present
    by_cases same : other = session
    · subst same
      exact turn.kept (sound.kept other before)
    · rw [own.peers other same, own.clients same]
      exact (sound.kept other present).same rfl rfl rfl rfl rfl (own.sessions other same)
  dropped late := by
    rw [own.stage] at late
    obtain ⟨shut, closed⟩ := sound.dropped late
    refine ⟨own.listening.trans shut, fun other present => ?_⟩
    rw [own.accepted] at present
    by_cases same : other = session
    · subst same
      exact (turn.stays (closed other before)).1
    · rw [own.peers other same]
      exact closed other present
  joined late := by
    rw [own.stage] at late
    obtain ⟨accepting, retrying, idle⟩ := sound.joined late
    refine ⟨own.accepting.trans accepting, own.retrying.trans retrying, fun other present => ?_⟩
    rw [own.accepted] at present
    by_cases same : other = session
    · subst same
      have closed := (sound.dropped (Nat.le_of_succ_le late)).2 other before
      exact Nat.le_zero.mp ((turn.stays closed).2.trans (idle other before).le)
    · rw [own.peers other same]
      exact idle other present
  drained late other present := by
    rw [own.stage] at late
    rw [own.accepted] at present
    by_cases same : other = session
    · subst same
      have closed := (sound.dropped (by omega)).2 other before
      exact (turn.rests (sound.kept other before).closed closed (sound.drained late other before)).1
    · rw [own.peers other same, own.clients same]
      exact sound.drained late other present
  gone late other present := by
    rw [own.stage] at late
    rw [own.accepted] at present
    by_cases same : other = session
    · subst same
      have closed := (sound.dropped (by omega)).2 other before
      have fewer := (turn.rests (sound.kept other before).closed closed
        (sound.drained (by omega) other before)).2
      rw [sound.gone late other before, List.length_nil] at fewer
      exact List.length_eq_zero_iff.mp (Nat.le_zero.mp fewer)
    · rw [own.peers other same]
      exact sound.gone late other present

end Sound

/-- The connection that an action is about, if it is one's own. -/
def Action.session? : Action → Option WatcherId
  | .handshake session _ | .read session _ | .socket session _ | .deliver session _ |
    .begin session | .advance session | .refuse session | .conclude session _ |
    .commandDone session => some session
  | _ => none

/-- When the network thread's context runs a handler. -/
theorem network_eq_some_iff {outstanding : Bool} {handled : Server} :
    server.network outstanding handled = some next ↔
      server.stage.networking = true ∧ outstanding = true ∧ handled = next := by
  unfold network
  split <;> simp_all

/-- What a connection's own step does to it and to the server. -/
structure Turns (server : Server) (session : WatcherId) (next : Server) : Prop where
  own : Own session server next
  turn : (server.peers session).Turn (server.audience.clients session) (server.Holds session)
    (next.peers session) (next.audience.clients session) (next.Holds session)

/-- What a new watcher is told at once goes to itself, and is a description and at most one
payload more. -/
theorem sendings_watch (streams : Streams) (stream : StreamRef) (session : WatcherId) :
    (∀ sending ∈ streams.sendings stream (.watch session), sending.1 = session) ∧
      (streams.sendings stream (.watch session)).length ≤ 2 := by
  unfold Streams.sendings
  cases streams.heap[stream]? with
  | none => exact ⟨fun _ member => (List.not_mem_nil member).elim, Nat.zero_le _⟩
  | some called =>
      simp only [Option.map_some, Option.getD_some, Stream.call, Stream.watch]
      refine ⟨fun sending member => ?_, ?_⟩
      · obtain ⟨payload, -, rfl⟩ := List.mem_map.mp member
        rfl
      · have few : called.opening.length ≤ 1 := by
          unfold Stream.opening
          split
          · exact Nat.le_refl _
          · split
            · exact Nat.le_refl _
            · exact Nat.zero_le _
        simpa using few

/-- What a command's step sends goes to the connection itself. -/
theorem opening_own (session : WatcherId) :
    ∀ sending ∈ server.opening session, sending.1 = session := by
  unfold opening
  split
  · exact (sendings_watch _ _ session).1
  · exact fun _ member => (List.not_mem_nil member).elim

/-- What is left to do after a stream was unwatched. -/
theorem afterUnwatch_work (client : Viewer) (within : Option SubscriptionId) :
    (client.afterUnwatch within).phase.work ≤ within.toList.length := by
  cases within <;> exact Nat.le_refl _

/-- A step within a command is paid for, with what it sends. -/
theorem advance_work {session : WatcherId} {find : SubscriptionId → Option StreamRef}
    {later : Viewer} (advanced : (server.audience.clients session).advance find = some later) :
    later.phase.work + (server.opening session).length <
      (server.audience.clients session).phase.work := by
  have step := Viewer.advance_cases advanced
  unfold opening
  generalize (server.audience.clients session).phase = phase at step ⊢
  cases step with
  | other | found | missing | another | alone | assign => simp [Phase.work]
  | add id stream =>
      have few := (sendings_watch server.audience.streams stream session).2
      simp only [Phase.work]
      omega
  | leave id stream within =>
      cases within <;> simp [Phase.work]
  | gone id within =>
      have less := afterUnwatch_work (server.audience.clients session) within
      cases within <;> simp [Phase.work] at less ⊢ <;> omega
  | remove id stream within =>
      have less := afterUnwatch_work (server.audience.clients session) within
      cases within <;> simp [Phase.work] at less ⊢ <;> omega

namespace Turns

variable {session : WatcherId} {peer : Peer}

/-- A handler of the network thread has run. -/
theorem ran (handled : (server.peers session).Handled peer) :
    Turns server session (server.ran session peer) := by
  refine ⟨⟨?_, fun _ apart => Function.update_of_ne apart _ _, fun _ _ => Iff.rfl, rfl, rfl, rfl,
    rfl, rfl, rfl, List.Subset.refl _⟩, ?_⟩
  · unfold Server.ran
    cases peer.session.closed with
    | true => exact .inr ⟨.close session, rfl, rfl⟩
    | false =>
        refine .inl ?_
        simp only [Bool.false_eq_true, ↓reduceIte, Audience.update, Function.update_eq_self]
  · rw [show (server.ran session peer).peers session = peer from Function.update_self _ _ _,
      show (server.ran session peer).audience.clients session = _ from
        Audience.clients_update_self _ _]
    exact .handled peer handled

/-- A read has ended. -/
theorem read {task : Option Task} (command : task ≠ some .forget)
    (reading : (server.peers session).reading = true) :
    Turns server session (server.read session task) := by
  unfold Server.read
  dsimp only
  cases unread : ((server.peers session).read task).2 with
  | none => exact .ran (Peer.read_handled reading unread)
  | some posted =>
      cases task with
      | none => simp [Peer.read] at unread
      | some task =>
          have same : posted = task := by
            unfold Peer.read at unread
            dsimp only at unread
            split at unread
            · contradiction
            · split at unread
              · contradiction
              · exact (Option.some.inj unread).symm
          have other : posted ≠ .forget := fun forget =>
            command (congrArg some (same.symm.trans forget))
          refine ⟨⟨.inr ⟨.read session posted, rfl, if_neg other⟩,
            fun _ apart => Function.update_of_ne apart _ _, fun _ _ => Iff.rfl, rfl, rfl, rfl,
            rfl, rfl, rfl, List.Subset.refl _⟩, ?_⟩
          dsimp only
          rw [Function.update_self, Audience.clients_update_self]
          exact .read task posted (same ▸ other) unread

/-- The command strand takes the next task. -/
theorem begin (began : server.begin session = some next) : Turns server session next := by
  unfold Server.begin at began
  split at began
  · rename_i rests
    obtain ⟨client, took, rfl⟩ := Option.map_eq_some_iff.mp began
    refine ⟨⟨.inr ⟨.begin session, rfl, ?_⟩, fun _ apart => Function.update_of_ne apart _ _,
      fun _ _ => Iff.rfl, rfl, rfl, rfl, rfl, rfl, rfl, List.Subset.refl _⟩, ?_⟩
    · simp only [Audience.step, took, Option.map_some]
    · dsimp only
      rw [Function.update_self, Audience.clients_update_self]
      exact .begin client rests took
  · contradiction

/-- A watch fails. -/
theorem refuse {client : Viewer} (refused : (server.audience.clients session).refuse = some client) :
    Turns server session { server with audience := server.audience.update session client } := by
  refine ⟨⟨.inr ⟨.refuse session, rfl, ?_⟩, fun _ _ => rfl, fun _ _ => Iff.rfl, rfl, rfl, rfl,
    rfl, rfl, rfl, List.Subset.refl _⟩, ?_⟩
  · simp only [Audience.step, refused, Option.map_some]
  · dsimp only
    rw [Audience.clients_update_self]
    exact .refuse client refused

/-- A command is counted as done. -/
theorem commandDone (done : server.commandDone session = some next) :
    Turns server session next := by
  unfold Server.commandDone at done
  split at done
  · rename_i sent
    obtain rfl := Option.some.inj done
    refine ⟨⟨.inl rfl, fun _ apart => Function.update_of_ne apart _ _, fun _ _ => Iff.rfl, rfl, rfl,
      rfl, rfl, rfl, rfl, List.Subset.refl _⟩, ?_⟩
    dsimp only
    rw [Function.update_self]
    exact .done sent
  · contradiction

/-- A command is through, or the connection is forgotten. -/
theorem conclude {requestId : UInt64} (concluded : server.conclude session requestId = some next) :
    Turns server session next := by
  unfold Server.conclude at concluded
  split at concluded
  · rename_i idle forgets
    obtain rfl := Option.some.inj concluded
    refine ⟨⟨.inl rfl, fun _ apart => Function.update_of_ne apart _ _, fun other apart => ?_, rfl,
      rfl, rfl, rfl, rfl, rfl, List.filter_sublist.subset⟩, ?_⟩
    · simp [Holds, List.mem_filter, apart]
    · have dropped : session ∉ server.sessions.filter (· ≠ session) := by
        simp [List.mem_filter]
      rw [Holds, Holds]
      dsimp only
      rw [Function.update_self, eq_false dropped]
      exact .forgotten forgets
  · rename_i task command idle runs
    obtain rfl := Option.some.inj concluded
    refine ⟨⟨.inl rfl, fun _ apart => Function.update_of_ne apart _ _, fun _ _ => Iff.rfl, rfl, rfl,
      rfl, rfl, rfl, rfl, List.Subset.refl _⟩, ?_⟩
    dsimp only
    rw [Function.update_self]
    exact .concluded task command runs _
  · contradiction

/-- The command strand takes a step within a command. -/
theorem advance (advanced : server.advance session = some next) :
    Turns server session next := by
  obtain ⟨audience, moved, rfl⟩ := Option.map_eq_some_iff.mp advanced
  obtain ⟨client, took, rfl⟩ := Option.map_eq_some_iff.mp moved
  refine ⟨⟨.inr ⟨.advance session, rfl, moved⟩, fun other apart => ?_, fun _ _ => Iff.rfl, rfl,
    rfl, rfl, rfl, rfl, rfl, List.Subset.refl _⟩, ?_⟩
  · have elsewhere : (server.opening session).filter (fun sending => sending.1 = other) = [] := by
      refine List.filter_eq_nil_iff.mpr fun sending member => ?_
      rw [opening_own session sending member]
      simpa using apart.symm
    simp only [send, elsewhere, List.map_nil, List.append_nil]
  · rw [show Audience.clients _ session = client from
      (Audience.clients_update_self session client :
        (server.audience.update session client).clients session = client)]
    refine .advance _ client took _ ?_
    have all := List.length_filter_le (fun sending : Sending => decide (sending.1 = session))
      (server.opening session)
    have spends := advance_work took
    rw [List.length_map]
    omega

end Turns

/-- What a connection's own step does. -/
theorem step_turns {action : Action} {session : WatcherId}
    (about : action.session? = some session) (stepped : server.step action = some next) :
    Turns server session next := by
  cases action with
  | handshake other failed =>
      obtain rfl := Option.some.inj about
      obtain ⟨-, outstanding, rfl⟩ := network_eq_some_iff.mp stepped
      exact .ran (Peer.begun_handled outstanding failed)
  | read other task =>
      obtain rfl := Option.some.inj about
      simp only [step] at stepped
      split at stepped
      · contradiction
      · rename_i command
        obtain ⟨-, outstanding, rfl⟩ := network_eq_some_iff.mp stepped
        exact .read command outstanding
  | socket other handler =>
      obtain rfl := Option.some.inj about
      obtain ⟨peer, ended, ran⟩ := Option.bind_eq_some_iff.mp stepped
      obtain ⟨-, -, rfl⟩ := network_eq_some_iff.mp ran
      exact .ran (Peer.socket_handled ended)
  | deliver other now =>
      obtain rfl := Option.some.inj about
      obtain ⟨peer, delivered, ran⟩ := Option.bind_eq_some_iff.mp stepped
      obtain ⟨-, -, rfl⟩ := network_eq_some_iff.mp ran
      exact .ran (Peer.deliver_handled delivered)
  | begin other =>
      obtain rfl := Option.some.inj about
      exact .begin stepped
  | advance other =>
      obtain rfl := Option.some.inj about
      exact .advance stepped
  | refuse other =>
      obtain rfl := Option.some.inj about
      obtain ⟨client, refused, rfl⟩ := Option.map_eq_some_iff.mp stepped
      exact .refuse refused
  | conclude other requestId =>
      obtain rfl := Option.some.inj about
      exact .conclude stepped
  | commandDone other =>
      obtain rfl := Option.some.inj about
      exact .commandDone stepped
  | transmitter | destroy | receive | interrupt | accept | retry | stop | drop | joinNetwork |
    joinCommands | finish => contradiction

/-- Nothing is done for a connection that was not accepted. -/
theorem Sound.session_lt (sound : server.Sound) {action : Action} {session : WatcherId}
    (about : action.session? = some session) (stepped : server.step action = some next) :
    session < server.accepted := by
  by_contra late
  obtain ⟨peer, client⟩ := sound.unused session (Nat.le_of_not_lt late)
  cases action with
  | transmitter | destroy | receive | interrupt | accept | retry | stop | drop | joinNetwork |
    joinCommands | finish => contradiction
  | handshake other failed =>
      obtain rfl := Option.some.inj about
      simp [step, network, peer, Peer.unused] at stepped
  | read other task =>
      obtain rfl := Option.some.inj about
      simp [step, network, peer, Peer.unused] at stepped
  | socket other handler =>
      obtain rfl := Option.some.inj about
      cases handler <;>
        simp [step, peer, Peer.unused, Peer.socket, Session.handle, Session.new] at stepped
  | deliver other now =>
      obtain rfl := Option.some.inj about
      simp [step, peer, Peer.unused, Peer.deliver] at stepped
  | begin other =>
      obtain rfl := Option.some.inj about
      simp [step, Server.begin, client, Viewer.begin, Viewer.new] at stepped
  | advance other =>
      obtain rfl := Option.some.inj about
      simp [step, Server.advance, Audience.advance, client, Viewer.advance, Viewer.new] at stepped
  | refuse other =>
      obtain rfl := Option.some.inj about
      simp [step, client, Viewer.refuse, Viewer.new] at stepped
  | conclude other requestId =>
      obtain rfl := Option.some.inj about
      simp [step, Server.conclude, peer, client, Viewer.new, Peer.unused] at stepped
  | commandDone other =>
      obtain rfl := Option.some.inj about
      simp [step, Server.commandDone, peer, Peer.unused] at stepped

/-- What transmitters do leaves every connection's commands as they are. -/
theorem clients_stream {audience later : Audience} {action : Audience.Action}
    (stepped : audience.step action = some later) (stream : sessionOf action = none)
    (session : WatcherId) : later.clients session = audience.clients session := by
  rcases Audience.step_cases stepped session with own | ⟨same, -⟩
  · exact (Option.some_ne_none _ ((sessionOf_own own).symm.trans stream)).elim
  · exact same

/-- A payload goes to connections that watch a registered stream. -/
def Reaches (audience : Audience) (sent : List Sending) : Prop :=
  ∀ sending ∈ sent, ∃ id stream, audience.streams.outbox.find? id = some stream ∧
    sending.1 ∈ audience.streams.watchersOf stream

namespace Sound

/-- What is sent goes to connections that were accepted, and to none once they are gone. -/
theorem unsent (sound : server.Sound) {sent : List Sending} (reaches : Reaches server.audience sent)
    {session : WatcherId} (apart : server.accepted ≤ session ∨ 5 ≤ server.stage.number) :
    sent.filter (fun sending => sending.1 = session) = [] := by
  refine List.filter_eq_nil_iff.mpr fun sending member same => ?_
  obtain rfl := of_decide_eq_true same
  obtain ⟨id, stream, registered, watches⟩ := reaches sending member
  have present := sound.watchers stream _ watches
  rcases apart with late | gone
  · exact Nat.not_lt_of_le late present
  · have closed := (sound.dropped (by omega)).2 _ present
    obtain ⟨tasks, idle, -⟩ := sound.drained (by omega) _ present
    have shut := (sound.kept _ present).closed.trans closed
    exact (Audience.reachable_sound sound.audience).released ⟨shut, tasks, idle⟩ registered watches

/-- A transmitter's step. -/
theorem streams (sound : server.Sound) {action : Audience.Action} {later : Audience}
    (stepped : server.audience.step action = some later) (stream : sessionOf action = none)
    (sent : List Sending) (reaches : Reaches server.audience sent) (streamed : Nat) :
    Sound { server.send sent with audience := later, streamed := streamed } where
  audience := sound.audience.step stepped
  unused session late := by
    obtain ⟨peer, client⟩ := sound.unused session late
    refine ⟨?_, (clients_stream stepped stream session).trans client⟩
    simp only [send, sound.unsent reaches (.inl late), List.map_nil, List.append_nil]
    exact peer
  watchers query session watches := by
    rcases watchers_step stepped watches with earlier | mine
    · exact sound.watchers query session earlier
    · exact (Option.some_ne_none _ (mine.symm.trans stream)).elim
  members := sound.members
  kept session present := by
    have same := congrArg Viewer.closed (clients_stream stepped stream session)
    have tasks := congrArg Viewer.tasks (clients_stream stepped stream session)
    exact (sound.kept session present).same rfl rfl rfl same tasks Iff.rfl
  dropped := sound.dropped
  joined := sound.joined
  drained late session present := by
    obtain ⟨tasks, idle, current⟩ := sound.drained late session present
    have same := clients_stream stepped stream session
    exact ⟨(congrArg Viewer.tasks same).trans tasks, (congrArg Viewer.phase same).trans idle,
      current⟩
  gone late session present := by
    simp only [send, sound.unsent reaches (.inr late), List.map_nil, List.append_nil]
    exact sound.gone late session present

end Sound

/-- Sending nothing changes nothing. -/
theorem send_nil : server.send [] = server := by
  simp [send]

/-- A transmitter's call reaches the watchers of its stream, which is registered. -/
theorem reaches_sendings {id : SubscriptionId} {stream : StreamRef}
    (registered : server.audience.streams.outbox.find? id = some stream) {made : Stream.Call}
    (transmitted : (∃ message, made = .receive message) ∨ ∃ gap, made = .interrupt gap) :
    Reaches server.audience (server.audience.streams.sendings stream made) := by
  intro sending member
  refine ⟨id, stream, registered, ?_⟩
  unfold Streams.sendings at member
  unfold Streams.watchersOf
  cases built : server.audience.streams.heap[stream]? with
  | none =>
      rw [built] at member
      exact (List.not_mem_nil member).elim
  | some called =>
      rw [built] at member
      have watches : ∀ payload, sending ∈ called.sendLocked payload →
          sending.1 ∈ called.watchers := by
        intro payload sent
        obtain ⟨watcher, watching, rfl⟩ := List.mem_map.mp sent
        exact watching
      rcases transmitted with ⟨message, rfl⟩ | ⟨gap, rfl⟩
      · rcases List.mem_append.mp member with first | last
        · split at first
          · exact watches _ first
          · exact (List.not_mem_nil first).elim
        · exact watches _ last
      · exact watches _ member

namespace Sound

/-- A transmitter's call keeps the server sound. -/
theorem transmit (sound : server.Sound) {id : SubscriptionId} {made : Stream.Call}
    (transmitted : (∃ message, made = .receive message) ∨ ∃ gap, made = .interrupt gap)
    (called : server.transmit id made = some next) : next.Sound := by
  obtain ⟨stream, registered, rfl⟩ := Option.map_eq_some_iff.mp called
  have reaches := reaches_sendings registered transmitted
  rcases transmitted with ⟨message, rfl⟩ | ⟨gap, rfl⟩
  · have received : server.audience.step (.receive stream message) = some _ := rfl
    exact sound.streams received rfl _ reaches _
  · have interrupted : server.audience.step (.interrupt stream gap) = some _ := rfl
    exact sound.streams interrupted rfl _ reaches _

/-- A connection is accepted, which is only begun while the acceptor is open. -/
theorem accept (sound : server.Sound) (result : Accepted) (now : Nat) :
    (server.accept result now).Sound := by
  unfold Server.accept
  split
  · exact { sound with joined := fun late => ⟨rfl, (sound.joined late).2⟩ }
  · rename_i opened
    have listening : server.listening = true := by
      simp only [Bool.or_eq_true, Bool.not_eq_true', not_or, Bool.not_eq_false] at opened
      exact opened.2
    have early : ¬ 2 ≤ server.stage.number := fun late =>
      Bool.false_ne_true ((sound.dropped late).1.symm.trans listening)
    split
    · exact { sound with joined := fun late => (early (Nat.le_of_succ_le late)).elim }
    · have fresh := sound.unused server.accepted (Nat.le_refl _)
      constructor
      case audience => exact sound.audience
      case unused =>
        intro session late
        have beyond : session ≠ server.accepted := by
          dsimp only at late
          omega
        refine ⟨(Function.update_of_ne beyond _ _).trans ?_, ?_⟩
        · exact (sound.unused session (Nat.le_of_succ_le late)).1
        · exact (sound.unused session (Nat.le_of_succ_le late)).2
      case watchers =>
        exact fun stream session watches => Nat.lt_succ_of_lt (sound.watchers stream session watches)
      case members =>
        intro session member
        rcases List.mem_append.mp member with earlier | last
        · exact Nat.lt_succ_of_lt (sound.members session earlier)
        · exact List.mem_singleton.mp last ▸ Nat.lt_succ_self _
      case kept =>
        intro session present
        dsimp only [Holds]
        by_cases same : session = server.accepted
        · subst same
          rw [Function.update_self, fresh.2]
          refine (Peer.Kept.accepted now).same rfl rfl rfl rfl rfl ?_
          simp
        · rw [Function.update_of_ne same]
          have before : session < server.accepted := by
            dsimp only at present
            omega
          refine (sound.kept session before).same rfl rfl rfl rfl rfl ?_
          simp [same]
      case dropped => exact fun late => (early late).elim
      case joined => exact fun late => (early (Nat.le_of_succ_le late)).elim
      case drained => exact fun late => (early (by dsimp only at late; omega)).elim
      case gone => exact fun late => (early (by dsimp only at late; omega)).elim

/-- So does the end of the wait after a failed accept. -/
theorem retry (sound : server.Sound) (failed : Bool) : (server.retry failed).Sound := by
  unfold Server.retry
  split
  · rename_i opened
    have early : ¬ 2 ≤ server.stage.number := fun late =>
      Bool.false_ne_true ((sound.dropped late).1.symm.trans (Bool.and_eq_true_iff.mp opened).2)
    exact { sound with joined := fun late => (early (Nat.le_of_succ_le late)).elim }
  · exact { sound with
      joined := fun late => ⟨(sound.joined late).1, rfl, (sound.joined late).2.2⟩ }

/-- A connection is dropped before the others are. -/
theorem closeSession (sound : server.Sound) (early : ¬ 2 ≤ server.stage.number)
    {session : WatcherId} (present : session < server.accepted) :
    (server.closeSession session).Sound := by
  have clients : ∀ other, other ≠ session →
      (server.closeSession session).audience.clients other = server.audience.clients other :=
    fun other apart => Audience.clients_update session other _ apart
  have closed : (server.peers session).close.session.closed = true := Session.close_closed _
  have closes : server.audience.step (.close session) =
      some (server.closeSession session).audience := by
    simp only [Server.closeSession, ran, closed, ↓reduceIte]
    rfl
  constructor
  case audience =>
    have closed : Audience.system.step server.audience (.close session) = _ := closes
    exact sound.audience.step closed
  case unused =>
    intro other late
    have apart : other ≠ session := (Nat.lt_of_lt_of_le present late).ne'
    refine ⟨(Function.update_of_ne apart _ _).trans (sound.unused other late).1, ?_⟩
    exact (clients other apart).trans (sound.unused other late).2
  case watchers =>
    intro stream other watches
    rcases watchers_step closes watches with earlier | mine
    · exact sound.watchers stream other earlier
    · obtain rfl := Option.some.inj mine
      exact present
  case members => exact sound.members
  case kept =>
    intro other before
    by_cases same : other = session
    · subst same
      rw [show (server.closeSession other).peers other = _ from Function.update_self _ _ _,
        show (server.closeSession other).audience.clients other = _ from
          Audience.clients_update_self _ _]
      exact (sound.kept other before).ran rfl rfl fun _ => closed
    · rw [show (server.closeSession session).peers other = _ from Function.update_of_ne same _ _,
        clients other same]
      exact sound.kept other before
  case dropped => exact fun late => (early late).elim
  case joined => exact fun late => (early (Nat.le_of_succ_le late)).elim
  case drained => exact fun late => (early (Nat.le_trans (by decide) late)).elim
  case gone => exact fun late => (early (Nat.le_trans (by decide) late)).elim

/-- Every connection of a list is dropped in turn. -/
theorem closeSessions (sound : server.Sound) (early : ¬ 2 ≤ server.stage.number)
    (sessions : List WatcherId) (present : ∀ session ∈ sessions, session < server.accepted) :
    ∃ closed : Server, sessions.foldl Server.closeSession server = closed ∧ closed.Sound ∧
      closed.accepted = server.accepted ∧ closed.listening = server.listening ∧
      ∀ session, session ∈ sessions ∨ (server.peers session).session.closed = true →
        (closed.peers session).session.closed = true := by
  induction sessions generalizing server with
  | nil => exact ⟨server, rfl, sound, rfl, rfl, fun _ either =>
      either.resolve_left (List.not_mem_nil)⟩
  | cons first rest ih =>
      obtain ⟨here, others⟩ := List.forall_mem_cons.mp present
      obtain ⟨closed, folded, still, accepted, listening, all⟩ :=
        ih (sound.closeSession early here) early others
      refine ⟨closed, folded, still, accepted, listening, fun session either => all session ?_⟩
      by_cases same : session = first
      · subst same
        refine .inr ?_
        rw [show (server.closeSession session).peers session = _ from Function.update_self _ _ _]
        exact Session.close_closed _
      · rw [show (server.closeSession first).peers session = _ from Function.update_of_ne same _ _]
        exact either.imp_left fun member => (List.mem_cons.mp member).resolve_left same

end Sound

/-- Dropping connections does not depend on the stage. -/
theorem foldl_closeSession_stage (server : Server) (stage : Stage) (sessions : List WatcherId) :
    sessions.foldl closeSession { server with stage := stage } =
      { sessions.foldl closeSession server with stage := stage } := by
  induction sessions generalizing server with
  | nil => rfl
  | cons first rest ih => exact ih (server.closeSession first)

namespace Sound

/-- Every connection is dropped, and no more are accepted. -/
theorem drop (sound : server.Sound) (stopping : server.stage = .stopping) :
    Sound (server.sessions.foldl Server.closeSession
      { server with listening := false, stage := .dropped }) := by
  have early : ¬ 2 ≤ server.stage.number := by
    rw [stopping]
    decide
  have shut : Sound { server with listening := false } :=
    { sound with dropped := fun late => (early late).elim }
  obtain ⟨closed, folded, still, accepted, listening, all⟩ :=
    shut.closeSessions early server.sessions sound.members
  have folds := foldl_closeSession_stage { server with listening := false } .dropped
    server.sessions
  dsimp only at folds
  rw [folds, folded]
  refine { still with dropped := ?_, joined := ?_, drained := ?_, gone := ?_ }
  · refine fun _ => ⟨listening, fun session present => all session ?_⟩
    rw [show closed.accepted = server.accepted from accepted] at present
    by_cases shut : (server.peers session).session.closed = true
    · exact .inr shut
    · exact .inl ((sound.kept session present).held ((Bool.not_eq_true _).mp shut))
  · exact fun late => absurd late (by decide : ¬ 3 ≤ Stage.dropped.number)
  · exact fun late => absurd late (by decide : ¬ 4 ≤ Stage.dropped.number)
  · exact fun late => absurd late (by decide : ¬ 5 ≤ Stage.dropped.number)

/-- Every step keeps the server sound. -/
theorem step (sound : server.Sound) {action : Action} (stepped : server.step action = some next) :
    next.Sound := by
  cases about : action.session? with
  | some session =>
      have turns := step_turns about stepped
      exact sound.own (sound.session_lt about stepped) turns.own turns.turn
  | none =>
      cases action with
      | handshake | read | socket | deliver | begin | advance | refuse | conclude |
        commandDone => contradiction
      | transmitter id venue book precision =>
          obtain ⟨audience, built, rfl⟩ := Option.map_eq_some_iff.mp stepped
          have streams := sound.streams built rfl [] (fun _ member => (List.not_mem_nil member).elim)
            server.streamed
          rw [send_nil] at streams
          exact streams
      | destroy id =>
          obtain rfl := Option.some.inj stepped
          have destroyed : server.audience.step (.destroy id) = some _ := rfl
          have streams := sound.streams destroyed rfl []
            (fun _ member => (List.not_mem_nil member).elim) server.streamed
          rw [send_nil] at streams
          exact streams
      | receive id message => exact sound.transmit (.inl ⟨message, rfl⟩) stepped
      | interrupt id gap => exact sound.transmit (.inr ⟨gap, rfl⟩) stepped
      | accept result now =>
          obtain ⟨-, -, rfl⟩ := network_eq_some_iff.mp stepped
          exact sound.accept result now
      | retry failed =>
          obtain ⟨-, -, rfl⟩ := network_eq_some_iff.mp stepped
          exact sound.retry failed
      | stop =>
          simp only [Server.step] at stepped
          split at stepped
          · rename_i serving
            obtain rfl := Option.some.inj stepped
            exact { sound with
              dropped := fun late => absurd late (by decide : ¬ 2 ≤ Stage.stopping.number)
              joined := fun late => absurd late (by decide : ¬ 3 ≤ Stage.stopping.number)
              drained := fun late => absurd late (by decide : ¬ 4 ≤ Stage.stopping.number)
              gone := fun late => absurd late (by decide : ¬ 5 ≤ Stage.stopping.number) }
          · contradiction
      | drop =>
          simp only [Server.step] at stepped
          split at stepped
          · rename_i stopping
            obtain rfl := Option.some.inj stepped
            exact sound.drop stopping
          · contradiction
      | joinNetwork =>
          simp only [Server.step] at stepped
          split at stepped
          · rename_i ended
            obtain ⟨stage, accepting, retrying, quiet⟩ := ended
            obtain rfl := Option.some.inj stepped
            have late : 2 ≤ server.stage.number := by simp [stage, Stage.number]
            exact { sound with
              dropped := fun _ => sound.dropped late
              joined := fun _ => ⟨accepting, retrying, fun session present =>
                (Peer.quiet_iff.mp (quiet session present)).1⟩
              drained := fun late => absurd late (by decide : ¬ 4 ≤ Stage.joined.number)
              gone := fun late => absurd late (by decide : ¬ 5 ≤ Stage.joined.number) }
          · contradiction
      | joinCommands =>
          simp only [Server.step] at stepped
          split at stepped
          · rename_i ended
            obtain ⟨stage, rests⟩ := ended
            obtain rfl := Option.some.inj stepped
            have late : 3 ≤ server.stage.number := by simp [stage, Stage.number]
            exact { sound with
              dropped := fun _ => sound.dropped (Nat.le_of_succ_le late)
              joined := fun _ => sound.joined late
              drained := fun _ => rests
              gone := fun late => absurd late (by decide : ¬ 5 ≤ Stage.draining.number) }
          · contradiction
      | finish =>
          simp only [Server.step] at stepped
          split at stepped
          · rename_i ended
            obtain ⟨stage, -, -, quiet⟩ := ended
            obtain rfl := Option.some.inj stepped
            have late : 4 ≤ server.stage.number := by simp [stage, Stage.number]
            exact { sound with
              dropped := fun _ => sound.dropped (Nat.le_trans (by decide) late)
              joined := fun _ => sound.joined (Nat.le_of_succ_le late)
              drained := fun _ => sound.drained late
              gone := fun _ session present => (Peer.quiet_iff.mp (quiet session present)).2 }
          · contradiction

end Sound

/-- The server is sound in every reachable state. -/
theorem reachable_sound (reachable : system.Reachable server) : server.Sound :=
  reachable.invariant Sound.init fun _ _ _ sound stepped => sound.step stepped

end Server

end DataFeed.Frontend
