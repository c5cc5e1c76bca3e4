import DataFeed.Frontend.Registration

/-! # A session is registered with the stream it watches

No other thread changes whether a stream holds a session, so each strand's account of
what holds its session stays exact in every interleaving, and a session that is
forgotten is held by none.
-/

namespace DataFeed.Frontend

open Foundation L2 Venue DataFeed.Core

open Watching

namespace Audience

/-- What a session's own threads do, on the network thread or on its command strand. -/
inductive Own (session : WatcherId) (client : Viewer) (streams : Streams) :
    Action → Viewer → Streams → Prop where
  | read (task : Task) (command : task ≠ .forget) :
      Own session client streams (.read session task) (client.read task) streams
  | close : Own session client streams (.close session) client.close streams
  | begin (after : Viewer) (began : client.begin = some after) :
      Own session client streams (.begin session) after streams
  | advance (after : Viewer) (advanced : client.advance streams.outbox.find? = some after) :
      Own session client streams (.advance session) after (client.touch session streams)
  | refuse (after : Viewer) (refused : client.refuse = some after) :
      Own session client streams (.refuse session) after streams

variable {audience next : Audience} {action : Action}

/-- A strand's step, as another session sees it. -/
theorem undisturbed_touch {session other : WatcherId} (apart : other ≠ session) (client : Viewer)
    (streams : Streams) : streams.Undisturbed other (client.touch session streams) := by
  unfold Viewer.touch
  split
  · exact .call streams _ (fun same => apart (Stream.Call.watch.inj same).symm)
      Stream.Call.noConfusion
  · exact .call streams _ Stream.Call.noConfusion
      fun same => apart (Stream.Call.unwatch.inj same).symm
  · exact .refl other streams

/-- What a session does to its stream keeps every stream under its number. -/
theorem Numbered.touch {streams : Streams} (numbered : streams.Numbered) (client : Viewer)
    (session : WatcherId) : (client.touch session streams).Numbered := by
  unfold Viewer.touch
  split
  · exact numbered.call _ _
  · exact numbered.call _ _
  · exact numbered

/-- A step of one session leaves the other sessions alone. -/
theorem clients_update (session other : WatcherId) (client : Viewer) (apart : other ≠ session) :
    (audience.update session client).clients other = audience.clients other :=
  Function.update_of_ne apart _ _

/-- A session is after its own step where the step leads. -/
theorem clients_update_self (session : WatcherId) (client : Viewer) :
    (audience.update session client).clients session = client := Function.update_self _ _ _

/-- A transmitter that is built has an id no stream has had. -/
theorem step_transmitter {id : SubscriptionId} {venue : String} {book : BookSpec}
    {precision : PairPrecision}
    (stepped : audience.step (.transmitter id venue book precision) = some next) :
    next = audience ∨
      id ≠ 0 ∧ (∀ stream, audience.streams.idOf stream ≠ some id) ∧
        ∃ streams, audience.streams.transmitter id venue book precision = .ok streams ∧
          next = { audience with streams := streams } := by
  simp only [step] at stepped
  split at stepped
  · exact (Option.some_ne_none _ stepped.symm).elim
  · rename_i fresh
    split at stepped
    · rename_i streams built
      obtain rfl := Option.some.inj stepped
      refine .inr ⟨fun zero => fresh (.inl zero), ?_, streams, built, rfl⟩
      intro stream named
      obtain ⟨earlier, found, same⟩ := Streams.idOf_eq_some_iff.mp named
      exact fresh (.inr ⟨earlier, List.mem_of_getElem? found, same⟩)
    · exact .inl (Option.some.inj stepped).symm

/-- A step is one of the session's own, or leaves it undisturbed. -/
theorem step_cases (stepped : audience.step action = some next) (session : WatcherId) :
    Own session (audience.clients session) audience.streams action (next.clients session)
        next.streams ∨
      next.clients session = audience.clients session ∧
        audience.streams.Undisturbed session next.streams := by
  have elsewhere (other : WatcherId) (client : Viewer) (apart : session ≠ other) :
      (audience.update other client).clients session = audience.clients session ∧
        audience.streams.Undisturbed session (audience.update other client).streams :=
    ⟨clients_update other session client apart, .refl session audience.streams⟩
  cases action with
  | transmitter id venue book precision =>
      obtain rfl | ⟨nonzero, unused, streams, built, rfl⟩ := step_transmitter stepped
      · exact .inr ⟨rfl, .refl session _⟩
      · exact .inr ⟨rfl, .transmitter session nonzero unused built⟩
  | destroy id =>
      obtain rfl := Option.some.inj stepped
      exact .inr ⟨rfl, .destroy session _ id⟩
  | receive stream message =>
      obtain rfl := Option.some.inj stepped
      exact .inr ⟨rfl, .call _ stream Stream.Call.noConfusion Stream.Call.noConfusion⟩
  | interrupt stream gap =>
      obtain rfl := Option.some.inj stepped
      exact .inr ⟨rfl, .call _ stream Stream.Call.noConfusion Stream.Call.noConfusion⟩
  | read other task =>
      simp only [step] at stepped
      split at stepped
      · exact (Option.some_ne_none _ stepped.symm).elim
      · rename_i command
        obtain rfl := Option.some.inj stepped
        by_cases same : session = other
        · subst same
          rw [clients_update_self]
          exact .inl (.read task command)
        · exact .inr (elsewhere other _ same)
  | close other =>
      obtain rfl := Option.some.inj stepped
      by_cases same : session = other
      · subst same
        rw [clients_update_self]
        exact .inl .close
      · exact .inr (elsewhere other _ same)
  | begin other =>
      obtain ⟨after, began, rfl⟩ := Option.map_eq_some_iff.mp stepped
      by_cases same : session = other
      · subst same
        rw [clients_update_self]
        exact .inl (.begin after began)
      · exact .inr (elsewhere other _ same)
  | advance other =>
      obtain ⟨after, advanced, rfl⟩ := Option.map_eq_some_iff.mp stepped
      by_cases same : session = other
      · subst same
        rw [show Audience.clients _ session = after from clients_update_self session after]
        exact .inl (.advance after advanced)
      · exact .inr ⟨clients_update other session after same, undisturbed_touch same _ _⟩
  | refuse other =>
      obtain ⟨after, refused, rfl⟩ := Option.map_eq_some_iff.mp stepped
      by_cases same : session = other
      · subst same
        rw [clients_update_self]
        exact .inl (.refuse after refused)
      · exact .inr (elsewhere other _ same)

/-- Every step keeps every stream under its number. -/
theorem step_numbered (stepped : audience.step action = some next)
    (numbered : audience.streams.Numbered) : next.streams.Numbered := by
  cases action with
  | transmitter id venue book precision =>
      obtain rfl | ⟨nonzero, unused, streams, built, rfl⟩ := step_transmitter stepped
      · exact numbered
      · exact numbered.transmitter nonzero unused built
  | destroy id =>
      obtain rfl := Option.some.inj stepped
      exact numbered.destroy id
  | receive stream message | interrupt stream gap =>
      obtain rfl := Option.some.inj stepped
      exact numbered.call stream _
  | read other task =>
      simp only [step] at stepped
      split at stepped
      · exact (Option.some_ne_none _ stepped.symm).elim
      · obtain rfl := Option.some.inj stepped
        exact numbered
  | close other =>
      obtain rfl := Option.some.inj stepped
      exact numbered
  | begin other | refuse other =>
      obtain ⟨after, _, rfl⟩ := Option.map_eq_some_iff.mp stepped
      exact numbered
  | advance other =>
      obtain ⟨after, _, rfl⟩ := Option.map_eq_some_iff.mp stepped
      exact Numbered.touch numbered _ other

namespace Own

variable {session : WatcherId} {client after : Viewer} {streams later : Streams}

/-- The session's own step keeps it placed where its phase says. -/
theorem placed (own : Own session client streams action after later)
    (numbered : streams.Numbered) (placed : client.Placed session streams) :
    after.Placed session later := by
  cases own with
  | read task _ =>
      unfold Viewer.read
      split
      · exact placed
      · exact placed.queue _ _
  | close =>
      unfold Viewer.close
      split
      · exact placed
      · exact placed.queue _ _
  | begin _ began => exact placed.begin began
  | advance _ advanced => exact placed.advance numbered advanced
  | refuse _ refused => exact placed.refuse refused

/-- A session that is leaving keeps leaving over its own steps. -/
theorem leaving (own : Own session client streams action after later)
    (leaving : client.Leaving) : after.Leaving := by
  intro closed
  cases own with
  | read task _ =>
      unfold Viewer.read at closed ⊢
      split
      · rename_i gone
        exact leaving gone
      · rename_i running
        rw [if_neg running] at closed
        exact (running closed).elim
  | close =>
      unfold Viewer.close
      split
      · rename_i gone
        exact leaving gone
      · exact .inl List.getLast?_concat
  | begin _ began =>
      unfold Viewer.begin at began
      split at began
      · rename_i task rest idle queued
        obtain rfl := Option.some.inj began
        obtain ⟨same, tasks⟩ := Viewer.start_keeps { client with tasks := rest } task
        obtain last | ⟨none, _⟩ := leaving (same.symm.trans closed)
        · rw [queued] at last
          rw [tasks]
          cases rest with
          | nil =>
              obtain rfl : task = .forget := Option.some.inj last
              exact .inr ⟨rfl, Viewer.unwatch_unwatching _⟩
          | cons next others => exact .inl (List.getLast?_cons_cons.symm.trans last)
        · exact (List.cons_ne_nil task rest (queued.symm.trans none)).elim
      · exact (Option.some_ne_none _ began.symm).elim
  | advance _ advanced =>
      have advances := Viewer.advance_advances advanced
      obtain last | ⟨none, unwatching⟩ := leaving (advances.keeps.1.symm.trans closed)
      · exact .inl (advances.keeps.2.symm ▸ last)
      · exact .inr ⟨advances.keeps.2.trans none, advances.unwatching unwatching⟩
  | refuse _ refused =>
      unfold Viewer.refuse at refused
      split at refused
      · rename_i id phase
        obtain rfl := Option.some.inj refused
        obtain last | ⟨none, unwatching⟩ := leaving closed
        · exact .inl last
        · rw [Viewer.Unwatching, phase] at unwatching
          exact unwatching.2.elim
      · exact (Option.some_ne_none _ refused.symm).elim

end Own

/-- The strands' accounts of what holds their sessions are exact. -/
structure Sound (audience : Audience) : Prop where
  numbered : audience.streams.Numbered
  placed : ∀ session, (audience.clients session).Placed session audience.streams
  leaving : ∀ session, (audience.clients session).Leaving

/-- In the beginning no session watches anything. -/
theorem sound_init : init.Sound where
  numbered := .empty
  placed _ :=
    ⟨fun _ _ found => (Option.some_ne_none _ found.symm).elim,
      fun _ member => .inl (List.mem_singleton.mp member), trivial⟩
  leaving _ closed := (Bool.false_ne_true closed).elim

/-- Every step, of a session, a caller or a parser thread, keeps the registration sound. -/
theorem Sound.step (sound : audience.Sound) (stepped : audience.step action = some next) :
    next.Sound where
  numbered := step_numbered stepped sound.numbered
  placed session := by
    obtain own | ⟨same, undisturbed⟩ := step_cases stepped session
    · exact own.placed sound.numbered (sound.placed session)
    · rw [same]
      exact (sound.placed session).undisturbed undisturbed
  leaving session := by
    obtain own | ⟨same, _⟩ := step_cases stepped session
    · exact own.leaving (sound.leaving session)
    · rw [same]
      exact sound.leaving session

/-- In every reachable state the registration is sound. -/
theorem reachable_sound (reachable : system.Reachable audience) : audience.Sound :=
  reachable.invariant sound_init fun _ _ _ sound stepped => sound.step stepped

/-- A watch that is not decided yet, or failed, has changed nothing that is watched since
the state it began in. -/
def Untouched (session : WatcherId) (start audience : Audience) : Prop :=
  (∃ id, (audience.clients session).phase = .watch id ∨
      (audience.clients session).phase = .refuse id) →
    (audience.clients session).watchedId = (start.clients session).watchedId ∧
      ∀ stream, session ∈ audience.streams.watchersOf stream ↔
        session ∈ start.streams.watchersOf stream

/-- Steps of everyone else leave a session in its command untouched. -/
theorem Untouched.step {session : WatcherId} {start : Audience}
    (untouched : Untouched session start audience) (within : action ≠ .begin session)
    (stepped : audience.step action = some next) : Untouched session start next := by
  intro undecided
  obtain own | ⟨same, undisturbed⟩ := step_cases stepped session
  · generalize changed : next.clients session = after at own undecided ⊢
    generalize called : next.streams = streams at own ⊢
    cases own with
    | read task _ =>
        have queued : ((audience.clients session).read task).phase =
              (audience.clients session).phase ∧
            ((audience.clients session).read task).watchedId =
              (audience.clients session).watchedId := by
          unfold Viewer.read
          split <;> exact ⟨rfl, rfl⟩
        rw [queued.1] at undecided
        rw [queued.2]
        exact untouched undecided
    | close =>
        have queued : (audience.clients session).close.phase =
              (audience.clients session).phase ∧
            (audience.clients session).close.watchedId =
              (audience.clients session).watchedId := by
          unfold Viewer.close
          split <;> exact ⟨rfl, rfl⟩
        rw [queued.1] at undecided
        rw [queued.2]
        exact untouched undecided
    | begin => exact (within rfl).elim
    | advance _ advanced =>
        obtain ⟨⟨id, watching⟩, kept⟩ :=
          (Viewer.advance_advances advanced).undecided undecided
        rw [kept, Viewer.touch, watching]
        exact untouched ⟨id, .inl watching⟩
    | refuse _ refused =>
        unfold Viewer.refuse at refused
        split at refused
        · obtain rfl := Option.some.inj refused
          obtain ⟨_, undecided⟩ := undecided
          exact undecided.elim Phase.noConfusion Phase.noConfusion
        · exact (Option.some_ne_none _ refused.symm).elim
  · rw [same] at undecided ⊢
    obtain ⟨watched, held⟩ := untouched undecided
    exact ⟨watched, fun stream => (undisturbed.watching stream).trans (held stream)⟩

/-- A command that begins starts out untouched. -/
theorem untouched_begin {session : WatcherId}
    (began : audience.step (.begin session) = some next) : Untouched session audience next := by
  intro ⟨id, undecided⟩
  obtain ⟨after, begun, rfl⟩ := Option.map_eq_some_iff.mp began
  rw [clients_update_self] at undecided ⊢
  refine ⟨?_, fun _ => Iff.rfl⟩
  unfold Viewer.begin at begun
  split at begun
  · rename_i task rest idle queued
    obtain rfl := Option.some.inj begun
    cases task with
    | watch _ => rfl
    | other => exact undecided.elim Phase.noConfusion Phase.noConfusion
    | unwatch | forget =>
        simp only [Viewer.start, Viewer.unwatch] at undecided
        split at undecided <;> exact undecided.elim Phase.noConfusion Phase.noConfusion
  · exact (Option.some_ne_none _ begun.symm).elim

/-- A watch that fails leaves what its session watches as it was when the watch began. -/
theorem refused_untouched {session : WatcherId} {middle : List Action}
    (within : Action.begin session ∉ middle)
    (reached : system.runFrom audience (.begin session :: middle ++ [.refuse session]) =
      some next) :
    (next.clients session).watchedId = (audience.clients session).watchedId ∧
      ∀ stream, session ∈ next.streams.watchersOf stream ↔
        session ∈ audience.streams.watchersOf stream := by
  rw [System.runFrom_concat] at reached
  obtain ⟨before, ran, stepped⟩ := Option.bind_eq_some_iff.mp reached
  obtain ⟨begun, began, later⟩ := Option.bind_eq_some_iff.mp ran
  have untouched : Untouched session audience before := by
    have step : ∀ state action after, action ≠ .begin session →
        Untouched session audience state → system.step state action = some after →
          Untouched session audience after :=
      fun _ _ _ other untouched stepped => untouched.step other stepped
    refine System.runFrom_invariant step (untouched_begin began) ?_ later
    exact fun action member same => within (same ▸ member)
  obtain ⟨after, refused, rfl⟩ := Option.map_eq_some_iff.mp stepped
  rw [clients_update_self]
  unfold Viewer.refuse at refused
  split at refused
  · rename_i id phase
    obtain rfl := Option.some.inj refused
    exact untouched ⟨id, .inr phase⟩
  · exact (Option.some_ne_none _ refused.symm).elim

/-- A closed connection whose strand has run everything that was posted to it. -/
def Forgotten (client : Viewer) : Prop :=
  client.closed = true ∧ client.tasks = [] ∧ client.phase = .idle

/-- A session that left everything is registered nowhere after any step. -/
theorem Forgotten.step {session : WatcherId} (forgotten : Forgotten (audience.clients session))
    (stepped : audience.step action = some next) : Forgotten (next.clients session) := by
  obtain ⟨closed, tasks, idle⟩ := forgotten
  obtain own | ⟨same, _⟩ := step_cases stepped session
  · generalize changed : next.clients session = after at own ⊢
    generalize called : next.streams = streams at own
    cases own with
    | read task _ =>
        rw [Viewer.read, if_pos closed]
        exact ⟨closed, tasks, idle⟩
    | close =>
        rw [Viewer.close, if_pos closed]
        exact ⟨closed, tasks, idle⟩
    | begin _ began =>
        rw [Viewer.begin, idle, tasks] at began
        exact (Option.some_ne_none _ began.symm).elim
    | advance _ advanced =>
        rw [Viewer.advance, idle] at advanced
        exact (Option.some_ne_none _ advanced.symm).elim
    | refuse _ refused =>
        rw [Viewer.refuse, idle] at refused
        exact (Option.some_ne_none _ refused.symm).elim
  · rw [same]
    exact ⟨closed, tasks, idle⟩

/-- A session that left everything is registered nowhere ever after. -/
theorem Forgotten.later {session : WatcherId} {actions : List Action}
    (forgotten : Forgotten (audience.clients session))
    (reached : system.runFrom audience actions = some next) :
    Forgotten (next.clients session) := by
  have step : ∀ state action after, True → Forgotten (state.clients session) →
      system.step state action = some after → Forgotten (after.clients session) :=
    fun _ _ _ _ forgotten stepped => forgotten.step stepped
  exact System.runFrom_invariant step forgotten (fun _ _ => trivial) reached

/-- Between two commands a session is held by the stream it watches, if that is
registered, and by no other. -/
theorem Sound.held_iff (sound : audience.Sound) {session : WatcherId}
    (idle : (audience.clients session).phase = .idle) {id : SubscriptionId} {stream : StreamRef}
    (registered : audience.streams.outbox.find? id = some stream) :
    session ∈ audience.streams.watchersOf stream ↔
      id = (audience.clients session).watchedId := by
  rw [(sound.placed session).exact id stream registered, Viewer.supposed, idle]
  exact List.mem_singleton

/-- No stream holds a session that is forgotten. -/
theorem Sound.released (sound : audience.Sound) {session : WatcherId}
    (forgotten : Forgotten (audience.clients session)) {id : SubscriptionId} {stream : StreamRef}
    (registered : audience.streams.outbox.find? id = some stream) :
    session ∉ audience.streams.watchersOf stream := by
  obtain ⟨closed, tasks, idle⟩ := forgotten
  rw [sound.held_iff idle registered]
  intro watched
  obtain last | ⟨_, unwatching⟩ := sound.leaving session closed
  · exact Option.some_ne_none _ (last.symm.trans (tasks ▸ rfl))
  · have named := sound.numbered.registered id stream registered
    exact sound.numbered.named stream (watched.trans unwatching.1 ▸ named)

/-- **A session is registered with exactly the stream it watches.** Between two of its
commands it is a watcher, once, of the registered stream whose id it watches, and of no
other; a watch that fails leaves what it watched unchanged; and once everything posted to
the strand of its closed connection has run, no registered stream holds it or ever will. -/
theorem registered_where_watched (reachable : system.Reachable audience) (session : WatcherId) :
    ((audience.clients session).phase = .idle →
      ∀ id stream, audience.streams.outbox.find? id = some stream →
        (audience.streams.watchersOf stream).count session ≤ 1 ∧
          (session ∈ audience.streams.watchersOf stream ↔
            id = (audience.clients session).watchedId)) ∧
    (∀ middle next, Action.begin session ∉ middle →
      system.runFrom audience (.begin session :: middle ++ [.refuse session]) = some next →
        (next.clients session).watchedId = (audience.clients session).watchedId ∧
          ∀ stream, session ∈ next.streams.watchersOf stream ↔
            session ∈ audience.streams.watchersOf stream) ∧
    (Forgotten (audience.clients session) →
      ∀ actions next, system.runFrom audience actions = some next →
        ∀ id stream, next.streams.outbox.find? id = some stream →
          session ∉ next.streams.watchersOf stream) := by
  have sound := reachable_sound reachable
  refine ⟨?_, ?_, ?_⟩
  · intro idle id stream registered
    refine ⟨?_, sound.held_iff idle registered⟩
    exact List.nodup_iff_count_le_one.mp (audience.streams.watchersOf_nodup stream) session
  · exact fun _ _ within reached => refused_untouched within reached
  · intro forgotten actions next reached id stream registered
    have sound := reachable_sound (reachable.runFrom reached)
    exact sound.released (forgotten.later reached) registered

/-- A client that watches one stream, then another, then fails to watch a third, and is
gone while its last command waits. -/
theorem registered_where_watched_switch :
    let settle : List Action := [.begin 0, .advance 0, .advance 0, .advance 0, .advance 0]
    let leave : List Action := [.advance 0, .advance 0, .begin 0, .advance 0, .advance 0]
    ∃ audience refused gone : Audience,
      system.run
        ([.transmitter 65536 "Kraken" ⟨"BTC/USD", 10⟩ ⟨1, 8⟩,
          .transmitter 131072 "Kraken" ⟨"ETH/USD", 10⟩ ⟨2, 8⟩, .read 0 (.watch 65536)] ++ settle ++
          [.read 0 (.watch 131072)] ++ settle ++ [.advance 0, .advance 0, .read 0 (.watch 5)]) =
        some audience ∧
      system.runFrom audience (.begin 0 :: [.advance 0] ++ [.refuse 0]) = some refused ∧
      system.runFrom refused
        ([.read 0 (.watch 65536), .close 0, .read 0 .unwatch] ++ settle ++ leave) = some gone ∧
      (0 ∈ audience.streams.watchersOf 1 ∧ 0 ∉ audience.streams.watchersOf 0) ∧
      0 ∈ refused.streams.watchersOf 1 ∧
      ∀ id stream, gone.streams.outbox.find? id = some stream →
        0 ∉ gone.streams.watchersOf stream := by
  intro settle leave
  have ran : ((system.run
      (([.transmitter 65536 "Kraken" ⟨"BTC/USD", 10⟩ ⟨1, 8⟩,
        .transmitter 131072 "Kraken" ⟨"ETH/USD", 10⟩ ⟨2, 8⟩, .read 0 (.watch 65536)] :
          List Action) ++ settle ++ [Action.read 0 (.watch 131072)] ++ settle ++
          ([.advance 0, .advance 0, .read 0 (.watch 5)] : List Action))).bind fun audience =>
      (system.runFrom audience (.begin 0 :: [.advance 0] ++ [.refuse 0])).bind fun refused =>
      (system.runFrom refused
        (([.read 0 (.watch 65536), .close 0, .read 0 .unwatch] : List Action) ++ settle ++
          leave)).map fun gone =>
      ((audience.clients 0).phase, (audience.clients 0).watchedId,
        audience.streams.outbox.find? 65536, audience.streams.outbox.find? 131072,
        gone.clients 0)) = some (.idle, 131072, some 0, some 1, ⟨0, true, [], .idle⟩) := by
    decide
  obtain ⟨audience, reached, rest⟩ := Option.bind_eq_some_iff.mp ran
  obtain ⟨refused, failed, rest⟩ := Option.bind_eq_some_iff.mp rest
  obtain ⟨gone, left, seen⟩ := Option.map_eq_some_iff.mp rest
  obtain ⟨idle, watched, first, second, client⟩ : (audience.clients 0).phase = .idle ∧
      (audience.clients 0).watchedId = 131072 ∧ audience.streams.outbox.find? 65536 = some 0 ∧
        audience.streams.outbox.find? 131072 = some 1 ∧ gone.clients 0 = ⟨0, true, [], .idle⟩ := by
    simpa only [Prod.mk.injEq] using seen
  have reachable : system.Reachable audience := ⟨_, reached⟩
  obtain ⟨held, unchanged, _⟩ := registered_where_watched reachable 0
  have holds : 0 ∈ audience.streams.watchersOf 1 :=
    ((held idle _ _ second).2).mpr watched.symm
  have released : 0 ∉ audience.streams.watchersOf 0 := by
    rw [(held idle _ _ first).2, watched]
    decide
  have quiet : Action.begin 0 ∉ [Action.advance 0] := by decide
  obtain ⟨_, _, forgotten⟩ :=
    registered_where_watched ((reachable.runFrom failed).runFrom left) 0
  refine ⟨audience, refused, gone, reached, failed, left, ⟨holds, released⟩, ?_, ?_⟩
  · exact ((unchanged _ _ quiet failed).2 1).mpr holds
  · exact forgotten (client ▸ ⟨rfl, rfl, rfl⟩) [] gone rfl

end Audience

end DataFeed.Frontend
