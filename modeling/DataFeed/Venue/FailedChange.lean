import DataFeed.Venue.ReceiverFactory

/-! # A subscription change that fails changes nothing

Only the holder of the life cycle lock changes a subscription, so a call is followed while
it holds the lock. A subscription that is refused has done nothing, and one whose pair
cannot be attached is taken back: its entry, and with its receiver the stream that was
registered.
-/

namespace DataFeed.Venue

open Foundation L2 Net DataFeed.Core Frontend

/-- How a call ends that changes nothing, given what it began with under the lock. -/
def Failing : Section → Outcome → Prop
  | .resolveFirst request, outcome => outcome ≠ .subscribed request.id
  | .resolveAgain request _, outcome => outcome ≠ .subscribed request.id
  | .unsubscribe _, outcome => outcome ≠ .done
  | _, _ => False

/-- What a change of subscriptions begins with under the lock. -/
def Changes : Section → Prop
  | .resolveFirst _ | .resolveAgain _ _ | .unsubscribe _ => True
  | _ => False

/-- The sections of a change that can fail no more. -/
def Past : Section → Section → Prop
  | .resolveAgain request _, .sendSubscribe other => other = request
  | .unsubscribe id, .sendUnsubscribe other _ => other = id
  | .unsubscribe id, .erase other => other = id
  | _, _ => False

/-- What a call that is about to return returns. -/
def CallState.outcome? : CallState → Option Outcome
  | .ending outcome => some outcome
  | .waiting _ | .inside | .fetching _ | .fetched _ _ | .returned => none

theorem CallState.ending_of_outcome {state : Option CallState} {outcome : Outcome}
    (ends : state.bind CallState.outcome? = some outcome) : state = some (.ending outcome) := by
  obtain ⟨last, rfl, same⟩ := Option.bind_eq_some_iff.mp ends
  cases last with
  | ending other => exact congrArg (some ∘ CallState.ending) (Option.some.inj same)
  | waiting | inside | fetching | fetched | returned =>
      exact (Option.some_ne_none _ same.symm).elim

namespace L2Manager

variable {Decoder : Type} {adapter : Adapter Decoder} {manager next : L2Manager Decoder}

/-- What may become of a call while it does not take the lock or hold it. -/
theorem calls_beside {action : Action} (stepped : step adapter manager action = some next)
    (run : action ≠ .run) (refuse : ∀ what, action ≠ .refuse what)
    (acquire : ∀ holder, action ≠ .acquire holder) :
    next.lock = manager.lock ∧ ∀ call state, manager.calls call = some state →
      next.calls call = some state ∨ (∃ request, state = .fetching request) ∨
        ∃ outcome, state = .ending outcome ∧ next.calls call = some .returned := by
  cases action with
  | run => exact (run rfl).elim
  | refuse what => exact (refuse what rfl).elim
  | acquire holder => exact (acquire holder rfl).elim
  | invoke other operation =>
      simp only [step] at stepped
      split at stepped
      · contradiction
      · rename_i fresh
        obtain rfl := Option.some.inj stepped
        refine ⟨rfl, fun call state stands => .inl ?_⟩
        have another : call ≠ other := fun same =>
          Option.some_ne_none state (stands.symm.trans (same ▸ fresh))
        exact (Function.update_of_ne another _ _).trans stands
  | fetch other =>
      simp only [step] at stepped
      split at stepped
      · rename_i request fetching
        obtain rfl := Option.some.inj stepped
        refine ⟨rfl, fun call state stands => ?_⟩
        by_cases same : call = other
        · subst same
          exact .inr (.inl ⟨request, Option.some.inj (stands.symm.trans fetching)⟩)
        · exact .inl ((Function.update_of_ne same _ _).trans stands)
      · contradiction
  | respond other =>
      simp only [step] at stepped
      split at stepped
      · rename_i outcome ending
        obtain rfl := Option.some.inj stepped
        refine ⟨rfl, fun call state stands => ?_⟩
        by_cases same : call = other
        · subst same
          exact .inr (.inr ⟨outcome, Option.some.inj (stands.symm.trans ending),
            Function.update_self _ _ _⟩)
        · exact .inl ((Function.update_of_ne same _ _).trans stands)
      · contradiction
  | network moved =>
      obtain ⟨pipeline, _, rfl⟩ := Option.map_eq_some_iff.mp stepped
      exact ⟨rfl, fun _ _ stands => .inl stands⟩
  | parse =>
      cases parserStep_cases stepped <;> exact ⟨rfl, fun _ _ stands => .inl stands⟩
  | resubscribe =>
      obtain ⟨resubscriber, _, rfl⟩ := Option.map_eq_some_iff.mp stepped
      exact ⟨rfl, fun _ _ stands => .inl stands⟩
  | tick elapsed =>
      obtain rfl := Option.some.inj stepped
      exact ⟨rfl, fun _ _ stands => .inl stands⟩

end L2Manager

namespace Station

variable {Decoder : Type} {adapter : Adapter Decoder} {start station next : Station Decoder}

/-- What building a receiver does to the streams. -/
theorem receivers_cases {sink : Sink} {request : SubscribeRequest} {precision : PairPrecision}
    {built : Streams × (ReceiverId → Bool)}
    (free : L2Manager.resolveTaken station.manager.subscriptions request.id request.book = none)
    (builds : station.receivers adapter sink (.resolveAgain request precision) = some built) :
    (request.makeReceiver precision = .ok () ∧
      built.2 = Function.update station.transmitters station.manager.nextReceiver (sink = .live) ∧
      ((sink = .live ∧ station.streams.outbox.find? request.id = none ∧
          ∃ stream, built.1.outbox = station.streams.outbox.insert request.id stream) ∨
        (sink = .record ∧ built.1 = station.streams))) ∨
    ((∃ what, request.makeReceiver precision = .error what) ∧
      built = (station.streams, station.transmitters)) := by
  simp only [receivers, free] at builds
  split at builds
  · rename_i streams made opened
    obtain rfl := Option.some.inj builds
    refine .inl ⟨opened, rfl, ?_⟩
    cases sink with
    | live =>
        obtain ⟨_, unregistered, rfl⟩ := Streams.transmitter_ok_iff.mp made
        exact .inl ⟨rfl, unregistered, _, rfl⟩
    | record =>
        rw [makeReceiver, opened] at made
        exact .inr ⟨rfl, (Except.ok.inj made).symm⟩
  · rename_i what answered made failed
    split at builds
    · exact .inr ⟨⟨answered, failed⟩, (Option.some.inj builds).symm⟩
    · contradiction
  · contradiction

/-- Where a call stands since it took the lock, as far as its changes go, and the
registration of the ids that nobody else touches. -/
inductive Attempt (call : Nat) (entry : Section) (own : SubscriptionId → Prop)
    (start station : Station Decoder) : Prop where
  /-- It has changed nothing, and may be over. -/
  | quiet
      (stands : station.manager.lock = none ∨
        station.manager.lock = some (.call call, entry) ∧
          station.manager.calls call = some .inside)
      (same : Same start station)
      (registered : ∀ query, own query →
        station.streams.outbox.find? query = start.streams.outbox.find? query)
  /-- Its receiver is built, and its pair yet to be attached. -/
  | inserted (request : SubscribeRequest) (precision : PairPrecision) (receiver : ReceiverId)
      (subscription : Subscription) (begun : entry = .resolveAgain request precision)
      (held : station.manager.lock = some (.call call, .attach request precision receiver))
      (inside : station.manager.calls call = some .inside)
      (fresh : start.manager.subscriptions.find? request.id = none)
      (table : station.manager.subscriptions =
        start.manager.subscriptions.insert request.id subscription)
      (routed : routing station.manager.parser = routing start.manager.parser)
      (requests : station.manager.pipeline.feed.connection =
        start.manager.pipeline.feed.connection)
      (unregistered : station.transmitters receiver = true → own request.id →
        start.streams.outbox.find? request.id = none)
      (registered : ∀ query, own query →
        ¬(station.transmitters receiver = true ∧ query = request.id) →
          station.streams.outbox.find? query = start.streams.outbox.find? query)
  /-- It can fail no more. -/
  | past (current : Section) (held : station.manager.lock = some (.call call, current))
      (inside : station.manager.calls call = some .inside) (past : Past entry current)
  /-- It has succeeded. -/
  | succeeded (outcome : Outcome) (free : station.manager.lock = none)
      (succeeded : ¬Failing entry outcome)
      (ended : station.manager.calls call = some (.ending outcome) ∨
        station.manager.calls call = some .returned)

namespace Elsewhere

/-- What others do to other ids. -/
theorem find?_apply {change : Elsewhere} {query : SubscriptionId}
    (apart : ¬change.Concerns query) (streams : Streams) :
    (change.apply streams).outbox.find? query = streams.outbox.find? query := by
  cases change with
  | transmitter id venue book precision =>
      simp only [apply]
      split
      · rename_i built
        obtain ⟨_, _, rfl⟩ := Streams.transmitter_ok_iff.mp built
        exact (OrderedMap.find?_insert _ _ _ _).trans (if_neg fun same => apart same.symm)
      · rfl
  | destroy id =>
      exact (OrderedMap.find?_erase _ _ _).trans (if_neg fun same => apart same.symm)
  | call stream made => rfl

end Elsewhere

namespace Attempt

variable {call : Nat} {entry : Section} {own : SubscriptionId → Prop}

/-- What is none of the call's steps. -/
theorem beside (attempt : Attempt call entry own start station) (same : Same station next)
    (registered : ∀ query, own query →
      next.streams.outbox.find? query = station.streams.outbox.find? query)
    (transmitters : next.transmitters = station.transmitters)
    (lock : next.manager.lock = station.manager.lock)
    (calls : ∀ state, station.manager.calls call = some state →
      next.manager.calls call = some state ∨ (∃ request, state = .fetching request) ∨
        ∃ outcome, state = .ending outcome ∧ next.manager.calls call = some .returned) :
    Attempt call entry own start next := by
  have stays (inside : station.manager.calls call = some .inside) :
      next.manager.calls call = some .inside := by
    obtain still | ⟨_, fetching⟩ | ⟨_, ending, _⟩ := calls _ inside
    · exact still
    · exact CallState.noConfusion fetching
    · exact CallState.noConfusion ending
  cases attempt with
  | quiet stands before unchanged =>
      refine .quiet ?_ ⟨same.table.trans before.table, same.routing.trans before.routing,
        same.requests.trans before.requests⟩ fun query mine =>
          (registered query mine).trans (unchanged query mine)
      rw [lock]
      exact stands.imp_right fun ⟨held, inside⟩ => ⟨held, stays inside⟩
  | inserted request precision receiver subscription begun held inside fresh table routed
      requests unregistered unchanged =>
      refine .inserted request precision receiver subscription begun (lock.trans held)
        (stays inside) fresh (same.table.trans table) (same.routing.trans routed)
        (same.requests.trans requests) ?_ ?_
      · rw [transmitters]
        exact unregistered
      · rw [transmitters]
        exact fun query mine other =>
          (registered query mine).trans (unchanged query mine other)
  | past current held inside past => exact .past current (lock.trans held) (stays inside) past
  | succeeded outcome free succeeded ended =>
      refine .succeeded outcome (lock.trans free) succeeded ?_
      obtain ending | returned := ended
      · obtain still | ⟨_, fetching⟩ | ⟨_, _, later⟩ := calls _ ending
        · exact .inl still
        · exact CallState.noConfusion fetching
        · exact .inr later
      · obtain still | ⟨_, fetching⟩ | ⟨_, ending, _⟩ := calls _ returned
        · exact .inr still
        · exact CallState.noConfusion fetching
        · exact CallState.noConfusion ending

/-- What the call's first step under the lock does. -/
theorem enter {holder : Holder} {middle : L2Manager Decoder} {after : Next} {sink : Sink}
    {built : Streams × (ReceiverId → Bool)} (changes : Changes entry)
    (inside : station.manager.calls call = some .inside) (same : Same start station)
    (registered : ∀ query, own query →
      station.streams.outbox.find? query = start.streams.outbox.find? query)
    (owner : holder = .call call)
    (moved : station.manager.sectionStep adapter entry = some (middle, after))
    (builds : station.receivers adapter sink entry = some built) :
    Attempt call entry own start ⟨middle.settle holder after, built.1, built.2⟩ := by
  subst owner
  have released (state : CallState) (kept : built = (station.streams, station.transmitters)) :
      Attempt call entry own start
        ⟨station.manager.settle (.call call) (.release state), built.1, built.2⟩ := by
    rw [kept]
    exact .quiet (.inl rfl) ⟨same.table, same.routing, same.requests⟩ registered
  cases L2Manager.sectionStep_cases moved with
  | takenFirst request outcome => exact released _ (Option.some.inj builds).symm
  | freeFirst request => exact released _ (Option.some.inj builds).symm
  | takenAgain request precision outcome taken =>
      simp only [receivers, taken] at builds
      exact released _ (Option.some.inj builds).symm
  | unbuilt request precision what free fails =>
      obtain ⟨opened, _⟩ | ⟨_, kept⟩ := receivers_cases free builds
      · cases fails.symm.trans opened
      · exact released _ kept
  | built request precision free opens =>
      have fresh : start.manager.subscriptions.find? request.id = none := by
        rw [← same.table]
        unfold L2Manager.resolveTaken at free
        split at free
        · contradiction
        · rename_i unused
          exact Option.not_isSome_iff_eq_none.mp unused
      obtain ⟨_, transmitters, made⟩ | ⟨⟨what, fails⟩, _⟩ := receivers_cases free builds
      · have new : built.2 station.manager.nextReceiver = decide (sink = .live) := by
          rw [transmitters, Function.update_self]
        refine .inserted request precision station.manager.nextReceiver _ rfl rfl inside fresh
          (congrArg (OrderedMap.insert · request.id _) same.table) same.routing same.requests ?_ ?_
        · intro transmits mine
          obtain ⟨_, unregistered, _⟩ | ⟨record, _⟩ := made
          · rw [← registered request.id mine, unregistered]
          · have live := of_decide_eq_true (new.symm.trans transmits)
            exact Sink.noConfusion (record.symm.trans live)
        · intro query mine other
          obtain ⟨live, _, stream, outbox⟩ | ⟨_, kept⟩ := made
          · have apart : query ≠ request.id := fun same =>
              other ⟨new.trans (decide_eq_true live), same⟩
            rw [outbox, OrderedMap.find?_insert, if_neg apart, registered query mine]
          · rw [kept, registered query mine]
      · cases opens.symm.trans fails
  | unknown id => exact released _ (Option.some.inj builds).symm
  | detached id subscription known idle => exact .past _ rfl inside rfl
  | _ => exact changes.elim

/-- A subscription whose pair cannot be attached is taken back. -/
theorem takenBack {subscriptions : Subscriptions} {id : SubscriptionId}
    {subscription : Subscription} (fresh : subscriptions.find? id = none) :
    (subscriptions.insert id subscription).erase id = subscriptions := by
  apply OrderedMap.ext_find?
  intro other
  rw [OrderedMap.find?_erase, OrderedMap.find?_insert]
  by_cases same : other = id
  · rw [if_pos same, same, fresh]
  · rw [if_neg same, if_neg same]

/-- A step of a call that can fail no more. -/
theorem proceed {current : Section} {manager middle : L2Manager Decoder} {after : Next}
    {streams : Streams} {transmitters : ReceiverId → Bool} (changes : Changes entry)
    (inside : manager.calls call = some .inside) (past : Past entry current)
    (moved : L2Manager.SectionStep adapter manager current middle after) :
    Attempt call entry own start
      ⟨middle.settle (.call call) after, streams, transmitters⟩ := by
  cases entry with
  | resolveAgain request precision =>
      cases moved with
      | sendSubscribe other =>
          obtain rfl : other = request := past
          exact .succeeded (.subscribed other.id) rfl (fun fails => fails rfl)
            (.inl (Function.update_self _ _ _))
      | _ => exact past.elim
  | unsubscribe id =>
      cases moved with
      | sendUnsubscribe other book =>
          obtain rfl : other = id := past
          exact .past (.erase other) rfl inside rfl
      | erase other =>
          exact .succeeded .done rfl (fun fails => fails rfl) (.inl (Function.update_self _ _ _))
      | _ => exact past.elim
  | resolveFirst request => cases moved <;> exact past.elim
  | _ => exact changes.elim

/-- A step of the lock's holder. -/
theorem run {sink : Sink} (changes : Changes entry)
    (attempt : Attempt call entry own start station)
    (stepped : station.step adapter (.manager .run sink) = some next) :
    Attempt call entry own start next := by
  simp only [Station.step] at stepped
  split at stepped
  · contradiction
  · rename_i holder current holds
    obtain ⟨manager, moved, rest⟩ := Option.bind_eq_some_iff.mp stepped
    obtain ⟨built, builds, rfl⟩ := Option.map_eq_some_iff.mp rest
    simp only [L2Manager.step, holds] at moved
    obtain ⟨⟨middle, after⟩, does, rfl⟩ := Option.map_eq_some_iff.mp moved
    cases attempt with
    | quiet stands same registered =>
        obtain free | ⟨held, inside⟩ := stands
        · exact (Option.some_ne_none _ (holds.symm.trans free)).elim
        · obtain ⟨owner, rfl⟩ := Prod.mk.inj (Option.some.inj (holds.symm.trans held))
          exact enter changes inside same registered owner does builds
    | inserted request precision receiver subscription begun held inside fresh table routed
        requests unregistered registered =>
        obtain ⟨rfl, rfl⟩ := Prod.mk.inj (Option.some.inj (holds.symm.trans held))
        cases L2Manager.sectionStep_cases does with
        | unattached request precision receiver what refused =>
            simp only [receivers, refused] at builds
            obtain rfl := Option.some.inj builds
            refine .quiet (.inl rfl) ⟨?_, routed, requests⟩ ?_
            · exact (congrArg (OrderedMap.erase · request.id) table).trans (takenBack fresh)
            · intro query mine
              dsimp only [destroy]
              split
              · rename_i transmits
                rw [Streams.outbox_destroy, OrderedMap.find?_erase]
                by_cases same : query = request.id
                · rw [if_pos same, same, unregistered transmits (same ▸ mine)]
                · rw [if_neg same, registered query mine fun both => same both.2]
              · rename_i writes
                exact registered query mine fun both => writes both.1
        | attached request precision receiver parser events idle done =>
            exact .past (.sendSubscribe request) rfl inside (begun ▸ rfl)
    | past current held inside past =>
        obtain ⟨rfl, rfl⟩ := Prod.mk.inj (Option.some.inj (holds.symm.trans held))
        exact proceed changes inside past (L2Manager.sectionStep_cases does)
    | succeeded outcome free => exact (Option.some_ne_none _ (holds.symm.trans free)).elim

/-- A call that is on its way to a change is not connecting. -/
theorem ne_connectFeed (changes : Changes entry) (attempt : Attempt call entry own start station)
    (holder : Holder) : station.manager.lock ≠ some (holder, .connectFeed) := by
  intro held
  cases attempt with
  | quiet stands =>
      obtain free | ⟨same, _⟩ := stands
      · exact Option.some_ne_none _ (held.symm.trans free)
      · obtain ⟨_, rfl⟩ := Prod.mk.inj (Option.some.inj (held.symm.trans same))
        exact changes
  | inserted _ _ _ _ _ same =>
      exact Section.noConfusion (Prod.mk.inj (Option.some.inj (held.symm.trans same))).2
  | past current same _ past =>
      obtain ⟨_, rfl⟩ := Prod.mk.inj (Option.some.inj (held.symm.trans same))
      cases entry <;> exact past
  | succeeded _ free => exact Option.some_ne_none _ (held.symm.trans free)

theorem step {action : Action} (changes : Changes entry)
    (attempt : Attempt call entry own start station)
    (acquire : ∀ holder sink, action ≠ .manager (.acquire holder) sink)
    (elsewhere : ∀ change, action = .elsewhere change → ∀ id, own id → ¬change.Concerns id)
    (stepped : station.step adapter action = some next) :
    Attempt call entry own start next := by
  cases action with
  | elsewhere change =>
      obtain rfl := Option.some.inj stepped
      exact attempt.beside ⟨rfl, rfl, rfl⟩
        (fun query mine => Elsewhere.find?_apply (elsewhere change rfl query mine) _) rfl rfl
        fun _ stands => .inl stands
  | manager act sink =>
      by_cases runs : act = .run
      · subst runs
        exact attempt.run changes stepped
      · by_cases refuses : ∃ what, act = .refuse what
        · obtain ⟨what, rfl⟩ := refuses
          obtain ⟨manager, moved, rfl⟩ := Option.map_eq_some_iff.mp stepped
          simp only [L2Manager.step] at moved
          split at moved
          · rename_i holder held
            exact (attempt.ne_connectFeed changes holder held).elim
          · contradiction
        · have refuse : ∀ what, act ≠ .refuse what := fun what same => refuses ⟨what, same⟩
          have aside : ∀ holder, act ≠ .acquire holder :=
            fun holder same => acquire holder sink (same ▸ rfl)
          obtain ⟨same, streams, transmitters⟩ := step_beside stepped runs refuse
          have moved := step_beside_manager stepped runs
          obtain ⟨lock, calls⟩ := L2Manager.calls_beside moved runs refuse aside
          exact attempt.beside same (fun _ _ => streams ▸ rfl) transmitters lock (calls call)

end Attempt

/-- A call that fails under the lock has changed nothing by then. -/
theorem failed_same (reachable : (system adapter).Reachable station) {call : Nat}
    {entry : Section} {actions : List Action} {outcome : Outcome}
    (begun : station.manager.lock = some (.call call, entry)) (changes : Changes entry)
    (acquire : ∀ holder sink, Action.manager (.acquire holder) sink ∉ actions)
    (reached : (system adapter).runFrom station actions = some next)
    (ended : next.manager.calls call = some (.ending outcome)) (fails : Failing entry outcome) :
    Same station next ∧ ∀ id, (∀ change, .elsewhere change ∈ actions → ¬change.Concerns id) →
      next.streams.outbox.find? id = station.streams.outbox.find? id := by
  let own : SubscriptionId → Prop :=
    fun id => ∀ change, .elsewhere change ∈ actions → ¬change.Concerns id
  have inside := L2Manager.inside_of_held (reachable_manager reachable) begun
  have initial : Attempt call entry own station station :=
    .quiet (.inr ⟨begun, inside⟩) ⟨rfl, rfl, rfl⟩ fun _ _ => rfl
  have step : ∀ state action after, action ∈ actions →
      Attempt call entry own station state → (system adapter).step state action = some after →
        Attempt call entry own station after := by
    intro state action after listed attempt stepped
    refine attempt.step changes ?_ ?_ stepped
    · exact fun holder sink same => acquire holder sink (same ▸ listed)
    · exact fun change same id mine => mine change (same ▸ listed)
  cases System.runFrom_invariant step initial (fun _ member => member) reached with
  | quiet _ same registered => exact ⟨same, registered⟩
  | inserted _ _ _ _ _ _ within | past _ _ within =>
      exact CallState.noConfusion (Option.some.inj (within.symm.trans ended))
  | succeeded other _ succeeded ended_ =>
      obtain ending | returned := ended_
      · obtain rfl := CallState.ending.inj (Option.some.inj (ending.symm.trans ended))
        exact (succeeded fails).elim
      · exact CallState.noConfusion (Option.some.inj (returned.symm.trans ended))

/-- The first check of a subscription, whether it ends the call or lets it fetch the
precision, changes nothing. -/
theorem firstCheck_same {request : SubscribeRequest} {sink : Sink}
    (begun : station.manager.lock = some (.call call, .resolveFirst request))
    (stepped : station.step adapter (.manager .run sink) = some next) :
    Same station next ∧ next.streams = station.streams := by
  simp only [Station.step, begun] at stepped
  obtain ⟨manager, moved, rest⟩ := Option.bind_eq_some_iff.mp stepped
  obtain ⟨built, builds, rfl⟩ := Option.map_eq_some_iff.mp rest
  obtain rfl := Option.some.inj builds
  simp only [L2Manager.step, begun] at moved
  obtain ⟨⟨middle, after⟩, does, rfl⟩ := Option.map_eq_some_iff.mp moved
  cases L2Manager.sectionStep_cases does with
  | takenFirst | freeFirst => exact ⟨⟨rfl, rfl, rfl⟩, rfl⟩

/-- **Failed subscription changes are atomic.** Of a call's steps only those under the life
cycle lock change the table, the routes, the requests handed to the feed or the registered
streams: a refused book, a failed round trip and a wait for the lock do not. Neither does the
first check that a `Subscribe` makes under the lock, passed or not. And from the time a
`Subscribe` or an `Unsubscribe` takes the lock to its end, however it fails, it leaves them
as they were, whatever goes on beside it: every stream that nobody else registers or
unregisters meanwhile is registered as before. -/
theorem failed_changes_nothing (reachable : (system adapter).Reachable station) :
    (∀ action sink next, action ≠ .run → (∀ what, action ≠ .refuse what) →
      station.step adapter (.manager action sink) = some next →
        Same station next ∧ next.streams = station.streams) ∧
    (∀ call request sink next, station.manager.lock = some (.call call, .resolveFirst request) →
      station.step adapter (.manager .run sink) = some next →
        Same station next ∧ next.streams = station.streams) ∧
    (∀ call entry actions next outcome, station.manager.lock = some (.call call, entry) →
      Changes entry → (∀ holder sink, Action.manager (.acquire holder) sink ∉ actions) →
        (system adapter).runFrom station actions = some next →
          next.manager.calls call = some (.ending outcome) → Failing entry outcome →
            Same station next ∧
              ∀ id, (∀ change, .elsewhere change ∈ actions → ¬change.Concerns id) →
                next.streams.outbox.find? id = station.streams.outbox.find? id) := by
  refine ⟨?_, ?_, ?_⟩
  · intro action sink next run refuse stepped
    obtain ⟨same, streams, _⟩ := step_beside stepped run refuse
    exact ⟨same, streams⟩
  · exact fun call request sink next begun stepped => firstCheck_same begun stepped
  · exact fun call entry actions next outcome begun changes acquire reached ended fails =>
      failed_same reachable begun changes acquire reached ended fails

/-- A live subscription whose id another venue has registered meanwhile. -/
theorem failed_changes_nothing_registered :
    let adapter : Adapter Unit :=
      { name := "kraken", depths := [10], bookChecksum := none
        checkSymbol := fun _ => .ok (), connectRequests := []
        makeBookRequest := fun _ book => book.symbol, makeDecoder := ()
        decode := fun decoder _ => .done decoder }
    let what := "Live subscription 256 is already registered"
    let request : SubscribeRequest :=
      ⟨256, ⟨"XBT/USD", 10⟩, .ok ⟨1, 8⟩, fun _ => .error what, 7⟩
    ∃ station next : Station Unit,
      (system adapter).run
        [.manager (.invoke 0 (.subscribe request)) .live, .manager (.acquire (.call 0)) .live,
          .manager .run .live, .manager (.fetch 0) .live,
          .elsewhere (.transmitter 256 "coinbase" ⟨"BTC-USD", 0⟩ ⟨2, 8⟩),
          .manager (.acquire (.call 0)) .live] = some station ∧
      (system adapter).runFrom station [.manager .run .live] = some next ∧
      next.manager.calls 0 = some (.ending (.thrown what)) ∧
      Same station next ∧ next.streams.outbox.find? 256 = some 0 := by
  intro adapter what request
  have ran : ((system adapter).run
      [.manager (.invoke 0 (.subscribe request)) .live, .manager (.acquire (.call 0)) .live,
        .manager .run .live, .manager (.fetch 0) .live,
        .elsewhere (.transmitter 256 "coinbase" ⟨"BTC-USD", 0⟩ ⟨2, 8⟩),
        .manager (.acquire (.call 0)) .live]).bind (fun station =>
      ((system adapter).runFrom station [.manager .run .live]).map fun next =>
        (station.streams.outbox.find? 256,
          (next.manager.calls 0).bind CallState.outcome?)) =
      some (some 0, some (.thrown what)) := by
    decide
  obtain ⟨station, began, rest⟩ := Option.bind_eq_some_iff.mp ran
  obtain ⟨next, failed, seen⟩ := Option.map_eq_some_iff.mp rest
  obtain ⟨registered, ends⟩ := Prod.mk.inj seen
  have inside : station.manager.lock = some (.call 0, .resolveAgain request ⟨1, 8⟩) := by
    obtain rfl := Option.some.inj began
    rfl
  have threw : next.manager.calls 0 = some (.ending (.thrown what)) :=
    CallState.ending_of_outcome ends
  obtain ⟨_, _, unchanged⟩ := failed_changes_nothing ⟨_, began⟩
  have unlocked : ∀ holder sink,
      Action.manager (.acquire holder) sink ∉ [Action.manager .run .live] := by
    intro holder sink member
    simp only [List.mem_singleton, Action.manager.injEq, reduceCtorEq, false_and] at member
  have alone : ∀ change, Action.elsewhere change ∈ [Action.manager .run .live] →
      ¬change.Concerns 256 := by
    intro change member
    simp only [List.mem_singleton, reduceCtorEq] at member
  obtain ⟨same, still⟩ := unchanged 0 _ _ next _ inside trivial unlocked failed threw
    (Outcome.noConfusion)
  exact ⟨station, next, began, failed, threw, same, (still 256 alone).trans registered⟩

end Station

end DataFeed.Venue
