import DataFeed.Venue.FailedChange
import DataFeed.Venue.ReceiverStreams
import DataFeed.Venue.Undisturbed

/-! # Live subscriptions and registered streams

A live subscription is recorded as its stream is registered, and goes as that is
unregistered, so a step of a manager does the same to both (`Keeps`).
-/

namespace DataFeed.Venue

open Foundation L2 Net DataFeed.Core Frontend

namespace Station

variable {Decoder : Type} {adapter : Adapter Decoder} {station next : Station Decoder}
  {sink : Sink}

/-- What a step of a manager does to the table and to what is registered. -/
inductive Books (sink : Sink) (station : Station Decoder) (next : Station Decoder) : Prop
  | still :
      next.manager.subscriptions = station.manager.subscriptions →
        next.transmitters = station.transmitters →
          next.streams.outbox = station.streams.outbox → Books sink station next
  | added {holder : Holder} {request : SubscribeRequest} {precision : PairPrecision} :
      station.manager.lock = some (holder, .resolveAgain request precision) →
        station.manager.subscriptions.find? request.id = none →
          next.manager.subscriptions = station.manager.subscriptions.insert request.id
              ⟨request.book, request.nowNs, station.manager.nextReceiver⟩ →
            next.transmitters = Function.update station.transmitters station.manager.nextReceiver
                (sink = .live) →
              ((sink = .live ∧ station.streams.outbox.find? request.id = none ∧
                  ∃ stream, next.streams.outbox =
                    station.streams.outbox.insert request.id stream) ∨
                sink = .record ∧ next.streams = station.streams) →
                  Books sink station next
  | removed {holder : Holder} {id : SubscriptionId} {subscription : Subscription} :
      station.manager.lock = some (holder, .erase id) →
        station.manager.subscriptions.find? id = some subscription →
          next.manager.subscriptions = station.manager.subscriptions.erase id →
            next.transmitters = station.transmitters →
              next.streams = station.destroy id subscription.receiver → Books sink station next

/-- A step of the lock's holder. -/
theorem books_of_run (reachable : (L2Manager.system adapter).Reachable station.manager)
    (stepped : station.step adapter (.manager .run sink) = some next) :
    Books sink station next := by
  simp only [step] at stepped
  split at stepped
  · contradiction
  · rename_i holder current holds
    obtain ⟨manager, moved, rest⟩ := Option.bind_eq_some_iff.mp stepped
    obtain ⟨built, builds, rfl⟩ := Option.map_eq_some_iff.mp rest
    simp only [L2Manager.step, holds] at moved
    obtain ⟨⟨middle, after⟩, ran, rfl⟩ := Option.map_eq_some_iff.mp moved
    have table := L2Manager.subscriptions_settle middle holder after
    cases L2Manager.sectionStep_cases ran with
    | takenAgain request precision outcome taken =>
        simp only [receivers, taken] at builds
        obtain rfl := Option.some.inj builds
        exact .still table rfl rfl
    | unbuilt request precision what free failed =>
        obtain ⟨opened, _⟩ | ⟨_, same⟩ := receivers_cases free builds
        · cases failed.symm.trans opened
        · exact .still table (congrArg Prod.snd same) (congrArg (Streams.outbox ∘ Prod.fst) same)
    | built request precision free made =>
        obtain ⟨_, transmitters, registered⟩ | ⟨⟨what, failed⟩, _⟩ := receivers_cases free builds
        · exact .added holds (L2Manager.resolveTaken_eq_none free).1 table transmitters registered
        · cases made.symm.trans failed
    | unattached request precision receiver what refused =>
        have tabled := L2Manager.Tabled.of_reachable reachable
        rw [L2Manager.current, holds] at tabled
        exact (tabled.attaches refused).elim
    | attached request precision receiver parser events _ done =>
        simp only [receivers, done] at builds
        obtain rfl := Option.some.inj builds
        exact .still table rfl rfl
    | erase id =>
        simp only [receivers] at builds
        split at builds
        · rename_i subscription found
          obtain rfl := Option.some.inj builds
          exact .removed holds found table rfl rfl
        · rename_i absent
          obtain rfl := Option.some.inj builds
          exact .still (table.trans (OrderedMap.erase_absent absent)) rfl rfl
    | _ =>
        obtain rfl := Option.some.inj builds
        exact .still table rfl rfl

/-- A step of a manager is one of the listed ones. -/
theorem books_of_step {action : L2Manager.Action}
    (reachable : (L2Manager.system adapter).Reachable station.manager)
    (stepped : station.step adapter (.manager action sink) = some next) :
    Books sink station next := by
  by_cases runs : action = .run
  · exact books_of_run reachable (runs ▸ stepped)
  · by_cases refuses : ∃ what, action = .refuse what
    · obtain ⟨what, rfl⟩ := refuses
      obtain ⟨manager, moved, rfl⟩ := Option.map_eq_some_iff.mp stepped
      refine .still ?_ rfl rfl
      simp only [L2Manager.step] at moved
      split at moved
      · obtain rfl := Option.some.inj moved
        rfl
      · contradiction
    · obtain ⟨same, streams, transmitters⟩ := step_beside stepped runs fun what same =>
        refuses ⟨what, same⟩
      exact .still same.table transmitters (congrArg Streams.outbox streams)

/-- A live subscription has the id. -/
def Live (station : Station Decoder) (id : SubscriptionId) : Prop :=
  ∃ subscription, station.manager.subscriptions.find? id = some subscription ∧
    station.transmitters subscription.receiver = true

/-- A stream is registered under the id. -/
def Registered (station : Station Decoder) (id : SubscriptionId) : Prop :=
  (station.streams.outbox.find? id).isSome = true

/-- What a step does to the live subscriptions and the registered streams alike. -/
inductive Keeps (station next : Station Decoder) : Prop
  | same :
      (∀ id, next.Live id ↔ station.Live id) →
        (∀ id, next.Registered id ↔ station.Registered id) → Keeps station next
  | adds (id : SubscriptionId) :
      (∀ query, next.Live query ↔ query = id ∨ station.Live query) →
        (∀ query, next.Registered query ↔ query = id ∨ station.Registered query) →
          Keeps station next
  | drops (id : SubscriptionId) :
      station.Live id →
        (∀ query, next.Live query ↔ query ≠ id ∧ station.Live query) →
          (∀ query, next.Registered query ↔ query ≠ id ∧ station.Registered query) →
            Keeps station next

theorem live_insert {request : SubscribeRequest} {live : Bool}
    (named : ∀ id subscription, station.manager.subscriptions.find? id = some subscription →
      subscription.receiver < station.manager.nextReceiver)
    (absent : station.manager.subscriptions.find? request.id = none)
    (table : next.manager.subscriptions = station.manager.subscriptions.insert request.id
      ⟨request.book, request.nowNs, station.manager.nextReceiver⟩)
    (transmitters : next.transmitters = Function.update station.transmitters
      station.manager.nextReceiver live) (query : SubscriptionId) :
    next.Live query ↔ (query = request.id ∧ live = true) ∨ station.Live query := by
  unfold Live
  rw [table, transmitters, OrderedMap.find?_insert]
  constructor
  · intro ⟨subscription, found, transmits⟩
    split at found
    · rename_i same
      obtain rfl := Option.some.inj found
      rw [Function.update_self] at transmits
      exact .inl ⟨same, transmits⟩
    · have older := named query subscription found
      rw [Function.update_of_ne older.ne] at transmits
      exact .inr ⟨subscription, found, transmits⟩
  · rintro (⟨rfl, rfl⟩ | ⟨subscription, found, transmits⟩)
    · exact ⟨_, if_pos rfl, Function.update_self _ _ _⟩
    · have older := named query subscription found
      refine ⟨subscription, ?_, (Function.update_of_ne older.ne _ _).trans transmits⟩
      rw [if_neg, found]
      rintro rfl
      exact Option.some_ne_none _ (found.symm.trans absent)

theorem live_erase {id : SubscriptionId}
    (table : next.manager.subscriptions = station.manager.subscriptions.erase id)
    (transmitters : next.transmitters = station.transmitters) (query : SubscriptionId) :
    next.Live query ↔ query ≠ id ∧ station.Live query := by
  unfold Live
  rw [table, transmitters, OrderedMap.find?_erase]
  constructor
  · intro live
    obtain ⟨subscription, found, transmits⟩ := live
    split at found
    · contradiction
    · rename_i other
      exact ⟨other, subscription, found, transmits⟩
  · intro live
    obtain ⟨other, subscription, found, transmits⟩ := live
    exact ⟨subscription, (if_neg other).trans found, transmits⟩

/-- **Live subscriptions and registered streams come and go together.** -/
theorem Books.keeps (books : Books sink station next)
    (named : ∀ id subscription, station.manager.subscriptions.find? id = some subscription →
      subscription.receiver < station.manager.nextReceiver) : Keeps station next := by
  cases books with
  | still table transmitters outbox =>
      refine .same (fun id => ?_) fun id => ?_
      · unfold Live
        rw [table, transmitters]
      · unfold Registered
        rw [outbox]
  | added held absent table transmitters registered =>
      rename_i request precision
      have live := live_insert named absent table transmitters
      obtain ⟨rfl, _, stream, outbox⟩ | ⟨rfl, streams⟩ := registered
      · refine .adds request.id (fun query => ?_) fun query => ?_
        · rw [live, decide_eq_true_eq, and_iff_left rfl]
        · unfold Registered
          rw [outbox, OrderedMap.find?_insert]
          split
          · rename_i same
            exact iff_of_true rfl (.inl same)
          · rename_i other
            exact (or_iff_right other).symm
      · refine .same (fun query => ?_) fun query => ?_
        · rw [live]
          exact or_iff_right fun recorded => absurd recorded.2 (by decide)
        · unfold Registered
          rw [streams]
  | removed held found table transmitters streams =>
      rename_i id subscription
      have live := live_erase table transmitters
      unfold destroy at streams
      split at streams
      · rename_i transmits
        refine .drops id ⟨subscription, found, transmits⟩ live fun query => ?_
        unfold Registered
        rw [streams, Streams.outbox_destroy, OrderedMap.find?_erase]
        split
        · rename_i same
          exact iff_of_false Bool.false_ne_true fun both => both.1 same
        · rename_i other
          exact (and_iff_right other).symm
      · rename_i records
        refine .same (fun query => ?_) fun query => ?_
        · rw [live]
          refine and_iff_right_of_imp fun recorded => ?_
          obtain ⟨other, present, transmits⟩ := recorded
          rintro rfl
          obtain rfl := Option.some.inj (present.symm.trans found)
          exact records transmits
        · unfold Registered
          rw [streams]

end Station

end DataFeed.Venue
