import DataFeed.Venue.Lasting
import DataFeed.Venue.Linearization

/-! # A subscription comes once

The Subscribe that brings an id has put it in the table before it ends, and does so once. So
where no two Subscribes bring the same id, what was removed does not come back (`Once`).
-/

namespace DataFeed.Venue

open Foundation L2 Net DataFeed.Core

namespace L2Manager

variable {Decoder : Type} {adapter : Adapter Decoder} {manager next : L2Manager Decoder}
  {id : SubscriptionId} {book : BookSpec}

/-- The Subscribe that brought an id has come to an outcome. -/
def Brought (manager : L2Manager Decoder) (id : SubscriptionId) : Prop :=
  ∃ call request outcome, .invoke call (.subscribe request) ∈ manager.history ∧
    request.id = id ∧ manager.Answered call outcome

/-- A Subscribe has put its id in the table and has yet to end. -/
def Bringing (manager : L2Manager Decoder) (id : SubscriptionId) : Prop :=
  ∃ call request current, .invoke call (.subscribe request) ∈ manager.history ∧
    request.id = id ∧ manager.lock = some (.call call, current) ∧ current.inner = true

/-- What was once brought in stays brought in. -/
theorem Brought.step {action : Action} (reachable : (system adapter).Reachable manager)
    (brought : manager.Brought id) (stepped : L2Manager.step adapter manager action = some next) :
    next.Brought id := by
  obtain ⟨call, request, outcome, invoked, same, answered⟩ := brought
  exact ⟨call, request, outcome, recorded_step stepped invoked, same,
    answered.step reachable stepped⟩

/-- A call that is bringing an id in goes on with it or has brought it in. -/
theorem Bringing.step {action : Action} (reachable : (system adapter).Reachable manager)
    (bringing : manager.Bringing id) (stepped : L2Manager.step adapter manager action = some next) :
    next.Brought id ∨ next.Bringing id := by
  obtain ⟨call, request, current, invoked, same, held, inner⟩ := bringing
  have recorded := recorded_step stepped invoked
  have goes := (Called.of_reachable reachable).holds call _ current invoked held
  cases callStep_cases stepped with
  | run holder running middle after locked moved =>
      cases held.symm.trans locked
      have ends (outcome : Outcome) (goes_on : after = .release (.ending outcome)) :
          Brought (middle.settle (.call call) after) id := by
        subst goes_on
        exact ⟨call, request, outcome, recorded, same, .inl (Function.update_self _ _ _)⟩
      cases moved with
      | unattached | sendSubscribe | erase => exact .inl (ends _ rfl)
      | attached | sendUnsubscribe => exact .inr ⟨call, request, _, recorded, same, rfl, rfl⟩
      | endConnection => cases inner
      | _ => cases inner
  | acquire _ _ _ free => exact (Option.some_ne_none _ (held.symm.trans free)).elim
  | resume _ free => exact (Option.some_ne_none _ (held.symm.trans free)).elim
  | refuse _ _ locked =>
      cases held.symm.trans locked
      cases inner
  | aside _ _ lock _ _ _ =>
      exact .inr ⟨call, request, current, recorded, same, lock.trans held, inner⟩
  | invoke | fetch | respond =>
      exact .inr ⟨call, request, current, recorded, same, held, inner⟩

/-- What comes into the table is brought by the Subscribe that holds the lock. -/
theorem holds_cases {action : Action} (reachable : (system adapter).Reachable manager)
    (stepped : step adapter manager action = some next) (holds : next.Holds id book) :
    manager.Holds id book ∨ ∃ call request precision receiver,
      .invoke call (.subscribe request) ∈ manager.history ∧ request.id = id ∧
        manager.lock = some (.call call, .resolveAgain request precision) ∧
          next.lock = some (.call call, .attach request precision receiver) := by
  obtain ⟨subscription, found, same⟩ := holds
  cases callStep_cases stepped with
  | run holder current middle after held moved =>
      rw [subscriptions_settle] at found
      cases moved with
      | built request precision =>
          dsimp only at found
          rw [OrderedMap.find?_insert] at found
          split at found
          · rename_i here
            obtain ⟨call, operation, rfl, invoked⟩ :=
              invoked_of_changing reachable (.inr ⟨_, held, rfl⟩)
            have goes := (Called.of_reachable reachable).holds call operation _ invoked held
            cases operation <;> cases goes
            exact .inr ⟨call, request, precision, _, invoked, here.symm, held, rfl⟩
          · exact .inl ⟨subscription, found, same⟩
      | unattached request =>
          dsimp only at found
          rw [OrderedMap.find?_erase] at found
          split at found
          · contradiction
          · exact .inl ⟨subscription, found, same⟩
      | erase erased =>
          dsimp only at found
          rw [OrderedMap.find?_erase] at found
          split at found
          · contradiction
          · exact .inl ⟨subscription, found, same⟩
      | _ => exact .inl ⟨subscription, found, same⟩
  | aside _ _ _ _ _ subscriptions => exact .inl ⟨subscription, subscriptions ▸ found, same⟩
  | invoke | acquire | resume | refuse | fetch | respond => exact .inl ⟨subscription, found, same⟩

/-- A section in which a subscription is being removed. -/
def Removing (current : Section) (id : SubscriptionId) : Prop :=
  (∃ book, current = .sendUnsubscribe id book) ∨ current = .erase id

/-- What is in the table was brought there, and what was removed is not there any more. -/
structure Once (manager : L2Manager Decoder) : Prop where
  placed : ∀ id book, manager.Holds id book → manager.Brought id ∨ manager.Bringing id
  removing : ∀ holder current id, manager.lock = some (holder, current) → Removing current id →
    manager.Brought id
  gone : ∀ id, manager.Removed id → manager.Brought id ∧ manager.subscriptions.find? id = none

namespace Once

/-- A removed subscription has just been removed, or was so before. -/
theorem removed_cases {action : Action} (reachable : (system adapter).Reachable manager)
    (stepped : L2Manager.step adapter manager action = some next) (removed : next.Removed id) :
    manager.Removed id ∨ (∃ holder, manager.lock = some (holder, .erase id)) ∧
      next.subscriptions.find? id = none := by
  obtain ⟨call, invoked, answered⟩ := removed
  obtain before | ⟨current, middle, held, moved, rfl⟩ | ⟨_, _, _, other⟩ :=
    answered_step reachable stepped answered
  · exact .inl ⟨call, invoked_step stepped (before.made reachable) invoked, before⟩
  · have made := inside_of_held reachable held
    have invoked := invoked_step stepped (made ▸ Option.some_ne_none _) invoked
    have goes := (Called.of_reachable reachable).holds call _ current invoked held
    rw [subscriptions_settle]
    generalize ends : Next.release (.ending .done) = after at moved
    cases moved with
    | erase =>
        cases goes
        exact .inr ⟨⟨_, held⟩, (OrderedMap.find?_erase _ _ _).trans (if_pos rfl)⟩
    | unknown | detached | sendUnsubscribe => cases ends
    | _ => cases goes
  · cases other

/-- An id that was brought is not brought again. -/
theorem apart {call : Nat} {request : SubscribeRequest} {precision : PairPrecision}
    (reachable : (system adapter).Reachable manager) (distinct : DistinctIds manager.history)
    (brought : manager.Brought request.id)
    (invoked : .invoke call (.subscribe request) ∈ manager.history)
    (held : manager.lock = some (.call call, .resolveAgain request precision)) : False := by
  obtain ⟨first, other, outcome, made, same, answered⟩ := brought
  obtain rfl := distinct first call other request made invoked same
  have inside := inside_of_held reachable held
  obtain ending | responded := answered
  · cases inside.symm.trans ending
  · cases inside.symm.trans (returned_of_responded reachable responded)

/-- Every step keeps each id brought in at most once. -/
theorem step {action : Action} (reachable : (system adapter).Reachable manager)
    (distinct : DistinctIds manager.history) (once : manager.Once)
    (stepped : L2Manager.step adapter manager action = some next) : next.Once := by
  refine ⟨?_, ?_, ?_⟩
  · intro id book holds
    obtain before | ⟨call, request, _, _, invoked, same, _, held⟩ :=
      holds_cases reachable stepped holds
    · obtain brought | bringing := once.placed id book before
      · exact .inl (brought.step reachable stepped)
      · exact bringing.step reachable stepped
    · exact .inr ⟨call, request, _, recorded_step stepped invoked, same, held, rfl⟩
  · intro holder current id held removing
    have inner : current.inner = true := by
      obtain ⟨_, rfl⟩ | rfl := removing <;> rfl
    obtain ⟨locked, _⟩ | ⟨before, middle, locked, moved, _⟩ := inner_step stepped held inner
    · exact (once.removing holder current id locked removing).step reachable stepped
    · obtain ⟨book, rfl⟩ | rfl := removing
      · cases moved with
        | detached _ subscription found =>
            obtain brought | ⟨_, _, _, _, _, other, inner⟩ := once.placed id _ ⟨_, found, rfl⟩
            · exact brought.step reachable stepped
            · cases other.symm.trans locked
              cases inner
        | endConnection reconnect _ _ other => cases reconnect <;> cases other
      · cases moved with
        | sendUnsubscribe _ book =>
            exact (once.removing holder _ id locked (.inl ⟨book, rfl⟩)).step reachable stepped
        | endConnection reconnect _ _ other => cases reconnect <;> cases other
  · intro id removed
    obtain before | ⟨⟨holder, locked⟩, absent⟩ := removed_cases reachable stepped removed
    · obtain ⟨brought, absent⟩ := once.gone id before
      refine ⟨brought.step reachable stepped, ?_⟩
      by_contra present
      obtain ⟨subscription, found⟩ := Option.ne_none_iff_exists'.mp present
      obtain ⟨_, earlier, _⟩ | ⟨call, request, _, _, invoked, rfl, held, _⟩ :=
        holds_cases reachable stepped ⟨subscription, found, rfl⟩
      · exact Option.some_ne_none _ (earlier.symm.trans absent)
      · exact apart reachable distinct brought invoked held
    · exact ⟨(once.removing holder _ id locked (.inr rfl)).step reachable stepped, absent⟩

/-- In every reachable state each id was brought in at most once. -/
theorem of_reachable (reachable : (system adapter).Reachable manager)
    (distinct : DistinctIds manager.history) : manager.Once := by
  have every : DistinctIds manager.history → manager.Once := by
    apply reachable.induction
    · refine fun _ => ⟨?_, ?_, ?_⟩
      · intro _ _ ⟨_, found, _⟩
        exact (Option.some_ne_none _ found.symm).elim
      · intro _ _ _ held
        cases held
      · intro _ ⟨_, invoked, _⟩
        exact (List.not_mem_nil invoked).elim
    · intro state action next reached once stepped distinct
      have before : DistinctIds state.history := fun first second one two made also =>
        distinct first second one two (recorded_step stepped made) (recorded_step stepped also)
      exact (once before).step reached before stepped
  exact every distinct

end Once

/-- What comes of a subscription that was removed, in Lists that were made since. -/
structure Gone (start : L2Manager Decoder) (id : SubscriptionId) (manager : L2Manager Decoder) :
    Prop where
  removed : manager.Removed id
  lists : ∀ call listed, start.calls call = none → manager.Answered call (.listed listed) →
    ∀ info ∈ listed, info.id ≠ id

namespace Gone

/-- Where it was removed, an id is gone. -/
theorem refl (reachable : (system adapter).Reachable manager) (removed : manager.Removed id) :
    Gone manager id manager where
  removed := removed
  lists _ _ fresh answered := (answered.made reachable fresh).elim

/-- An id that is gone stays gone over every step. -/
theorem step {start : L2Manager Decoder} {action : Action}
    (reachable : (system adapter).Reachable manager) (distinct : DistinctIds manager.history)
    (gone : Gone start id manager)
    (stepped : L2Manager.step adapter manager action = some next) : Gone start id next := by
  refine ⟨gone.removed.step reachable stepped, fun call listed fresh answered info among => ?_⟩
  obtain before | ⟨current, middle, held, moved, _⟩ | ⟨_, _, _, other⟩ :=
    answered_step reachable stepped answered
  · exact gone.lists call listed fresh before info among
  · rw [listed_section moved] at among
    obtain ⟨_, found, _⟩ := holds_of_info among
    rintro rfl
    have absent := ((Once.of_reachable reachable distinct).gone info.id gone.removed).2
    exact Option.some_ne_none _ (found.symm.trans absent)
  · cases other

end Gone

end L2Manager

end DataFeed.Venue
