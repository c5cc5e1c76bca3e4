import DataFeed.Venue.Changing

/-! # Calls that nobody disturbs

While no other call changes the subscriptions, an Unsubscribe removes the subscription it
names, or finds none and changes nothing, and a List answers what there is.
-/

namespace DataFeed.Venue

open Foundation L2 Net DataFeed.Core

namespace L2Manager

variable {Decoder : Type} {adapter : Adapter Decoder} {manager next : L2Manager Decoder}
  {call : Nat} {id : SubscriptionId}

/-- Nobody but a call changes the subscriptions. -/
def Alone (manager : L2Manager Decoder) (call : Nat) : Prop :=
  ∀ holder change, holder ≠ .call call → ¬ manager.Changing holder change

/-- A step in which nobody calls to change the subscriptions. -/
def Action.Calm (action : Action) : Prop :=
  ∀ call operation, action = .invoke call operation → operation.change? = none

theorem Alone.step {action : Action} (alone : manager.Alone call) (calm : action.Calm)
    (stepped : step adapter manager action = some next) : next.Alone call := by
  intro holder change other changing
  obtain before | ⟨_, operation, _, rfl, goes⟩ := changing_step stepped changing
  · exact alone holder change other before
  · exact Option.some_ne_none _ (goes.symm.trans (calm _ _ rfl))

/-- A call that does not hold the lock leaves the table to others, who leave it alone. -/
theorem Alone.still {state : CallState} (alone : manager.Alone call)
    (reachable : (system adapter).Reachable manager) (stands : manager.calls call = some state)
    (outside : state ≠ .inside) {holder : Holder} {current : Section}
    (held : manager.lock = some (holder, current)) : current.change? = none := by
  cases goes : current.change? with
  | none => rfl
  | some change =>
      refine (alone holder change ?_ (.inr ⟨current, held, goes⟩)).elim
      rintro rfl
      have inside := inside_of_held reachable held
      exact outside (Option.some.inj (stands.symm.trans inside))

/-- What others do leaves a call where it is, unless it takes the lock, is answered by the
venue or returns. -/
theorem calls_step {action : Action} {state : CallState}
    (reachable : (system adapter).Reachable manager) (stands : manager.calls call = some state)
    (outside : state ≠ .inside) (stepped : step adapter manager action = some next) :
    next.calls call = some state ∨
      (∃ entry, action = .acquire (.call call) ∧ state.entry? = some entry ∧
        next.lock = some (.call call, entry) ∧ next.calls call = some .inside ∧
          next.subscriptions = manager.subscriptions) ∨
      (∃ request, state = .fetching request) ∨
      ∃ outcome, state = .ending outcome ∧ next.calls call = some .returned := by
  have elsewhere : ∀ other new, other ≠ call →
      Function.update manager.calls other (some new) call = some state :=
    fun other new apart => (Function.update_of_ne apart.symm _ _).trans stands
  cases callStep_cases stepped with
  | invoke other operation fresh =>
      refine .inl (elsewhere other _ ?_)
      rintro rfl
      exact Option.some_ne_none _ (stands.symm.trans fresh)
  | acquire other waiting entry free found waits =>
      by_cases same : other = call
      · subst same
        obtain rfl := Option.some.inj (stands.symm.trans found)
        exact .inr (.inl ⟨entry, rfl, waits, rfl, Function.update_self _ _ _, rfl⟩)
      · exact .inl (elsewhere other _ same)
  | run holder current middle after held moved =>
      have calls : middle.calls call = some state := by rw [sectionStep_calls moved, stands]
      cases after with
      | goOn further => exact .inl calls
      | release ends =>
          cases holder with
          | resubscriber => exact .inl calls
          | call other =>
              refine .inl ((Function.update_of_ne ?_ _ _).trans calls)
              rintro rfl
              have inside := inside_of_held reachable held
              exact outside (Option.some.inj (stands.symm.trans inside))
  | fetch other request fetching =>
      by_cases same : other = call
      · subst same
        exact .inr (.inr (.inl ⟨request, Option.some.inj (stands.symm.trans fetching)⟩))
      · exact .inl (elsewhere other _ same)
  | respond other outcome ending =>
      by_cases same : other = call
      · subst same
        exact .inr (.inr (.inr ⟨outcome, Option.some.inj (stands.symm.trans ending),
          Function.update_self _ _ _⟩))
      · exact .inl (elsewhere other _ same)
  | resume | refuse => exact .inl stands
  | aside _ _ _ calls _ _ => exact .inl (calls ▸ stands)

/-- How an Unsubscribe that nobody disturbs comes to an end. -/
inductive Unsubscribed (start : Subscriptions) (id : SubscriptionId) (after : Subscriptions) :
    Outcome → Prop
  | removed {subscription : Subscription} :
      start.find? id = some subscription → after = start.erase id →
        Unsubscribed start id after .done
  | unknown {error : Error} :
      start.find? id = none → error.code = .unknownId → after = start →
        Unsubscribed start id after (.failed error)

/-- Where an Unsubscribe stands that nobody disturbs, given the table it began with. -/
inductive Unsubscribing (start : Subscriptions) (call : Nat) (id : SubscriptionId)
    (manager : L2Manager Decoder) : Prop
  | waits :
      manager.calls call = some (.waiting (.unsubscribe id)) → manager.subscriptions = start →
        Unsubscribing start call id manager
  | looks :
      manager.lock = some (.call call, .unsubscribe id) → manager.subscriptions = start →
        Unsubscribing start call id manager
  | removes {current : Section} {subscription : Subscription} :
      manager.lock = some (.call call, current) →
        (∃ book, current = .sendUnsubscribe id book) ∨ current = .erase id →
          start.find? id = some subscription → manager.subscriptions = start →
            Unsubscribing start call id manager
  | ended {outcome : Outcome} :
      manager.calls call = some (.ending outcome) ∨ manager.calls call = some .returned →
        Unsubscribed start id manager.subscriptions outcome →
          (∀ other, manager.calls call = some (.ending other) → other = outcome) →
            Unsubscribing start call id manager

namespace Unsubscribing

variable {start : Subscriptions}

/-- A step of the call itself under the lock. -/
theorem run {current : Section} {middle : L2Manager Decoder} {after : Next}
    (moved : SectionStep adapter manager current middle after)
    (same : manager.subscriptions = start)
    (stage : current = .unsubscribe id ∨
      ((∃ book, current = .sendUnsubscribe id book) ∨ current = .erase id) ∧
        ∃ subscription, start.find? id = some subscription) :
    Unsubscribing start call id (middle.settle (.call call) after) := by
  have ending {outcome : Outcome} {left : L2Manager Decoder}
      (ends : Unsubscribed start id left.subscriptions outcome) :
      Unsubscribing start call id (left.settle (.call call) (.release (.ending outcome))) := by
    have here : (left.settle (.call call) (.release (.ending outcome))).calls call =
        some (.ending outcome) := Function.update_self _ _ _
    exact .ended (.inl here) ends fun other stands =>
      (CallState.ending.inj (Option.some.inj (here.symm.trans stands))).symm
  obtain rfl | ⟨⟨book, rfl⟩ | rfl, subscription, found⟩ := stage
  · cases moved with
    | unknown _ absent => exact ending (.unknown (same ▸ absent) rfl same)
    | detached _ subscription found =>
        exact .removes rfl (.inl ⟨subscription.book, rfl⟩) (same ▸ found) same
  · cases moved
    exact .removes rfl (.inr rfl) found same
  · cases moved
    exact ending (.removed found (congrArg (OrderedMap.erase · id) same))

theorem step {action : Action} (reachable : (system adapter).Reachable manager)
    (alone : manager.Alone call) (unsubscribing : Unsubscribing start call id manager)
    (stepped : L2Manager.step adapter manager action = some next) :
    Unsubscribing start call id next := by
  have holds {current : Section} (held : manager.lock = some (.call call, current))
      (same : manager.subscriptions = start)
      (ran : action = .run → Unsubscribing start call id next)
      (stays : next.lock = some (.call call, current) → next.subscriptions = start →
        Unsubscribing start call id next)
      (calm : current ≠ .connectFeed) : Unsubscribing start call id next := by
    cases callStep_cases stepped with
    | run => exact ran rfl
    | acquire _ _ _ free => exact (Option.some_ne_none _ (held.symm.trans free)).elim
    | resume _ free => exact (Option.some_ne_none _ (held.symm.trans free)).elim
    | refuse _ _ other =>
        exact (calm (Prod.mk.inj (Option.some.inj (held.symm.trans other))).2).elim
    | invoke | fetch | respond => exact stays held same
    | aside _ _ lock _ _ subscriptions => exact stays (lock.trans held) (subscriptions.trans same)
  cases unsubscribing with
  | waits waiting same =>
      have outside : CallState.waiting (.unsubscribe id) ≠ .inside := CallState.noConfusion
      have kept := subscriptions_step stepped fun _ _ held =>
        alone.still reachable waiting outside held
      obtain stands | ⟨entry, _, waits, locked, _, _⟩ | ⟨_, other⟩ | ⟨_, other, _⟩ :=
        calls_step reachable waiting outside stepped
      · exact .waits stands (kept.trans same)
      · obtain rfl := Option.some.inj waits
        exact .looks locked (kept.trans same)
      · cases other
      · cases other
  | looks held same =>
      refine holds held same ?_ (fun locked same => .looks locked same) Section.noConfusion
      rintro rfl
      cases callStep_cases stepped with
      | run holder current middle after lock moved =>
          obtain ⟨rfl, rfl⟩ := Prod.mk.inj (Option.some.inj (held.symm.trans lock))
          exact run moved same (.inl rfl)
      | aside _ _ lock _ _ subscriptions =>
          exact .looks (lock.trans held) (subscriptions.trans same)
  | removes held stage found same =>
      refine holds held same ?_ (fun locked same => .removes locked stage found same) ?_
      · rintro rfl
        cases callStep_cases stepped with
        | run holder current middle after lock moved =>
            obtain ⟨rfl, rfl⟩ := Prod.mk.inj (Option.some.inj (held.symm.trans lock))
            exact run moved same (.inr ⟨stage, _, found⟩)
        | aside _ _ lock _ _ subscriptions =>
            exact .removes (lock.trans held) stage found (subscriptions.trans same)
      · rintro rfl
        obtain ⟨_, same⟩ | same := stage <;> cases same
  | ended stands ends sole =>
      obtain ⟨state, stands, outside⟩ : ∃ state, manager.calls call = some state ∧
          (state = .returned ∨ ∃ outcome, state = .ending outcome) := by
        obtain ending | returned := stands
        · exact ⟨_, ending, .inr ⟨_, rfl⟩⟩
        · exact ⟨_, returned, .inl rfl⟩
      have away : state ≠ .inside := by
        rintro rfl
        obtain other | ⟨_, other⟩ := outside <;> cases other
      have kept := subscriptions_step stepped fun _ _ held =>
        alone.still reachable stands away held
      rw [← kept] at ends
      obtain stays | ⟨entry, _, waits, _⟩ | ⟨_, rfl⟩ | ⟨outcome, rfl, returned⟩ :=
        calls_step reachable stands away stepped
      · obtain rfl | ⟨outcome, rfl⟩ := outside
        · exact .ended (.inr stays) ends fun other ending => by
            cases stays.symm.trans ending
        · obtain rfl := sole outcome stands
          exact .ended (.inl stays) ends fun other ending =>
            (CallState.ending.inj (Option.some.inj (stays.symm.trans ending))).symm
      · obtain rfl | ⟨outcome, rfl⟩ := outside <;> cases waits
      · obtain other | ⟨_, other⟩ := outside <;> cases other
      · exact .ended (.inr returned) ends fun other ending => by
          cases returned.symm.trans ending

end Unsubscribing

/-- A Subscribe is not answered with a list. -/
theorem resolveTaken_ne_listed {subscriptions : Subscriptions} {book : BookSpec}
    {listed : List SubscriptionInfo} :
    resolveTaken subscriptions id book ≠ some (.listed listed) := by
  intro taken
  unfold resolveTaken at taken
  split at taken
  · cases taken
  · split at taken
    · contradiction
    · split at taken <;> cases taken

/-- A List is answered with what there is. -/
theorem listed_section {current : Section} {listed : List SubscriptionInfo}
    (moved : SectionStep adapter manager current next (.release (.ending (.listed listed)))) :
    listed = infos manager.subscriptions := by
  generalize goes : Next.release (.ending (.listed listed)) = after at moved
  cases moved with
  | list =>
      cases goes
      rfl
  | endConnection reconnect after _ same =>
      rw [same] at goes
      cases reconnect <;> cases goes
  | takenFirst request outcome taken =>
      cases goes
      exact (resolveTaken_ne_listed taken).elim
  | takenAgain request precision outcome taken =>
      cases goes
      exact (resolveTaken_ne_listed taken).elim
  | _ => cases goes

/-- Whoever changes the subscriptions was called to. -/
theorem invoked_of_changing (reachable : (system adapter).Reachable manager) {holder : Holder}
    {change : Change} (changing : manager.Changing holder change) :
    ∃ call operation, holder = .call call ∧ .invoke call operation ∈ manager.history := by
  have every : ∀ state action next, (∀ holder change, Changing state holder change →
        ∃ call operation, holder = .call call ∧ .invoke call operation ∈ state.history) →
      step adapter state action = some next → ∀ holder change, Changing next holder change →
        ∃ call operation, holder = .call call ∧ .invoke call operation ∈ next.history := by
    intro state action next called stepped holder change changing
    obtain before | ⟨call, operation, same, rfl, _⟩ := changing_step stepped changing
    · obtain ⟨call, operation, same, made⟩ := called holder change before
      exact ⟨call, operation, same, recorded_step stepped made⟩
    · refine ⟨call, operation, same, ?_⟩
      rw [(step_invoke.mp stepped).2]
      exact List.mem_append_right _ (List.mem_singleton.mpr rfl)
  refine reachable.invariant ?_ every holder change changing
  rintro _ _ (⟨_, _, _, stands, _⟩ | ⟨_, locked, _⟩)
  · exact (Option.some_ne_none _ stands.symm).elim
  · exact (Option.some_ne_none _ locked.symm).elim

/-- Every call that was made has returned. -/
def allReturned (manager : L2Manager Decoder) : Bool :=
  manager.history.all fun event =>
    match event with
    | .invoke call _ =>
        match manager.calls call with
        | some .returned => true
        | _ => false
    | .respond _ _ => true

theorem returned_of_allReturned (returned : manager.allReturned = true) {operation : Operation}
    (made : .invoke call operation ∈ manager.history) : manager.calls call = some .returned := by
  have stands := List.all_eq_true.mp returned _ made
  dsimp only at stands
  split at stands
  · assumption
  · contradiction

/-- Nobody changes the subscriptions when every call has returned. -/
theorem unchanging_of_returned (reachable : (system adapter).Reachable manager)
    (returned : manager.allReturned = true) (holder : Holder) (change : Change) :
    ¬ manager.Changing holder change := by
  intro changing
  obtain ⟨call, operation, rfl, made⟩ := invoked_of_changing reachable changing
  have stands := returned_of_allReturned returned made
  obtain ⟨other, state, same, found, goes⟩ | ⟨current, held, _⟩ := changing
  · cases same
    obtain rfl := Option.some.inj (stands.symm.trans found)
    cases goes
  · cases (inside_of_held reachable held).symm.trans stands

/-- Nobody makes a call but who calls. -/
theorem fresh_step {action : Action} (reachable : (system adapter).Reachable manager)
    (fresh : manager.calls call = none) (stepped : step adapter manager action = some next)
    (apart : ∀ operation, action ≠ .invoke call operation) : next.calls call = none := by
  have elsewhere {other : Nat} {state : CallState} (new : CallState) (calls : Nat → Option CallState)
      (same : calls call = none) (stands : manager.calls other = some state) :
      Function.update calls other (some new) call = none := by
    refine (Function.update_of_ne ?_ _ _).trans same
    rintro rfl
    exact Option.some_ne_none _ (stands.symm.trans fresh)
  cases callStep_cases stepped with
  | invoke other operation =>
      refine (Function.update_of_ne ?_ _ _).trans fresh
      rintro rfl
      exact apart operation rfl
  | acquire other state entry free found => exact elsewhere _ _ fresh found
  | run holder current middle after held moved =>
      have calls : middle.calls call = none := by rw [sectionStep_calls moved, fresh]
      cases after with
      | goOn => exact calls
      | release ends =>
          cases holder with
          | resubscriber => exact calls
          | call other => exact elsewhere _ _ calls (inside_of_held reachable held)
  | fetch other request fetching => exact elsewhere _ _ fresh fetching
  | respond other outcome ending => exact elsewhere _ _ fresh ending
  | resume | refuse => exact fresh
  | aside _ _ _ calls _ _ => exact calls ▸ fresh

/-- There is always a call to be made. -/
theorem exists_fresh (reachable : (system adapter).Reachable manager) :
    ∃ bound, ∀ call, bound ≤ call → manager.calls call = none := by
  apply reachable.induction
  · exact ⟨0, fun _ _ => rfl⟩
  · intro state action next reachable ⟨bound, fresh⟩ stepped
    have stepped : step adapter state action = some next := stepped
    by_cases invoked : ∃ call operation, action = .invoke call operation
    · obtain ⟨made, operation, rfl⟩ := invoked
      refine ⟨max bound (made + 1), fun call above => ?_⟩
      apply fresh_step reachable (fresh call (le_of_max_le_left above)) stepped
      rintro _ ⟨⟩
      omega
    · refine ⟨bound, fun call above => ?_⟩
      exact fresh_step reachable (fresh call above) stepped fun operation same =>
        invoked ⟨call, operation, same⟩

/-- Who has returned is in no other state. -/
theorem returned_of_responded (reachable : (system adapter).Reachable manager) {outcome : Outcome}
    (responded : .respond call outcome ∈ manager.history) :
    manager.calls call = some .returned := by
  have every : ∀ state action next, (system adapter).Reachable state →
      (∀ call outcome, .respond call outcome ∈ state.history →
        state.calls call = some .returned) →
      step adapter state action = some next →
        ∀ call outcome, .respond call outcome ∈ next.history →
          next.calls call = some .returned := by
    intro state action next reachable held stepped call outcome member
    have stays (before : .respond call outcome ∈ state.history) :
        next.calls call = some .returned := by
      have stands := held call outcome before
      obtain stays | ⟨_, _, waits, _⟩ | ⟨_, other⟩ | ⟨_, other, _⟩ :=
        calls_step reachable stands CallState.noConfusion stepped
      · exact stays
      · cases waits
      · cases other
      · cases other
    cases callStep_cases stepped with
    | invoke other operation fresh =>
        obtain before | new := List.mem_append.mp member
        · exact stays before
        · cases List.mem_singleton.mp new
    | respond other ended ending =>
        obtain before | new := List.mem_append.mp member
        · exact stays before
        · cases List.mem_singleton.mp new
          exact Function.update_self _ _ _
    | run holder current middle after held moved =>
        refine stays ?_
        obtain ⟨_, _, _, same, _⟩ := settle_eq middle holder after
        rw [same] at member
        dsimp only at member
        rwa [sectionStep_history moved] at member
    | aside _ _ _ _ history _ => exact stays (history ▸ member)
    | acquire | resume | refuse | fetch => exact stays member
  refine reachable.induction ?_ (fun state action next reached held stepped =>
    every state action next reached held stepped) call outcome responded
  exact fun _ _ member => (List.not_mem_nil member).elim

/-- Every List that was made since says what the table held then. -/
def Lists (start manager : L2Manager Decoder) : Prop :=
  ∀ call listed, start.calls call = none →
    manager.calls call = some (.ending (.listed listed)) ∨
        .respond call (.listed listed) ∈ manager.history →
      listed = infos start.subscriptions

namespace Lists

variable {start : L2Manager Decoder}

theorem refl (reachable : (system adapter).Reachable start) : Lists start start := by
  intro call listed fresh answered
  obtain ending | responded := answered
  · exact (Option.some_ne_none _ (ending.symm.trans fresh)).elim
  · have returned := returned_of_responded reachable responded
    exact (Option.some_ne_none _ (returned.symm.trans fresh)).elim

theorem step {action : Action} (lists : Lists start manager)
    (same : manager.subscriptions = start.subscriptions)
    (stepped : L2Manager.step adapter manager action = some next) : Lists start next := by
  intro call listed fresh answered
  have before := lists call listed fresh
  have moved {other : Nat} {state : CallState}
      (new : state = .ending (.listed listed) → other = call → listed = infos start.subscriptions)
      (stands : Function.update manager.calls other (some state) call =
        some (.ending (.listed listed))) : listed = infos start.subscriptions := by
    by_cases here : call = other
    · rw [here, Function.update_self] at stands
      exact new (Option.some.inj stands) here.symm
    · rw [Function.update_of_ne here] at stands
      exact before (.inl stands)
  cases callStep_cases stepped with
  | invoke other operation free =>
      obtain stands | responded := answered
      · refine moved (fun begun _ => ?_) stands
        cases operation with
        | subscribe request =>
            simp only [begin] at begun
            split at begun <;> cases begun
        | connect | disconnect | healthy | unsubscribe | list => cases begun
      · obtain old | new := List.mem_append.mp responded
        · exact before (.inr old)
        · cases List.mem_singleton.mp new
  | acquire other state entry free found waits =>
      obtain stands | responded := answered
      · exact moved (fun inside _ => by cases inside) stands
      · exact before (.inr responded)
  | run holder current middle after held ran =>
      have history : middle.history = manager.history := sectionStep_history ran
      have calls : middle.calls = manager.calls := sectionStep_calls ran
      cases after with
      | goOn further =>
          refine before (answered.imp (fun stands => ?_) fun responded => ?_)
          · exact calls ▸ stands
          · exact history ▸ responded
      | release ends =>
          cases holder with
          | resubscriber =>
              refine before (answered.imp (fun stands => ?_) fun responded => ?_)
              · exact calls ▸ stands
              · exact history ▸ responded
          | call other =>
              obtain stands | responded := answered
              · dsimp only [settle] at stands
                rw [calls] at stands
                refine moved (fun ending _ => ?_) stands
                rw [ending] at ran
                exact (listed_section ran).trans (congrArg infos same)
              · exact before (.inr (history ▸ responded))
  | fetch other request fetching =>
      obtain stands | responded := answered
      · refine moved (fun ends _ => ?_) stands
        split at ends <;> cases ends
      · exact before (.inr responded)
  | respond other outcome ending =>
      obtain stands | responded := answered
      · exact moved (fun returned _ => by cases returned) stands
      · obtain old | new := List.mem_append.mp responded
        · exact before (.inr old)
        · cases List.mem_singleton.mp new
          exact before (.inl ending)
  | aside _ _ lock calls history _ => exact before (calls ▸ history ▸ answered)
  | resume | refuse => exact before answered

end Lists

end L2Manager

end DataFeed.Venue
