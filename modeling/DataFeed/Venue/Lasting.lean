import DataFeed.Venue.SubscriptionTable
import DataFeed.Venue.Undisturbed

/-! # A subscription lasts until it is ended

Whatever its callers, its threads and the venue do, what a Subscribe was answered with, or a
List has shown, stays in a manager's table until somebody's Unsubscribe has removed it
(`Lasting`). So a List that is asked for later shows it as well, and an Unsubscribe removes
it, unless another one has (`Since`).
-/

namespace DataFeed.Venue

open Foundation L2 Net DataFeed.Core

/-- A call that waits for the lock or for the venue. -/
def CallState.waits : CallState → Bool
  | .waiting _ | .fetching _ | .fetched _ _ => true
  | .inside | .ending _ | .returned => false

/-- A section that the lock is not taken for, in which a subscription is added or removed. -/
def Section.inner : Section → Bool
  | .attach _ _ _ | .sendSubscribe _ | .sendUnsubscribe _ _ | .erase _ => true
  | _ => false

namespace L2Manager

variable {Decoder : Type} {adapter : Adapter Decoder} {manager next start : L2Manager Decoder}
  {call : Nat} {id : SubscriptionId} {book : BookSpec}

/-- A section that does not end a call goes on with the change that it is part of. -/
theorem change?_unended {current : Section} {after : Next}
    (moved : SectionStep adapter manager current next after)
    (unended : ∀ outcome, after ≠ .release (.ending outcome)) :
    after.change? = current.change? := by
  cases moved with
  | endConnection reconnect after _ same =>
      subst same
      cases reconnect with
      | true => rfl
      | false => exact (unended _ rfl).elim
  | healthy | joinRefused | sendRequests | checkHealthy | takenFirst | takenAgain | unbuilt
    | unattached | sendSubscribe | unknown | erase | list | gone | resendSubscribe =>
      exact (unended _ rfl).elim
  | _ => rfl

/-- Every call is on its way with the change that it was made for. -/
structure Called (lock : Option (Holder × Section)) (calls : Nat → Option CallState)
    (history : List (CallEvent Operation Outcome)) : Prop where
  made : ∀ call operation, .invoke call operation ∈ history → ∃ state, calls call = some state
  once : ∀ call first second, .invoke call first ∈ history → .invoke call second ∈ history →
    first = second
  waits : ∀ call operation state, .invoke call operation ∈ history → calls call = some state →
    state.waits = true → state.change? = operation.change?
  holds : ∀ call operation current, .invoke call operation ∈ history →
    lock = some (.call call, current) → current.change? = operation.change?

namespace Called

variable {lock other : Option (Holder × Section)} {calls : Nat → Option CallState}
  {history : List (CallEvent Operation Outcome)}

/-- One call moves, and the lock with it. -/
theorem update (called : Called lock calls history) {mover : Nat} {state : CallState}
    (waits : ∀ operation, .invoke mover operation ∈ history → state.waits = true →
      state.change? = operation.change?)
    (holds : ∀ call operation current, .invoke call operation ∈ history →
      other = some (.call call, current) → current.change? = operation.change?) :
    Called other (Function.update calls mover (some state)) history where
  made call operation member := by
    by_cases here : call = mover
    · exact ⟨state, here ▸ Function.update_self _ _ _⟩
    · rw [Function.update_of_ne here]
      exact called.made call operation member
  once := called.once
  waits call operation reached member stands := by
    by_cases here : call = mover
    · subst here
      rw [Function.update_self] at stands
      obtain rfl := Option.some.inj stands
      exact waits operation member
    · rw [Function.update_of_ne here] at stands
      exact called.waits call operation reached member stands
  holds := holds

/-- A call has not been made before. -/
theorem unmade (called : Called lock calls history) (fresh : calls call = none)
    (operation : Operation) : .invoke call operation ∉ history := by
  intro member
  obtain ⟨state, stands⟩ := called.made call operation member
  exact Option.some_ne_none _ (stands.symm.trans fresh)

/-- A call is made. -/
theorem invoke (called : Called lock calls history) {operation : Operation} {state : CallState}
    (fresh : calls call = none) (outside : ∀ current, lock ≠ some (.call call, current))
    (waits : state.waits = true → state.change? = operation.change?) :
    Called lock (Function.update calls call (some state)) (history ++ [.invoke call operation]) := by
  have member_cases {mover : Nat} {made : Operation}
      (member : .invoke mover made ∈ history ++ [.invoke call operation]) :
      mover ≠ call ∧ .invoke mover made ∈ history ∨ mover = call ∧ made = operation := by
    obtain before | new := List.mem_append.mp member
    · refine .inl ⟨?_, before⟩
      rintro rfl
      exact called.unmade fresh made before
    · cases List.mem_singleton.mp new
      exact .inr ⟨rfl, rfl⟩
  refine ⟨?_, ?_, ?_, ?_⟩
  · intro mover made member
    obtain ⟨apart, before⟩ | ⟨rfl, rfl⟩ := member_cases member
    · rw [Function.update_of_ne apart]
      exact called.made mover made before
    · exact ⟨state, Function.update_self _ _ _⟩
  · intro mover first second one two
    obtain ⟨apart, before⟩ | ⟨rfl, rfl⟩ := member_cases one
    · obtain ⟨_, also⟩ | ⟨same, _⟩ := member_cases two
      · exact called.once mover first second before also
      · exact (apart same).elim
    · obtain ⟨apart, _⟩ | ⟨_, same⟩ := member_cases two
      · exact (apart rfl).elim
      · exact same.symm
  · intro mover made reached member stands
    obtain ⟨apart, before⟩ | ⟨rfl, rfl⟩ := member_cases member
    · rw [Function.update_of_ne apart] at stands
      exact called.waits mover made reached before stands
    · rw [Function.update_self] at stands
      obtain rfl := Option.some.inj stands
      exact waits
  · intro mover made current member held
    obtain ⟨_, before⟩ | ⟨rfl, rfl⟩ := member_cases member
    · exact called.holds mover made current before held
    · exact (outside current held).elim

/-- A call returns. -/
theorem respond (called : Called lock calls history) (outcome : Outcome) :
    Called lock calls (history ++ [.respond call outcome]) := by
  have before {mover : Nat} {made : Operation}
      (member : .invoke mover made ∈ history ++ [.respond call outcome]) :
      .invoke mover made ∈ history := by
    obtain before | new := List.mem_append.mp member
    · exact before
    · cases List.mem_singleton.mp new
  exact ⟨fun mover made member => called.made mover made (before member),
    fun mover first second one two => called.once mover first second (before one) (before two),
    fun mover made state member => called.waits mover made state (before member),
    fun mover made current member => called.holds mover made current (before member)⟩

/-- What a begun call waits to do. -/
theorem change?_waits_begin {operation : Operation} (waits : (begin adapter operation).waits = true) :
    (begin adapter operation).change? = operation.change? := by
  cases operation with
  | subscribe request =>
      simp only [begin] at waits ⊢
      split at waits
      · contradiction
      · rfl
  | connect | disconnect | healthy | unsubscribe | list => rfl

/-- Every step keeps each call's outcome in line with what it did. -/
theorem step {action : Action} (reachable : (system adapter).Reachable manager)
    (called : Called manager.lock manager.calls manager.history)
    (stepped : L2Manager.step adapter manager action = some next) :
    Called next.lock next.calls next.history := by
  cases callStep_cases stepped with
  | invoke call operation fresh =>
      refine called.invoke fresh ?_ change?_waits_begin
      intro current held
      exact Option.some_ne_none _ ((inside_of_held reachable held).symm.trans fresh)
  | acquire call state entry free found waits =>
      have waiting : state.waits = true := by
        cases state <;> first | rfl | cases waits
      refine called.update (fun _ _ inside => by cases inside) ?_
      intro mover operation current member locked
      cases locked
      rw [CallState.change?_entry waits]
      exact called.waits call operation state member found waiting
  | resume symbol free =>
      exact { called with holds := fun _ _ _ _ locked => by cases locked }
  | run holder current middle after held moved =>
      have calls : middle.calls = manager.calls := sectionStep_calls moved
      have history : middle.history = manager.history := sectionStep_history moved
      rw [← calls, ← history] at called
      cases after with
      | goOn further =>
          refine { called with holds := fun call operation _ member locked => ?_ }
          cases locked
          have goes := change?_unended moved fun _ => Next.noConfusion
          exact goes.trans (called.holds call operation current member held)
      | release state =>
          cases holder with
          | resubscriber => exact { called with holds := fun _ _ _ _ locked => by cases locked }
          | call mover =>
              refine called.update ?_ fun _ _ _ _ locked => by cases locked
              intro operation member waits
              have goes : state.change? = current.change? := by
                refine change?_unended moved ?_
                rintro outcome ⟨⟩
                cases waits
              exact goes.trans (called.holds mover operation current member held)
  | refuse holder what held =>
      refine { called with holds := fun call operation _ member locked => ?_ }
      cases locked
      exact called.holds call operation .connectFeed member held
  | fetch call request fetching =>
      refine called.update ?_ fun mover operation current member held =>
        called.holds mover operation current member held
      intro operation member waits
      have asked := called.waits call operation _ member fetching rfl
      split at waits
      · cases waits
      · exact asked
  | respond call outcome ending =>
      refine (called.update ?_ called.holds).respond outcome
      exact fun _ _ waits => by cases waits
  | aside _ _ lock calls history _ =>
      rw [lock, calls, history]
      exact called

/-- In every reachable state each call's outcome is in line with what it did. -/
theorem of_reachable (reachable : (system adapter).Reachable manager) :
    Called manager.lock manager.calls manager.history := by
  apply reachable.induction
  · exact ⟨fun _ _ member => (List.not_mem_nil member).elim,
      fun _ _ _ member => (List.not_mem_nil member).elim,
      fun _ _ _ member => (List.not_mem_nil member).elim,
      fun _ _ _ member => (List.not_mem_nil member).elim⟩
  · exact fun _ _ _ reached called stepped => called.step reached stepped

end Called

/-! ## What calls are answered -/

/-- A call has come to an outcome. -/
def Answered (manager : L2Manager Decoder) (call : Nat) (outcome : Outcome) : Prop :=
  manager.calls call = some (.ending outcome) ∨ .respond call outcome ∈ manager.history

/-- A call that is over keeps its outcome. -/
theorem Answered.step {action : Action} {outcome : Outcome}
    (reachable : (system adapter).Reachable manager) (answered : manager.Answered call outcome)
    (stepped : L2Manager.step adapter manager action = some next) :
    next.Answered call outcome := by
  obtain ending | responded := answered
  · have elsewhere {mover : Nat} {state : CallState} (new : CallState)
        (stands : manager.calls mover = some state) (other : state ≠ .ending outcome) :
        Function.update manager.calls mover (some new) call = some (.ending outcome) := by
      refine (Function.update_of_ne ?_ _ _).trans ending
      rintro rfl
      exact other (Option.some.inj (stands.symm.trans ending))
    cases callStep_cases stepped with
    | respond mover ended stands =>
        by_cases same : ended = outcome
        · subst same
          by_cases here : mover = call
          · exact .inr (List.mem_append_right _ (here ▸ List.mem_singleton.mpr rfl))
          · exact .inl ((Function.update_of_ne (Ne.symm here) _ _).trans ending)
        · exact .inl (elsewhere _ stands fun other => same (CallState.ending.inj other))
    | invoke mover operation fresh =>
        refine .inl ((Function.update_of_ne ?_ _ _).trans ending)
        rintro rfl
        exact Option.some_ne_none _ (ending.symm.trans fresh)
    | acquire mover state entry free found waits =>
        refine .inl (elsewhere _ found ?_)
        rintro rfl
        cases waits
    | run holder current middle after held moved =>
        have calls : middle.calls = manager.calls := sectionStep_calls moved
        cases after with
        | goOn further => exact .inl (calls ▸ ending)
        | release state =>
            cases holder with
            | resubscriber => exact .inl (calls ▸ ending)
            | call mover =>
                refine .inl ?_
                dsimp only [settle]
                rw [calls]
                exact elsewhere _ (inside_of_held reachable held) CallState.noConfusion
    | fetch mover request fetching =>
        exact .inl (elsewhere _ fetching CallState.noConfusion)
    | resume | refuse => exact .inl ending
    | aside _ _ _ calls _ _ => exact .inl (calls ▸ ending)
  · exact .inr (recorded_step stepped responded)

/-- A call comes to an outcome as it lets go of the lock, or is a Subscribe that fails. -/
theorem answered_step {action : Action} {outcome : Outcome}
    (reachable : (system adapter).Reachable manager)
    (stepped : L2Manager.step adapter manager action = some next)
    (answered : next.Answered call outcome) :
    manager.Answered call outcome ∨
      (∃ current middle, manager.lock = some (.call call, current) ∧
        SectionStep adapter manager current middle (.release (.ending outcome)) ∧
          next = middle.settle (.call call) (.release (.ending outcome))) ∨
      ∃ request error, .invoke call (.subscribe request) ∈ next.history ∧
        outcome = .failed error := by
  have moved {mover : Nat} {state : CallState} {history : List (CallEvent Operation Outcome)}
      {goal : Prop} (answered : Function.update manager.calls mover (some state) call =
          some (.ending outcome) ∨ .respond call outcome ∈ history)
      (responds : .respond call outcome ∈ history → manager.Answered call outcome)
      (own : mover = call → state = .ending outcome → goal) :
      manager.Answered call outcome ∨ goal := by
    obtain stands | responded := answered
    · by_cases here : call = mover
      · rw [here, Function.update_self] at stands
        exact .inr (own here.symm (Option.some.inj stands))
      · rw [Function.update_of_ne here] at stands
        exact .inl (.inl stands)
    · exact .inl (responds responded)
  cases callStep_cases stepped with
  | invoke mover operation fresh =>
      refine moved answered ?_ ?_
      · intro responded
        obtain before | new := List.mem_append.mp responded
        · exact .inr before
        · cases List.mem_singleton.mp new
      · rintro rfl begun
        cases operation with
        | subscribe request =>
            simp only [begin] at begun
            split at begun
            · cases begun
              exact .inr ⟨request, _, List.mem_append_right _ (List.mem_singleton.mpr rfl), rfl⟩
            · cases begun
        | connect | disconnect | healthy | unsubscribe | list => cases begun
  | acquire => exact moved answered .inr fun _ inside => by cases inside
  | run holder current middle after held ran =>
      have calls : middle.calls = manager.calls := sectionStep_calls ran
      have history : middle.history = manager.history := sectionStep_history ran
      cases after with
      | goOn further =>
          refine .inl (answered.imp (fun stands => ?_) fun responded => ?_)
          · exact calls ▸ stands
          · exact history ▸ responded
      | release state =>
          cases holder with
          | resubscriber =>
              refine .inl (answered.imp (fun stands => ?_) fun responded => ?_)
              · exact calls ▸ stands
              · exact history ▸ responded
          | call mover =>
              have answered : Function.update manager.calls mover (some state) call =
                  some (.ending outcome) ∨ .respond call outcome ∈ manager.history := by
                rw [← calls, ← history]
                exact answered
              refine moved answered .inr ?_
              rintro rfl rfl
              exact .inl ⟨current, middle, held, ran, rfl⟩
  | fetch mover request fetching =>
      refine moved answered .inr ?_
      rintro rfl ends
      split at ends
      · cases ends
        obtain ⟨_, operation, same, invoked⟩ :=
          invoked_of_changing reachable (.inl ⟨_, _, rfl, fetching, rfl⟩)
        cases same
        have goes := (Called.of_reachable reachable).waits _ operation _ invoked fetching rfl
        cases operation <;> cases goes
        exact .inr ⟨request, _, invoked, rfl⟩
      · cases ends
  | respond mover ended ending =>
      refine moved answered ?_ fun _ returned => by cases returned
      intro responded
      obtain before | new := List.mem_append.mp responded
      · exact .inr before
      · cases List.mem_singleton.mp new
        exact .inl ending
  | aside _ _ _ calls history _ => exact .inl (by rwa [Answered, ← calls, ← history])
  | resume | refuse => exact .inl answered

/-- A call that has come to an outcome was made. -/
theorem Answered.made (reachable : (system adapter).Reachable manager) {outcome : Outcome}
    (answered : manager.Answered call outcome) : manager.calls call ≠ none := by
  intro fresh
  obtain ending | responded := answered
  · exact Option.some_ne_none _ (ending.symm.trans fresh)
  · exact Option.some_ne_none _ ((returned_of_responded reachable responded).symm.trans fresh)

/-- A call is on record since it was made. -/
theorem invoked_cases {action : Action} {operation : Operation}
    (stepped : step adapter manager action = some next)
    (invoked : .invoke call operation ∈ next.history) :
    .invoke call operation ∈ manager.history ∨
      action = .invoke call operation ∧ manager.calls call = none := by
  cases callStep_cases stepped with
  | invoke mover other fresh =>
      obtain before | new := List.mem_append.mp invoked
      · exact .inl before
      · cases List.mem_singleton.mp new
        exact .inr ⟨rfl, fresh⟩
  | respond mover outcome ending =>
      obtain before | new := List.mem_append.mp invoked
      · exact .inl before
      · cases List.mem_singleton.mp new
  | run holder current middle after held moved =>
      obtain ⟨_, _, _, same, _⟩ := settle_eq middle holder after
      rw [same] at invoked
      exact .inl (sectionStep_history moved ▸ invoked)
  | aside _ _ _ _ history _ => exact .inl (history ▸ invoked)
  | acquire | resume | refuse | fetch => exact .inl invoked

/-- A call that was made before is not made again. -/
theorem invoked_step {action : Action} {operation : Operation}
    (stepped : step adapter manager action = some next) (made : manager.calls call ≠ none)
    (invoked : .invoke call operation ∈ next.history) :
    .invoke call operation ∈ manager.history :=
  (invoked_cases stepped invoked).resolve_right fun new => made new.2

/-! ## What is in the table -/

/-- A book's subscription is in the table. -/
def Holds (manager : L2Manager Decoder) (id : SubscriptionId) (book : BookSpec) : Prop :=
  ∃ subscription, manager.subscriptions.find? id = some subscription ∧ subscription.book = book

/-- Somebody's Unsubscribe has removed a subscription. -/
def Removed (manager : L2Manager Decoder) (id : SubscriptionId) : Prop :=
  ∃ call, .invoke call (.unsubscribe id) ∈ manager.history ∧ manager.Answered call .done

/-- A call was answered with a subscription to a book: a Subscribe to it, or a List. -/
def Shown (manager : L2Manager Decoder) (id : SubscriptionId) (book : BookSpec) : Prop :=
  (∃ call request, .invoke call (.subscribe request) ∈ manager.history ∧ request.book = book ∧
      manager.Answered call (.subscribed id)) ∨
    ∃ call listed info, manager.Answered call (.listed listed) ∧ info ∈ listed ∧ info.id = id ∧
      info.book = book

/-- An id once removed stays removed. -/
theorem Removed.step {action : Action} (reachable : (system adapter).Reachable manager)
    (removed : manager.Removed id) (stepped : L2Manager.step adapter manager action = some next) :
    next.Removed id := by
  obtain ⟨call, invoked, answered⟩ := removed
  exact ⟨call, recorded_step stepped invoked, answered.step reachable stepped⟩

/-- A subscription once shown lasts until its own `Unsubscribe`. -/
theorem Shown.step {action : Action} (reachable : (system adapter).Reachable manager)
    (shown : manager.Shown id book) (stepped : L2Manager.step adapter manager action = some next) :
    next.Shown id book := by
  obtain ⟨call, request, invoked, same, answered⟩ | ⟨call, listed, info, answered, among⟩ := shown
  · exact .inl ⟨call, request, recorded_step stepped invoked, same, answered.step reachable stepped⟩
  · exact .inr ⟨call, listed, info, answered.step reachable stepped, among⟩

/-- What is listed is in the table. -/
theorem holds_of_info {info : SubscriptionInfo} (among : info ∈ infos manager.subscriptions) :
    manager.Holds info.id info.book := by
  obtain ⟨entry, member, rfl⟩ := List.mem_map.mp among
  exact ⟨entry.2, OrderedMap.find?_eq_some_iff.mpr member, rfl⟩

/-- What is in the table is listed. -/
theorem Holds.info (holds : manager.Holds id book) :
    ∃ info ∈ infos manager.subscriptions, info.id = id ∧ info.book = book := by
  obtain ⟨subscription, found, same⟩ := holds
  exact ⟨_, List.mem_map.mpr ⟨_, OrderedMap.find?_eq_some_iff.mp found, rfl⟩, rfl, same⟩

/-- A Subscribe that is answered with a subscription of another's. -/
theorem resolveTaken_eq_subscribed {taken : SubscriptionId}
    (resolved : resolveTaken manager.subscriptions id book = some (.subscribed taken)) :
    manager.Holds taken book ∧ sinkOf id = some .record ∧ sinkOf taken = some .record := by
  unfold resolveTaken at resolved
  split at resolved
  · cases resolved
  · split at resolved
    · contradiction
    · rename_i existing present
      split at resolved
      · rename_i same
        obtain ⟨records, also, depth⟩ := same
        cases resolved
        obtain ⟨found, symbol⟩ := findSymbol_eq_some present
        refine ⟨⟨existing, found, ?_⟩, records, also⟩
        cases book
        cases existing
        cases symbol
        cases depth
        rfl
      · cases resolved

/-- Where a Subscribe ends that is answered with a subscription. -/
theorem subscribed_section {current : Section} {request : SubscribeRequest}
    (moved : SectionStep adapter manager current next (.release (.ending (.subscribed id))))
    (goes : current.change? = some (.subscribe request)) :
    current = .sendSubscribe request ∧ id = request.id ∨
      resolveTaken manager.subscriptions request.id request.book = some (.subscribed id) := by
  generalize ends : Next.release (.ending (.subscribed id)) = after at moved
  cases moved with
  | sendSubscribe =>
      cases ends
      cases goes
      exact .inl ⟨rfl, rfl⟩
  | takenFirst _ _ taken | takenAgain _ _ _ taken =>
      cases ends
      cases goes
      exact .inr taken
  | endConnection => cases goes
  | _ => cases ends

/-- Only what removes a subscription, or fails to add one, ends otherwise than it began. -/
theorem subscriptions_ending {current : Section} {outcome : Outcome}
    (moved : SectionStep adapter manager current next (.release (.ending outcome)))
    (undone : outcome ≠ .done) (returned : ∀ what, outcome ≠ .thrown what) :
    next.subscriptions = manager.subscriptions := by
  generalize goes : Next.release (.ending outcome) = after at moved
  cases moved with
  | erase =>
      cases goes
      exact (undone rfl).elim
  | unattached =>
      cases goes
      exact (returned _ rfl).elim
  | built => cases goes
  | _ => rfl

/-- A subscription goes as somebody's Unsubscribe removes it, or as it cannot be attached. -/
theorem holds_step {action : Action} (reachable : (system adapter).Reachable manager)
    (stepped : step adapter manager action = some next) (holds : manager.Holds id book) :
    next.Holds id book ∨ next.Removed id ∨ ∃ holder request precision receiver,
      manager.lock = some (holder, .attach request precision receiver) ∧ request.id = id := by
  obtain ⟨subscription, found, same⟩ := holds
  cases callStep_cases stepped with
  | run holder current middle after held moved =>
      have kept (stays : middle.subscriptions.find? id = some subscription) :
          Holds (middle.settle holder after) id book :=
        ⟨subscription, (subscriptions_settle middle holder after).symm ▸ stays, same⟩
      cases moved with
      | built request precision free =>
          refine .inl (kept ?_)
          have absent := (resolveTaken_eq_none free).1
          dsimp only
          rw [OrderedMap.find?_insert, if_neg]
          · exact found
          · rintro rfl
            exact Option.some_ne_none _ (found.symm.trans absent)
      | unattached request precision receiver what =>
          by_cases here : request.id = id
          · exact .inr (.inr ⟨holder, request, precision, receiver, held, here⟩)
          · refine .inl (kept ?_)
            dsimp only
            rw [OrderedMap.find?_erase, if_neg fun same => here same.symm]
            exact found
      | erase erased =>
          by_cases here : erased = id
          · subst here
            refine .inr (.inl ?_)
            obtain ⟨call, operation, rfl, invoked⟩ :=
              invoked_of_changing reachable (.inr ⟨_, held, rfl⟩)
            have goes := (Called.of_reachable reachable).holds call operation _ invoked held
            have operation_eq : operation = .unsubscribe erased := by
              cases operation <;> cases goes
              rfl
            exact ⟨call, operation_eq ▸ invoked, .inl (Function.update_self _ _ _)⟩
          · refine .inl (kept ?_)
            dsimp only
            rw [OrderedMap.find?_erase, if_neg fun same => here same.symm]
            exact found
      | _ => exact .inl (kept found)
  | aside _ _ _ _ _ subscriptions => exact .inl ⟨subscription, subscriptions ▸ found, same⟩
  | invoke | acquire | resume | refuse | fetch | respond => exact .inl ⟨subscription, found, same⟩

/-- Whoever adds or removes a subscription was at it already, or has just gone on to it. -/
theorem inner_step {action : Action} {holder : Holder} {current : Section}
    (stepped : step adapter manager action = some next)
    (held : next.lock = some (holder, current)) (inner : current.inner = true) :
    (manager.lock = some (holder, current) ∧ next.subscriptions = manager.subscriptions) ∨
      ∃ before middle, manager.lock = some (holder, before) ∧
        SectionStep adapter manager before middle (.goOn current) ∧
          next.subscriptions = middle.subscriptions := by
  cases callStep_cases stepped with
  | run owner before middle after locked moved =>
      cases after with
      | goOn further =>
          cases held
          exact .inr ⟨before, middle, locked, moved, rfl⟩
      | release state => cases owner <;> cases held
  | acquire call state entry free found waits =>
      cases held
      cases state with
      | waiting operation => cases operation <;> cases waits <;> cases inner
      | fetched request precision =>
          cases waits
          cases inner
      | _ => cases waits
  | resume symbol free =>
      cases held
      cases inner
  | refuse owner what locked =>
      cases held
      cases inner
  | aside _ _ lock _ _ subscriptions => exact .inl ⟨lock ▸ held, subscriptions⟩
  | invoke | fetch | respond => exact .inl ⟨held, rfl⟩

/-- What is in the table, or was, as far as callers can tell. -/
structure Lasting (manager : L2Manager Decoder) : Prop where
  attaching : ∀ holder request precision receiver,
    manager.lock = some (holder, .attach request precision receiver) →
      manager.Holds request.id request.book ∧
        ∀ book, manager.Shown request.id book → manager.Removed request.id
  sending : ∀ holder request, manager.lock = some (holder, .sendSubscribe request) →
    manager.Holds request.id request.book
  shown : ∀ id book, manager.Shown id book → manager.Holds id book ∨ manager.Removed id

namespace Lasting

/-- What a step shows was shown before, or is in the table as the lock is let go of. -/
theorem shown_step {action : Action} (reachable : (system adapter).Reachable manager)
    (lasting : manager.Lasting) (stepped : L2Manager.step adapter manager action = some next)
    (shown : next.Shown id book) :
    manager.Shown id book ∨ next.Holds id book ∧ next.lock = none := by
  obtain ⟨call, request, invoked, rfl, answered⟩ | ⟨call, listed, info, answered, among, rfl, rfl⟩ :=
    shown
  · obtain before | ⟨current, middle, held, moved, rfl⟩ | ⟨_, _, _, other⟩ :=
      answered_step reachable stepped answered
    · have invoked := invoked_step stepped (before.made reachable) invoked
      exact .inl (.inl ⟨call, request, invoked, rfl, before⟩)
    · refine .inr ⟨?_, rfl⟩
      have made := inside_of_held reachable held
      have invoked := invoked_step stepped (made ▸ Option.some_ne_none _) invoked
      have goes := (Called.of_reachable reachable).holds call _ current invoked held
      have holds : manager.Holds id request.book := by
        obtain ⟨rfl, rfl⟩ | resolved := subscribed_section moved goes
        · exact lasting.sending _ _ held
        · exact (resolveTaken_eq_subscribed resolved).1
      have same := subscriptions_ending moved Outcome.noConfusion fun _ => Outcome.noConfusion
      unfold Holds
      rw [subscriptions_settle, same]
      exact holds
    · cases other
  · obtain before | ⟨current, middle, held, moved, rfl⟩ | ⟨_, _, _, other⟩ :=
      answered_step reachable stepped answered
    · exact .inl (.inr ⟨call, listed, info, before, among, rfl, rfl⟩)
    · refine .inr ⟨?_, rfl⟩
      rw [listed_section moved] at among
      have same := subscriptions_ending moved Outcome.noConfusion fun _ => Outcome.noConfusion
      unfold Holds
      rw [subscriptions_settle, same]
      exact holds_of_info among
    · cases other

/-- Every step keeps the ids shown and removed apart. -/
theorem step {action : Action} (reachable : (system adapter).Reachable manager)
    (lasting : manager.Lasting) (stepped : L2Manager.step adapter manager action = some next) :
    next.Lasting := by
  have before {holder : Holder} {current : Section} (held : next.lock = some (holder, current))
      {id : SubscriptionId} {book : BookSpec} (shown : next.Shown id book) :
      manager.Shown id book := by
    obtain shown | ⟨_, free⟩ := lasting.shown_step reachable stepped shown
    · exact shown
    · exact (Option.some_ne_none _ (held.symm.trans free)).elim
  refine ⟨?_, ?_, ?_⟩
  · intro holder request precision receiver held
    obtain ⟨locked, same⟩ | ⟨current, middle, locked, moved, same⟩ :=
      inner_step stepped held rfl
    · obtain ⟨holds, removed⟩ := lasting.attaching holder request precision receiver locked
      refine ⟨?_, fun book shown => (removed book (before held shown)).step reachable stepped⟩
      unfold Holds
      rw [same]
      exact holds
    · cases moved with
      | built _ _ free =>
          refine ⟨⟨⟨request.book, request.nowNs, manager.nextReceiver⟩, ?_, rfl⟩,
            fun book shown => ?_⟩
          · rw [same]
            exact (OrderedMap.find?_insert _ _ _ _).trans (if_pos rfl)
          · obtain ⟨_, found, _⟩ | removed := lasting.shown _ _ (before held shown)
            · have absent := (resolveTaken_eq_none free).1
              exact (Option.some_ne_none _ (found.symm.trans absent)).elim
            · exact removed.step reachable stepped
      | endConnection reconnect _ _ other => cases reconnect <;> cases other
  · intro holder request held
    obtain ⟨locked, same⟩ | ⟨current, middle, locked, moved, same⟩ :=
      inner_step stepped held rfl
    · unfold Holds
      rw [same]
      exact lasting.sending holder request locked
    · cases moved with
      | attached _ precision receiver =>
          unfold Holds
          rw [same]
          exact (lasting.attaching holder request precision receiver locked).1
      | endConnection reconnect _ _ other => cases reconnect <;> cases other
  · intro id book shown
    obtain earlier | ⟨holds, _⟩ := lasting.shown_step reachable stepped shown
    · obtain holds | removed := lasting.shown id book earlier
      · obtain stays | removed | ⟨holder, request, precision, receiver, held, rfl⟩ :=
          holds_step reachable stepped holds
        · exact .inl stays
        · exact .inr removed
        · have removed := (lasting.attaching _ _ _ _ held).2 book earlier
          exact .inr (removed.step reachable stepped)
      · exact .inr (removed.step reachable stepped)
    · exact .inl holds

/-- In every reachable state the ids shown and removed are apart. -/
theorem of_reachable (reachable : (system adapter).Reachable manager) : manager.Lasting := by
  apply reachable.induction
  · refine ⟨?_, ?_, ?_⟩
    · intro _ _ _ _ held
      cases held
    · intro _ _ held
      cases held
    · intro id book shown
      obtain ⟨_, _, invoked, _⟩ | ⟨_, _, _, answered | responded, _⟩ := shown
      · exact (List.not_mem_nil invoked).elim
      · exact (Option.some_ne_none _ answered.symm).elim
      · exact (List.not_mem_nil responded).elim
  · exact fun _ _ _ reached lasting stepped => lasting.step reached stepped

end Lasting

/-- A Subscribe is answered with its own id, or a recording's with another recording's. -/
theorem subscribed_own (reachable : (system adapter).Reachable manager)
    {request : SubscribeRequest} (invoked : .invoke call (.subscribe request) ∈ manager.history)
    (answered : manager.Answered call (.subscribed id)) :
    id = request.id ∨ sinkOf request.id = some .record ∧ sinkOf id = some .record := by
  have every : ∀ state : L2Manager Decoder, (system adapter).Reachable state →
      ∀ call request id, .invoke call (.subscribe request) ∈ state.history →
        state.Answered call (.subscribed id) →
          id = request.id ∨ sinkOf request.id = some .record ∧ sinkOf id = some .record := by
    intro state reachable
    apply reachable.induction
    · intro _ _ _ invoked
      exact (List.not_mem_nil invoked).elim
    · intro state action next reached own stepped call request id invoked answered
      obtain before | ⟨current, middle, held, moved, rfl⟩ | ⟨_, _, _, other⟩ :=
        answered_step reached stepped answered
      · exact own call request id (invoked_step stepped (before.made reached) invoked) before
      · have made := inside_of_held reached held
        have invoked := invoked_step stepped (made ▸ Option.some_ne_none _) invoked
        have goes := (Called.of_reachable reached).holds call _ current invoked held
        obtain ⟨_, same⟩ | resolved := subscribed_section moved goes
        · exact .inl same
        · exact .inr (resolveTaken_eq_subscribed resolved).2
      · cases other
  exact every manager reachable call request id invoked answered

/-- A List has no id twice. -/
theorem listed_nodup (reachable : (system adapter).Reachable manager)
    {listed : List SubscriptionInfo} (answered : manager.Answered call (.listed listed)) :
    (listed.map SubscriptionInfo.id).Nodup := by
  have every : ∀ state : L2Manager Decoder, (system adapter).Reachable state →
      ∀ call listed, state.Answered call (.listed listed) →
        (listed.map SubscriptionInfo.id).Nodup := by
    intro state reachable
    apply reachable.induction
    · intro _ _ answered
      obtain ending | responded := answered
      · cases ending
      · exact (List.not_mem_nil responded).elim
    · intro state action next reached nodup stepped call listed answered
      obtain before | ⟨current, middle, held, moved, _⟩ | ⟨_, _, _, other⟩ :=
        answered_step reached stepped answered
      · exact nodup call listed before
      · rw [listed_section moved, infos, List.map_map]
        exact state.subscriptions.keys_nodup
      · cases other
  exact every manager reachable call listed answered

/-- What comes of a subscription that was shown, in calls that were made since. -/
structure Since (start : L2Manager Decoder) (id : SubscriptionId) (book : BookSpec)
    (manager : L2Manager Decoder) : Prop where
  shown : manager.Shown id book
  lists : ∀ call listed, start.calls call = none → manager.Answered call (.listed listed) →
    (∃ info ∈ listed, info.id = id ∧ info.book = book) ∨ manager.Removed id
  stops : ∀ call outcome, start.calls call = none →
    .invoke call (.unsubscribe id) ∈ manager.history → manager.Answered call outcome →
      outcome = .done ∨
        (∃ error, outcome = .failed error ∧ error.code = .unknownId) ∧ manager.Removed id

namespace Since

/-- Where it starts, the subscription is shown. -/
theorem refl (reachable : (system adapter).Reachable start) (shown : start.Shown id book) :
    Since start id book start where
  shown := shown
  lists _ _ fresh answered := (answered.made reachable fresh).elim
  stops _ _ fresh _ answered := (answered.made reachable fresh).elim

/-- Where an Unsubscribe ends. -/
theorem unsubscribed_section {current : Section} {outcome : Outcome}
    (moved : SectionStep adapter manager current next (.release (.ending outcome)))
    (goes : current.change? = some (.unsubscribe id)) :
    outcome = .done ∨ (∃ error, outcome = .failed error ∧ error.code = .unknownId) ∧
      manager.subscriptions.find? id = none := by
  generalize ends : Next.release (.ending outcome) = after at moved
  cases moved with
  | unknown _ absent =>
      cases ends
      cases goes
      exact .inr ⟨⟨_, rfl, rfl⟩, absent⟩
  | erase =>
      cases ends
      exact .inl rfl
  | detached | sendUnsubscribe => cases ends
  | _ => cases goes

/-- Every step leaves the subscription shown, or removed by an `Unsubscribe` of its own. -/
theorem step {action : Action} (reachable : (system adapter).Reachable manager)
    (since : Since start id book manager)
    (stepped : L2Manager.step adapter manager action = some next) :
    Since start id book next := by
  have lasting := Lasting.of_reachable reachable
  have later {goal : Prop} (before : goal ∨ manager.Removed id) : goal ∨ next.Removed id :=
    before.imp_right fun removed => removed.step reachable stepped
  refine ⟨since.shown.step reachable stepped, ?_, ?_⟩
  · intro call listed fresh answered
    obtain before | ⟨current, middle, held, moved, _⟩ | ⟨_, _, _, other⟩ :=
      answered_step reachable stepped answered
    · exact later (since.lists call listed fresh before)
    · refine later ?_
      rw [listed_section moved]
      exact (lasting.shown id book since.shown).imp_left Holds.info
    · cases other
  · intro call outcome fresh invoked answered
    obtain before | ⟨current, middle, held, moved, _⟩ | ⟨request, _, asked, _⟩ :=
      answered_step reachable stepped answered
    · have invoked := invoked_step stepped (before.made reachable) invoked
      refine (since.stops call outcome fresh invoked before).imp_right ?_
      exact fun ⟨unknown, removed⟩ => ⟨unknown, removed.step reachable stepped⟩
    · have made := inside_of_held reachable held
      have invoked := invoked_step stepped (made ▸ Option.some_ne_none _) invoked
      have goes := (Called.of_reachable reachable).holds call _ current invoked held
      refine (unsubscribed_section moved goes).imp_right ?_
      intro ⟨unknown, absent⟩
      refine ⟨unknown, ?_⟩
      obtain ⟨_, found, _⟩ | removed := lasting.shown id book since.shown
      · exact (Option.some_ne_none _ (found.symm.trans absent)).elim
      · exact removed.step reachable stepped
    · have called := Called.of_reachable (reachable.step stepped)
      cases called.once call _ _ invoked asked

end Since

end L2Manager

end DataFeed.Venue
