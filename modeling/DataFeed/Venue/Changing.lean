import DataFeed.Venue.ManagerStep

/-! # Who is changing the subscriptions

A Subscribe or an Unsubscribe is on its way from its call to its last locked section. What
a step does to the calls and to the lock (`CallStep`) shows that none comes up but by being
called, and that the table of subscriptions stays as it is while none is on its way.
-/

namespace DataFeed.Venue

open Foundation L2 Net DataFeed.Core

/-- A change of the subscriptions. -/
inductive Change where
  | subscribe (request : SubscribeRequest)
  | unsubscribe (id : SubscriptionId)

/-- The change that an operation is. -/
def Operation.change? : Operation → Option Change
  | .subscribe request => some (.subscribe request)
  | .unsubscribe id => some (.unsubscribe id)
  | .connect | .disconnect | .healthy | .list => none

/-- The change that a section is part of. -/
def Section.change? : Section → Option Change
  | .resolveFirst request | .resolveAgain request _ | .attach request _ _
  | .sendSubscribe request => some (.subscribe request)
  | .unsubscribe id | .sendUnsubscribe id _ | .erase id => some (.unsubscribe id)
  | _ => none

/-- The change that a call is on the way of, but for its locked sections. -/
def CallState.change? : CallState → Option Change
  | .waiting operation => operation.change?
  | .fetching request | .fetched request _ => some (.subscribe request)
  | .inside | .ending _ | .returned => none

/-- The change that goes on after a step of a section. -/
def Next.change? : Next → Option Change
  | .goOn next => next.change?
  | .release state => state.change?

theorem Operation.change?_entry (operation : Operation) :
    operation.entry.change? = operation.change? := by
  cases operation <;> rfl

theorem CallState.change?_entry {state : CallState} {entry : Section}
    (waits : state.entry? = some entry) : entry.change? = state.change? := by
  cases state with
  | waiting operation =>
      obtain rfl := Option.some.inj waits
      exact operation.change?_entry
  | fetched request precision =>
      obtain rfl := Option.some.inj waits
      rfl
  | inside | fetching | ending | returned => exact (Option.some_ne_none _ waits.symm).elim

namespace L2Manager

variable {Decoder : Type} {adapter : Adapter Decoder} {manager next : L2Manager Decoder}

/-- A book that is refused is not on its way. -/
theorem change?_begin {operation : Operation} {change : Change}
    (begun : (begin adapter operation).change? = some change) :
    operation.change? = some change := by
  cases operation with
  | subscribe request =>
      simp only [begin] at begun
      split at begun
      · contradiction
      · exact begun
  | connect | disconnect | healthy | unsubscribe | list => exact begun

variable (adapter manager) in
/-- What a step does to the lock and the calls. -/
inductive CallStep : Action → L2Manager Decoder → Prop
  | invoke (call : Nat) (operation : Operation) :
      manager.calls call = none →
        CallStep (.invoke call operation)
          { manager with
            calls := Function.update manager.calls call (some (begin adapter operation))
            history := manager.history ++ [.invoke call operation] }
  | acquire (call : Nat) (state : CallState) (entry : Section) :
      manager.lock = none → manager.calls call = some state → state.entry? = some entry →
        CallStep (.acquire (.call call))
          { manager with
            lock := some (.call call, entry)
            calls := Function.update manager.calls call (some .inside) }
  | resume (symbol : String) :
      manager.lock = none →
        CallStep (.acquire .resubscriber)
          { manager with lock := some (.resubscriber, .resubscribe symbol) }
  | run (holder : Holder) (current : Section) (middle : L2Manager Decoder) (after : Next) :
      manager.lock = some (holder, current) → SectionStep adapter manager current middle after →
        CallStep .run (middle.settle holder after)
  | refuse (holder : Holder) (what : String) :
      manager.lock = some (holder, .connectFeed) →
        CallStep (.refuse what)
          { manager with
            pipeline := { manager.pipeline with feed := .refused }
            lock := some (holder, .stopRefused what) }
  | fetch (call : Nat) (request : SubscribeRequest) :
      manager.calls call = some (.fetching request) →
        CallStep (.fetch call)
          { manager with
            calls := Function.update manager.calls call (some
              (match request.precision with
                | .error error => .ending (.failed error)
                | .ok precision => .fetched request precision)) }
  | respond (call : Nat) (outcome : Outcome) :
      manager.calls call = some (.ending outcome) →
        CallStep (.respond call)
          { manager with
            calls := Function.update manager.calls call (some .returned)
            history := manager.history ++ [.respond call outcome] }
  | aside (action : Action) (next : L2Manager Decoder) :
      next.lock = manager.lock → next.calls = manager.calls →
        next.history = manager.history → next.subscriptions = manager.subscriptions →
          CallStep action next

/-- Whoever calls is a new call. -/
theorem step_invoke {call : Nat} {operation : Operation} :
    step adapter manager (.invoke call operation) = some next ↔
      manager.calls call = none ∧
        next = { manager with
          calls := Function.update manager.calls call (some (begin adapter operation))
          history := manager.history ++ [.invoke call operation] } := by
  simp only [step]
  split
  · rename_i state found
    exact iff_of_false (Option.some_ne_none _ ·.symm) fun fresh =>
      Option.some_ne_none state (found.symm.trans fresh.1)
  · rename_i fresh
    exact ⟨fun same => ⟨fresh, (Option.some.inj same).symm⟩, fun same => congrArg some same.2.symm⟩

/-- A call that is about to return does. -/
theorem step_respond {call : Nat} {outcome : Outcome}
    (ending : manager.calls call = some (.ending outcome)) :
    step adapter manager (.respond call) =
      some { manager with
        calls := Function.update manager.calls call (some .returned)
        history := manager.history ++ [.respond call outcome] } := by
  simp only [step, ending]

/-- A step of a manager is one of the listed ones. -/
theorem callStep_cases {action : Action} (stepped : step adapter manager action = some next) :
    CallStep adapter manager action next := by
  cases action with
  | invoke call operation =>
      obtain ⟨fresh, rfl⟩ := step_invoke.mp stepped
      exact .invoke call operation fresh
  | acquire holder =>
      cases holder with
      | call call =>
          simp only [step] at stepped
          split at stepped
          · rename_i entry free waits
            obtain rfl := Option.some.inj stepped
            obtain ⟨state, found, waits⟩ := Option.bind_eq_some_iff.mp waits
            exact .acquire call state entry free found waits
          · contradiction
      | resubscriber =>
          simp only [step] at stepped
          split at stepped
          · rename_i symbol began free resubscribing
            obtain rfl := Option.some.inj stepped
            exact .resume symbol free
          · contradiction
  | run =>
      simp only [step] at stepped
      split at stepped
      · contradiction
      · rename_i holder current held
        obtain ⟨⟨middle, after⟩, moved, rfl⟩ := Option.map_eq_some_iff.mp stepped
        exact .run holder current middle after held (sectionStep_cases moved)
  | refuse what =>
      simp only [step] at stepped
      split at stepped
      · rename_i holder held
        obtain rfl := Option.some.inj stepped
        exact .refuse holder what held
      · contradiction
  | fetch call =>
      simp only [step] at stepped
      split at stepped
      · rename_i request fetching
        obtain rfl := Option.some.inj stepped
        exact .fetch call request fetching
      · contradiction
  | respond call =>
      simp only [step] at stepped
      split at stepped
      · rename_i outcome ending
        obtain rfl := Option.some.inj stepped
        exact .respond call outcome ending
      · contradiction
  | network moved =>
      obtain ⟨pipeline, _, rfl⟩ := Option.map_eq_some_iff.mp stepped
      exact .aside _ _ rfl rfl rfl rfl
  | parse =>
      cases parserStep_cases stepped <;> exact .aside _ _ rfl rfl rfl rfl
  | resubscribe =>
      obtain ⟨resubscriber, _, rfl⟩ := Option.map_eq_some_iff.mp stepped
      exact .aside _ _ rfl rfl rfl rfl
  | tick elapsed =>
      obtain rfl := Option.some.inj stepped
      exact .aside _ _ rfl rfl rfl rfl

/-- The history of calls only grows. -/
theorem history_step {action : Action} (stepped : step adapter manager action = some next) :
    ∃ events, next.history = manager.history ++ events := by
  cases callStep_cases stepped with
  | invoke call operation => exact ⟨[.invoke call operation], rfl⟩
  | respond call outcome => exact ⟨[.respond call outcome], rfl⟩
  | run holder current middle after held moved =>
      obtain ⟨_, _, _, same, _⟩ := settle_eq middle holder after
      refine ⟨[], ?_⟩
      rw [same]
      exact (sectionStep_history moved).trans (List.append_nil _).symm
  | aside _ _ _ _ history _ => exact ⟨[], history.trans (List.append_nil _).symm⟩
  | acquire | resume | refuse | fetch => exact ⟨[], (List.append_nil _).symm⟩

/-- What was called and answered stays on record. -/
theorem recorded_step {action : Action} {event : CallEvent Operation Outcome}
    (stepped : step adapter manager action = some next) (recorded : event ∈ manager.history) :
    event ∈ next.history := by
  obtain ⟨events, grown⟩ := history_step stepped
  rw [grown]
  exact List.mem_append_left events recorded

/-- A section goes on with the change it is part of. -/
theorem change?_section {current : Section} {after : Next} {change : Change}
    (moved : SectionStep adapter manager current next after)
    (goes : after.change? = some change) : current.change? = some change := by
  cases moved with
  | endConnection reconnect after _ same =>
      rw [same] at goes
      cases reconnect <;> contradiction
  | freeFirst | built | attached | detached | sendUnsubscribe => exact goes
  | _ => exact (Option.some_ne_none _ goes.symm).elim

/-- What a section that is part of no change leaves as it is. -/
theorem subscriptions_section {current : Section} {after : Next}
    (moved : SectionStep adapter manager current next after) (apart : current.change? = none) :
    next.subscriptions = manager.subscriptions := by
  cases moved with
  | built | unattached | erase => exact (Option.some_ne_none _ apart).elim
  | _ => rfl

@[simp] theorem subscriptions_settle (manager : L2Manager Decoder) (holder : Holder)
    (after : Next) : (manager.settle holder after).subscriptions = manager.subscriptions := by
  obtain ⟨_, _, _, same, _⟩ := manager.settle_eq holder after
  rw [same]

/-- A change is on its way, in a call or with the holder of the lock. -/
def Changing (manager : L2Manager Decoder) (holder : Holder) (change : Change) : Prop :=
  (∃ call state, holder = .call call ∧ manager.calls call = some state ∧
      state.change? = some change) ∨
    ∃ current, manager.lock = some (holder, current) ∧ current.change? = some change

variable {holder : Holder} {change : Change}

/-- A change that is on its way after a call moved was so before, or is its own. -/
theorem Changing.of_update {call : Nat} {state : CallState}
    {history : List (CallEvent Operation Outcome)}
    (changing : Changing
      { manager with
        calls := Function.update manager.calls call (some state), history := history }
      holder change)
    (own : holder = .call call → state.change? = some change → manager.Changing holder change) :
    manager.Changing holder change := by
  obtain ⟨other, found, same, stands, goes⟩ | locked := changing
  · dsimp only at stands
    by_cases moved : other = call
    · rw [moved, Function.update_self] at stands
      exact own (moved ▸ same) (Option.some.inj stands ▸ goes)
    · rw [Function.update_of_ne moved] at stands
      exact .inl ⟨other, found, same, stands, goes⟩
  · exact .inr locked

/-- A change that is on its way after a section's step was so before. -/
theorem Changing.of_run {owner : Holder} {current : Section} {middle : L2Manager Decoder}
    {after : Next} (held : manager.lock = some (owner, current))
    (moved : SectionStep adapter manager current middle after)
    (changing : (middle.settle owner after).Changing holder change) :
    manager.Changing holder change := by
  have calls := sectionStep_calls moved
  have own (goes : after.change? = some change) : manager.Changing owner change :=
    .inr ⟨current, held, change?_section moved goes⟩
  have waits {call : Nat} {state : CallState} (same : holder = .call call)
      (stands : middle.calls call = some state) (goes : state.change? = some change) :
      manager.Changing holder change :=
    .inl ⟨call, state, same, calls ▸ stands, goes⟩
  obtain ⟨call, state, same, stands, goes⟩ | ⟨further, locked, goes⟩ := changing
  · cases after with
    | goOn further => exact waits same stands goes
    | release ends =>
        cases owner with
        | resubscriber => exact waits same stands goes
        | call caller =>
            dsimp only [settle] at stands
            by_cases here : call = caller
            · rw [here, Function.update_self] at stands
              rw [same, here]
              exact own (Option.some.inj stands ▸ goes)
            · rw [Function.update_of_ne here] at stands
              exact waits same stands goes
  · cases after with
    | goOn next =>
        obtain ⟨rfl, rfl⟩ := Prod.mk.inj (Option.some.inj locked)
        exact own goes
    | release ends =>
        cases owner <;> contradiction

/-- **A change comes up by being called.** -/
theorem changing_step {action : Action} (stepped : step adapter manager action = some next)
    (changing : next.Changing holder change) :
    manager.Changing holder change ∨ ∃ call operation, holder = .call call ∧
      action = .invoke call operation ∧ operation.change? = some change := by
  cases callStep_cases stepped with
  | invoke call operation fresh =>
      by_cases own : holder = .call call ∧ operation.change? = some change
      · exact .inr ⟨call, operation, own.1, rfl, own.2⟩
      · exact .inl (changing.of_update fun same begun => (own ⟨same, change?_begin begun⟩).elim)
  | acquire call state entry free found waits =>
      refine .inl ?_
      obtain ⟨other, stood, same, stands, goes⟩ | ⟨current, locked, goes⟩ := changing
      · have unlocked : Changing { manager with
            calls := Function.update manager.calls call (some .inside) } holder change :=
          .inl ⟨other, stood, same, stands, goes⟩
        exact unlocked.of_update fun _ none => (Option.some_ne_none _ none.symm).elim
      · obtain ⟨rfl, rfl⟩ := Prod.mk.inj (Option.some.inj locked)
        exact .inl ⟨call, state, rfl, found, CallState.change?_entry waits ▸ goes⟩
  | resume symbol free =>
      refine .inl ?_
      obtain calls | ⟨current, locked, goes⟩ := changing
      · exact .inl calls
      · obtain ⟨_, rfl⟩ := Prod.mk.inj (Option.some.inj locked)
        contradiction
  | run owner current middle after held moved => exact .inl (changing.of_run held moved)
  | refuse owner what held =>
      refine .inl ?_
      obtain calls | ⟨current, locked, goes⟩ := changing
      · exact .inl calls
      · obtain ⟨_, rfl⟩ := Prod.mk.inj (Option.some.inj locked)
        contradiction
  | fetch call request fetching =>
      refine .inl (changing.of_update fun same goes => .inl ⟨call, _, same, fetching, ?_⟩)
      split at goes
      · contradiction
      · exact goes
  | respond call outcome ending =>
      exact .inl (changing.of_update fun _ none => (Option.some_ne_none _ none.symm).elim)
  | aside _ _ lock calls history subscriptions =>
      unfold Changing at changing ⊢
      rw [lock, calls] at changing
      exact .inl changing

/-- **The table stays as it is while no change is on its way.** -/
theorem subscriptions_step {action : Action} (stepped : step adapter manager action = some next)
    (still : ∀ holder current, manager.lock = some (holder, current) → current.change? = none) :
    next.subscriptions = manager.subscriptions := by
  cases callStep_cases stepped with
  | run holder current middle after held moved =>
      rw [subscriptions_settle]
      exact subscriptions_section moved (still holder current held)
  | aside _ _ _ _ _ subscriptions => exact subscriptions
  | invoke | acquire | resume | refuse | fetch | respond => rfl

end L2Manager

end DataFeed.Venue
