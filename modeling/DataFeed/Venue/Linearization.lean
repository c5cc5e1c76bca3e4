import DataFeed.Venue.Changing
import DataFeed.Venue.SubscriptionTable

/-! # One order of the subscription calls

Subscribe, Unsubscribe and List behave like the operations of one table that is changed
at once (`Atomic`), in an order in which a call that returned before another was made
comes first. A Subscribe takes effect when it is checked the last time: under the lock if
the pair is taken, or if its precision will not be fetched, otherwise as its row is
inserted. An Unsubscribe takes effect as its row is erased.
-/

namespace DataFeed.Venue

open Foundation L2 Net DataFeed.Core

/-- The table of subscriptions, as it is listed. -/
abbrev Table := OrderedMap SubscriptionId (BookSpec × Int64) (· < ·)

namespace Table

/-- What a table lists. -/
def infos (table : Table) : List SubscriptionInfo :=
  table.entries.map fun entry => ⟨entry.1, entry.2.1, entry.2.2⟩

/-- A pair's subscription. -/
def Holds (table : Table) (symbol : String) (id : SubscriptionId) (book : BookSpec) : Prop :=
  book.symbol = symbol ∧ ∃ start, table.find? id = some (book, start)

/-- A pair has no subscription. -/
def Free (table : Table) (symbol : String) : Prop := ∀ id book, ¬ table.Holds symbol id book

end Table

/-- Two subscriptions would record the same book. -/
def SameRecording (id taken : SubscriptionId) (book existing : BookSpec) : Prop :=
  sinkOf id = some .record ∧ sinkOf taken = some .record ∧ existing.depth = book.depth

/-- A call that has nothing to do with the table. -/
def Operation.Apart : Operation → Prop
  | .connect | .disconnect | .healthy => True
  | .subscribe _ | .unsubscribe _ | .list => False

/-- The calls as operations of one table, each done at once. -/
inductive Atomic {Decoder : Type} (adapter : Adapter Decoder) :
    Table → Operation → Outcome → Table → Prop
  /-- A book that the venue does not offer. -/
  | refused {table : Table} {request : SubscribeRequest} {error : Error} :
      adapter.checkBook request.book = .error error →
        Atomic adapter table (.subscribe request) (.failed error) table
  /-- The venue does not answer. -/
  | unfetched {table : Table} {request : SubscribeRequest} {error : Error} :
      adapter.checkBook request.book = .ok () → table.Free request.book.symbol →
        request.precision = .error error →
          Atomic adapter table (.subscribe request) (.failed error) table
  | added {table : Table} {request : SubscribeRequest} {precision : PairPrecision} :
      adapter.checkBook request.book = .ok () → table.Free request.book.symbol →
        request.precision = .ok precision →
          Atomic adapter table (.subscribe request) (.subscribed request.id)
            (table.insert request.id (request.book, request.nowNs))
  /-- The pair is recorded already. -/
  | shared {table : Table} {request : SubscribeRequest} {taken : SubscriptionId}
      {existing : BookSpec} :
      adapter.checkBook request.book = .ok () →
        table.Holds request.book.symbol taken existing →
        SameRecording request.id taken request.book existing →
          Atomic adapter table (.subscribe request) (.subscribed taken) table
  | inUse {table : Table} {request : SubscribeRequest} {taken : SubscriptionId}
      {existing : BookSpec} {error : Error} :
      adapter.checkBook request.book = .ok () →
        table.Holds request.book.symbol taken existing →
        ¬ SameRecording request.id taken request.book existing → error.code = .symbolInUse →
          Atomic adapter table (.subscribe request) (.failed error) table
  | removed {table : Table} {id : SubscriptionId} :
      (table.find? id).isSome →
        Atomic adapter table (.unsubscribe id) .done (table.erase id)
  | unknown {table : Table} {id : SubscriptionId} {error : Error} :
      table.find? id = none → error.code = .unknownId →
        Atomic adapter table (.unsubscribe id) (.failed error) table
  | listed {table : Table} : Atomic adapter table .list (.listed table.infos) table
  | apart {table : Table} {operation : Operation} {outcome : Outcome} :
      operation.Apart → Atomic adapter table operation outcome table

/-- No two Subscribes bring the same id. -/
def DistinctIds (history : List (CallEvent Operation Outcome)) : Prop :=
  ∀ first second one two, .invoke first (.subscribe one) ∈ history →
    .invoke second (.subscribe two) ∈ history → one.id = two.id → first = second

/-- Every receiver can be built. -/
def FactoriesSucceed (history : List (CallEvent Operation Outcome)) : Prop :=
  ∀ call request precision, .invoke call (.subscribe request) ∈ history →
    request.makeReceiver precision = .ok ()

namespace L2Manager

variable {Decoder : Type} {adapter : Adapter Decoder} {manager next : L2Manager Decoder}

/-- The subscriptions as a table. -/
def table (subscriptions : Subscriptions) : Table :=
  subscriptions.mapValues fun subscription => (subscription.book, subscription.startTimeNs)

/-- A section of a call that has nothing to do with the table. -/
def ApartSection : Section → Prop
  | .connect | .disconnectFeed _ | .joinFeed _ | .stopParser _ | .joinParser _ | .endConnection _
  | .startParser | .connectFeed | .stopRefused _ | .joinRefused _ | .sendRequests | .healthy => True
  | _ => False

/-- What the holder of the lock is after, and what it has come to if it took effect. -/
inductive Pursues : Section → Operation → Option Outcome → Prop
  | apart {current : Section} {operation : Operation} :
      ApartSection current → operation.Apart → Pursues current operation none
  | resolveFirst (request : SubscribeRequest) :
      Pursues (.resolveFirst request) (.subscribe request) none
  | resolveAgain (request : SubscribeRequest) (precision : PairPrecision) :
      request.precision = .ok precision →
        Pursues (.resolveAgain request precision) (.subscribe request) none
  | attach (request : SubscribeRequest) (precision : PairPrecision) (receiver : ReceiverId) :
      Pursues (.attach request precision receiver) (.subscribe request)
        (some (.subscribed request.id))
  | sendSubscribe (request : SubscribeRequest) :
      Pursues (.sendSubscribe request) (.subscribe request) (some (.subscribed request.id))
  | unsubscribe (id : SubscriptionId) : Pursues (.unsubscribe id) (.unsubscribe id) none
  | sendUnsubscribe (id : SubscriptionId) (book : BookSpec) :
      Pursues (.sendUnsubscribe id book) (.unsubscribe id) none
  | erase (id : SubscriptionId) : Pursues (.erase id) (.unsubscribe id) none
  | list : Pursues .list .list none

/-- Where a call of an operation may be, and what it has come to if it took effect. -/
inductive Stands (lock : Option (Holder × Section)) (call : Nat) :
    CallState → Operation → Option Outcome → Prop
  | waiting {operation : Operation} : Stands lock call (.waiting operation) operation none
  | inside {current : Section} {operation : Operation} {outcome : Option Outcome} :
      lock = some (.call call, current) → Pursues current operation outcome →
        Stands lock call .inside operation outcome
  | fetching {request : SubscribeRequest} {precision : PairPrecision} :
      request.precision = .ok precision →
        Stands lock call (.fetching request) (.subscribe request) none
  | unfetched {request : SubscribeRequest} {error : Error} :
      request.precision = .error error →
        Stands lock call (.fetching request) (.subscribe request) (some (.failed error))
  | fetched {request : SubscribeRequest} {precision : PairPrecision} :
      request.precision = .ok precision →
        Stands lock call (.fetched request precision) (.subscribe request) none
  | ending {operation : Operation} {outcome : Outcome} :
      Stands lock call (.ending outcome) operation (some outcome)
  | returned {operation : Operation} {outcome : Outcome} :
      Stands lock call .returned operation (some outcome)

/-- Where a call is after a step of its section. -/
def Follows (call : Nat) (operation : Operation) (outcome : Option Outcome) : Next → Prop
  | .goOn further => Pursues further operation outcome
  | .release state => Stands none call state operation outcome

/-- What an order of the calls tells of one of them: its effect, or that there was none
so far, and that it was not refused at once. -/
def Told (adapter : Adapter Decoder) (order : List (Effect Operation Outcome)) (call : Nat)
    (operation : Operation) : Option Outcome → Prop
  | none =>
      (∀ request, operation = .subscribe request → adapter.checkBook request.book = .ok ()) ∧
        ∀ effect ∈ order, effect.call ≠ call
  | some outcome => ⟨call, operation, outcome⟩ ∈ order

/-- An order of the calls that explains a manager. -/
structure Explained (adapter : Adapter Decoder) (manager : L2Manager Decoder)
    (order : List (Effect Operation Outcome)) : Prop where
  linearized :
    Linearized (Atomic adapter) .empty manager.history order (table manager.subscriptions)
  unmade : ∀ call, manager.calls call = none → ∀ operation,
    .invoke call operation ∉ manager.history
  stands : ∀ call state, manager.calls call = some state → ∃ operation outcome,
    .invoke call operation ∈ manager.history ∧ Stands manager.lock call state operation outcome ∧
      Told adapter order call operation outcome
  /-- A row of the table is that of a call that took effect. -/
  owned : ∀ id subscription, manager.subscriptions.find? id = some subscription →
    ∃ call request, ⟨call, .subscribe request, .subscribed id⟩ ∈ order ∧ request.id = id
  own : ∀ current, manager.lock = some (.resubscriber, current) → Resubscribing current
  erasing : ∀ holder id, manager.lock = some (holder, .erase id) →
    (manager.subscriptions.find? id).isSome = true

theorem find?_table (subscriptions : Subscriptions) (id : SubscriptionId) :
    (table subscriptions).find? id =
      (subscriptions.find? id).map fun subscription =>
        (subscription.book, subscription.startTimeNs) :=
  OrderedMap.find?_mapValues _ _ _

theorem table_insert (subscriptions : Subscriptions) (id : SubscriptionId)
    (subscription : Subscription) :
    table (subscriptions.insert id subscription) =
      (table subscriptions).insert id (subscription.book, subscription.startTimeNs) := by
  apply OrderedMap.ext_find?
  intro query
  rw [find?_table, OrderedMap.find?_insert, OrderedMap.find?_insert, find?_table]
  split <;> rfl

theorem table_erase (subscriptions : Subscriptions) (id : SubscriptionId) :
    table (subscriptions.erase id) = (table subscriptions).erase id := by
  apply OrderedMap.ext_find?
  intro query
  rw [find?_table, OrderedMap.find?_erase, OrderedMap.find?_erase, find?_table]
  split <;> rfl

theorem infos_table (subscriptions : Subscriptions) :
    (table subscriptions).infos = infos subscriptions := List.map_map

theorem holds_table {subscriptions : Subscriptions} {id : SubscriptionId}
    {subscription : Subscription} (present : subscriptions.find? id = some subscription) :
    (table subscriptions).Holds subscription.book.symbol id subscription.book :=
  ⟨rfl, subscription.startTimeNs, by rw [find?_table, present, Option.map_some]⟩

/-- A pair that is not taken is free. -/
theorem free_of_resolveTaken {subscriptions : Subscriptions} {id : SubscriptionId}
    {book : BookSpec} (free : resolveTaken subscriptions id book = none) :
    (table subscriptions).Free book.symbol := by
  obtain ⟨_, absent⟩ := resolveTaken_eq_none free
  rintro taken existing ⟨symbol, start, found⟩
  rw [find?_table] at found
  obtain ⟨subscription, present, same⟩ := Option.map_eq_some_iff.mp found
  obtain ⟨rfl, _⟩ := Prod.mk.inj same
  exact findSymbol_eq_none absent present symbol

/-- How a Subscribe of a new id ends early is what the table says. -/
theorem atomic_of_resolveTaken {subscriptions : Subscriptions} {request : SubscribeRequest}
    {outcome : Outcome} (accepted : adapter.checkBook request.book = .ok ())
    (unused : subscriptions.find? request.id = none)
    (taken : resolveTaken subscriptions request.id request.book = some outcome) :
    Atomic adapter (table subscriptions) (.subscribe request) outcome (table subscriptions) := by
  unfold resolveTaken at taken
  rw [unused, Option.isSome_none, if_neg Bool.false_ne_true] at taken
  split at taken
  · contradiction
  · rename_i id existing found
    obtain ⟨present, symbol⟩ := findSymbol_eq_some found
    have holds := holds_table present
    rw [symbol] at holds
    split at taken
    · rename_i same
      obtain rfl := Option.some.inj taken
      exact .shared accepted holds same
    · rename_i other
      obtain rfl := Option.some.inj taken
      exact .inUse accepted holds other rfl

variable {order extra : List (Effect Operation Outcome)} {call : Nat}

/-- What is told of a call stays told while other calls take effect. -/
theorem Told.append {operation : Operation} {outcome : Option Outcome}
    (told : Told adapter order call operation outcome)
    (others : ∀ effect ∈ extra, effect.call ≠ call) :
    Told adapter (order ++ extra) call operation outcome := by
  cases outcome with
  | none =>
      refine ⟨told.1, fun effect member => ?_⟩
      rcases List.mem_append.mp member with old | new
      · exact told.2 effect old
      · exact others effect new
  | some outcome => exact List.mem_append_left _ told

/-- A call that is not inside stands where it does whoever holds the lock. -/
theorem Stands.relock {lock other : Option (Holder × Section)} {state : CallState}
    {operation : Operation} {outcome : Option Outcome}
    (stands : Stands lock call state operation outcome)
    (outside : ∀ current, lock ≠ some (.call call, current)) :
    Stands other call state operation outcome := by
  cases stands with
  | waiting => exact .waiting
  | inside held pursues => exact (outside _ held).elim
  | fetching precision => exact .fetching precision
  | unfetched precision => exact .unfetched precision
  | fetched precision => exact .fetched precision
  | ending => exact .ending
  | returned => exact .returned

namespace Explained

/-- The lock's holder takes a step in which it alone may take effect. -/
theorem move {middle : L2Manager Decoder} {current : Section} {after : Next}
    {operation : Operation} {outcome : Option Outcome}
    (explained : manager.Explained adapter order)
    (held : manager.lock = some (.call call, current))
    (calls : middle.calls = manager.calls) (history : middle.history = manager.history)
    (linearized : Linearized (Atomic adapter) .empty manager.history (order ++ extra)
      (table middle.subscriptions))
    (mine : ∀ effect ∈ extra, effect.call = call)
    (made : .invoke call operation ∈ manager.history)
    (told : Told adapter (order ++ extra) call operation outcome)
    (stands : Follows call operation outcome after)
    (inside : manager.calls call = some .inside)
    (owned : ∀ id subscription, middle.subscriptions.find? id = some subscription →
      ∃ call request, ⟨call, .subscribe request, .subscribed id⟩ ∈ order ++ extra ∧
        request.id = id)
    (erasing : ∀ id, after = .goOn (.erase id) →
      (middle.subscriptions.find? id).isSome = true) :
    (middle.settle (.call call) after).Explained adapter (order ++ extra) := by
  have others : ∀ other state, other ≠ call → manager.calls other = some state →
      ∃ operation outcome, .invoke other operation ∈ manager.history ∧
        (∀ lock, Stands lock other state operation outcome) ∧
        Told adapter (order ++ extra) other operation outcome := by
    intro other state apart at_state
    obtain ⟨operation, outcome, made, stood, told⟩ := explained.stands other state at_state
    refine ⟨operation, outcome, made, fun _ => stood.relock fun current holds => ?_, ?_⟩
    · rw [held] at holds
      exact apart (Holder.call.inj (Prod.mk.inj (Option.some.inj holds)).1).symm
    · exact told.append fun effect member same => apart (same.symm.trans (mine effect member))
  cases after with
  | goOn further =>
      exact
        { linearized := by
            dsimp only [settle]
            rw [history]
            exact linearized
          unmade := by
            dsimp only [settle]
            rw [calls, history]
            exact explained.unmade
          stands := by
            dsimp only [settle]
            rw [calls, history]
            intro other state at_state
            by_cases same : other = call
            · subst same
              obtain rfl := Option.some.inj (inside.symm.trans at_state)
              exact ⟨operation, outcome, made, .inside rfl stands, told⟩
            · obtain ⟨operation, outcome, made, stood, told⟩ := others other state same at_state
              exact ⟨operation, outcome, made, stood _, told⟩
          owned := owned
          own := fun _ holds => Holder.noConfusion (Prod.mk.inj (Option.some.inj holds)).1
          erasing := fun _ id holds =>
            erasing id (congrArg Next.goOn (Prod.mk.inj (Option.some.inj holds)).2) }
  | release state =>
      exact
        { linearized := by
            dsimp only [settle]
            rw [history]
            exact linearized
          unmade := by
            dsimp only [settle]
            rw [calls, history]
            intro other absent
            by_cases same : other = call
            · rw [same, Function.update_self] at absent
              contradiction
            · rw [Function.update_of_ne same] at absent
              exact explained.unmade other absent
          stands := by
            dsimp only [settle]
            rw [calls, history]
            intro other found at_state
            by_cases same : other = call
            · subst same
              rw [Function.update_self] at at_state
              obtain rfl := Option.some.inj at_state
              exact ⟨operation, outcome, made, stands, told⟩
            · rw [Function.update_of_ne same] at at_state
              obtain ⟨operation, outcome, made, stood, told⟩ := others other found same at_state
              exact ⟨operation, outcome, made, stood _, told⟩
          owned := owned
          own := fun _ holds => (Option.some_ne_none _ holds.symm).elim
          erasing := fun _ _ holds => (Option.some_ne_none _ holds.symm).elim }

/-- The lock's holder takes a step in which nothing takes effect. -/
theorem goOn {middle : L2Manager Decoder} {current : Section} {after : Next}
    {operation : Operation} {outcome : Option Outcome}
    (explained : manager.Explained adapter order)
    (held : manager.lock = some (.call call, current))
    (calls : middle.calls = manager.calls) (history : middle.history = manager.history)
    (same : middle.subscriptions = manager.subscriptions)
    (made : .invoke call operation ∈ manager.history)
    (told : Told adapter order call operation outcome)
    (stands : Follows call operation outcome after)
    (inside : manager.calls call = some .inside)
    (erasing : ∀ id, after = .goOn (.erase id) →
      (middle.subscriptions.find? id).isSome = true) :
    (middle.settle (.call call) after).Explained adapter order := by
  have unchanged : Linearized (Atomic adapter) .empty manager.history (order ++ [])
      (table middle.subscriptions) := by
    rw [same, List.append_nil]
    exact explained.linearized
  have moved := explained.move held calls history unchanged
    (fun _ member => (List.not_mem_nil member).elim) made (by rwa [List.append_nil]) stands inside
    (by rw [same, List.append_nil]; exact explained.owned) erasing
  rwa [List.append_nil] at moved

/-- The lock's holder takes a step in which its call takes effect. -/
theorem takesEffect {middle : L2Manager Decoder} {current : Section} {after : Next}
    {operation : Operation} {outcome : Outcome}
    (explained : manager.Explained adapter order)
    (held : manager.lock = some (.call call, current))
    (calls : middle.calls = manager.calls) (history : middle.history = manager.history)
    (allows : Atomic adapter (table manager.subscriptions) operation outcome
      (table middle.subscriptions))
    (made : .invoke call operation ∈ manager.history)
    (told : Told adapter order call operation none)
    (stands : Follows call operation (some outcome) after)
    (inside : manager.calls call = some .inside)
    (owned : ∀ id subscription, middle.subscriptions.find? id = some subscription →
      manager.subscriptions.find? id = some subscription ∨
        ∃ request, operation = .subscribe request ∧ outcome = .subscribed id ∧ request.id = id)
    (erasing : ∀ id, after ≠ .goOn (.erase id)) :
    (middle.settle (.call call) after).Explained adapter
      (order ++ [⟨call, operation, outcome⟩]) := by
  have mine : Told adapter (order ++ [⟨call, operation, outcome⟩]) call operation (some outcome) :=
    List.mem_append_right _ List.mem_cons_self
  refine explained.move held calls history (explained.linearized.effect made told.2 allows)
    (fun effect member => congrArg Effect.call (List.mem_singleton.mp member)) made mine stands
    inside ?_ (fun id same => (erasing id same).elim)
  intro id subscription present
  rcases owned id subscription present with old | ⟨request, rfl, rfl, same⟩
  · obtain ⟨other, request, member, same⟩ := explained.owned id subscription old
    exact ⟨other, request, List.mem_append_left _ member, same⟩
  · exact ⟨call, request, List.mem_append_right _ List.mem_cons_self, same⟩

end Explained

/-- A step of a call that has nothing to do with the table leaves it alone. -/
theorem apart_step {current : Section} {after : Next} (apart : ApartSection current)
    (moved : SectionStep adapter manager current next after) :
    next.subscriptions = manager.subscriptions ∧
      ((∃ further, after = .goOn further ∧ ApartSection further) ∨
        ∃ outcome, after = .release (.ending outcome)) := by
  cases moved with
  | healthy | joinRefused | sendRequests | checkHealthy => exact ⟨rfl, Or.inr ⟨_, rfl⟩⟩
  | unhealthy | disconnectFeed | joinFeed | stopParser | joinParser | startParser | connectFeed
  | stopRefused => exact ⟨rfl, Or.inl ⟨_, rfl, trivial⟩⟩
  | endConnection reconnect _ _ goes =>
      rw [goes]
      cases reconnect with
      | false => exact ⟨rfl, Or.inr ⟨_, rfl⟩⟩
      | true => exact ⟨rfl, Or.inl ⟨_, rfl, trivial⟩⟩
  | _ => exact apart.elim

namespace Explained

/-- The id that a Subscribe brings is not in the table before it takes effect. -/
theorem unused {request : SubscribeRequest} (explained : manager.Explained adapter order)
    (ids : DistinctIds manager.history) (made : .invoke call (.subscribe request) ∈ manager.history)
    (told : Told adapter order call (.subscribe request) none) :
    manager.subscriptions.find? request.id = none := by
  rw [Option.eq_none_iff_forall_ne_some]
  intro subscription present
  obtain ⟨other, owner, effected, same⟩ := explained.owned _ _ present
  exact told.2 _ effected (ids other call owner request
    (explained.linearized.invoked _ effected) made same)

/-- A caller's step under the lock. -/
theorem runCall {current : Section} {after : Next} (explained : manager.Explained adapter order)
    (tabled : manager.Tabled (some current)) (ids : DistinctIds manager.history)
    (factories : FactoriesSucceed manager.history)
    (held : manager.lock = some (.call call, current))
    (inside : manager.calls call = some .inside)
    (moved : SectionStep adapter manager current next after) :
    ∃ order, (next.settle (.call call) after).Explained adapter order := by
  obtain ⟨operation, outcome, made, stands, told⟩ := explained.stands call .inside inside
  have calls := sectionStep_calls moved
  have history := sectionStep_history moved
  cases stands with
  | inside holds pursues =>
  obtain ⟨_, rfl⟩ := Prod.mk.inj (Option.some.inj (held.symm.trans holds))
  cases pursues with
  | apart section_apart apart =>
      obtain ⟨same, ⟨further, rfl, goes⟩ | ⟨result, rfl⟩⟩ := apart_step section_apart moved
      · refine ⟨_, explained.goOn held calls history same made told (.apart goes apart) inside ?_⟩
        rintro id ⟨⟩
        exact goes.elim
      · refine ⟨_, explained.takesEffect held calls history ?_ made told .ending inside ?_ ?_⟩
        · rw [same]
          exact .apart apart
        · exact fun id subscription present => Or.inl (same ▸ present)
        · exact fun id same => by cases same
  | resolveFirst request =>
      have accepted := told.1 request rfl
      cases moved with
      | takenFirst _ result taken =>
          have allows := atomic_of_resolveTaken accepted (explained.unused ids made told) taken
          exact ⟨_, explained.takesEffect held rfl rfl allows made told .ending inside
            (fun _ _ present => Or.inl present) (fun _ same => by cases same)⟩
      | freeFirst _ free =>
          cases fetched : request.precision with
          | ok precision =>
              exact ⟨_, explained.goOn held rfl rfl rfl made told (.fetching fetched) inside
                (fun _ same => by cases same)⟩
          | error error =>
              have allows : Atomic adapter (table manager.subscriptions) (.subscribe request)
                  (.failed error) (table manager.subscriptions) :=
                .unfetched accepted (free_of_resolveTaken free) fetched
              exact ⟨_, explained.takesEffect held rfl rfl allows made told (.unfetched fetched)
                inside (fun _ _ present => Or.inl present) (fun _ same => by cases same)⟩
  | resolveAgain request precision fetched =>
      have accepted := told.1 request rfl
      cases moved with
      | takenAgain _ _ result taken =>
          have allows := atomic_of_resolveTaken accepted (explained.unused ids made told) taken
          exact ⟨_, explained.takesEffect held rfl rfl allows made told .ending inside
            (fun _ _ present => Or.inl present) (fun _ same => by cases same)⟩
      | unbuilt _ _ what free thrown =>
          rw [factories call request precision made] at thrown
          contradiction
      | built _ _ free =>
          have allows : Atomic adapter (table manager.subscriptions) (.subscribe request)
              (.subscribed request.id) (table (manager.subscriptions.insert request.id
                ⟨request.book, request.nowNs, manager.nextReceiver⟩)) := by
            rw [table_insert]
            exact .added accepted (free_of_resolveTaken free) fetched
          refine ⟨_, explained.takesEffect held rfl rfl allows made told
            (.attach request precision manager.nextReceiver) inside ?_
            (fun _ same => by cases same)⟩
          intro id subscription present
          rw [OrderedMap.find?_insert] at present
          split at present
          · rename_i new
            exact Or.inr ⟨request, rfl, congrArg Outcome.subscribed new.symm, new.symm⟩
          · exact Or.inl present
  | attach request precision receiver =>
      cases moved with
      | unattached _ _ _ what refused =>
          exact (tabled.attaches refused).elim
      | attached _ _ _ parser events idle done =>
          exact ⟨_, explained.goOn held rfl rfl rfl made told (.sendSubscribe request) inside
            (fun _ same => by cases same)⟩
  | sendSubscribe request =>
      cases moved
      exact ⟨_, explained.goOn held rfl rfl rfl made told .ending inside
        (fun _ same => by cases same)⟩
  | unsubscribe id =>
      cases moved with
      | unknown _ absent =>
          have allows : Atomic adapter (table manager.subscriptions) (.unsubscribe id)
              (.failed { code := .unknownId, detail := "No subscription " ++ toString id })
              (table manager.subscriptions) :=
            .unknown (by rw [find?_table, absent, Option.map_none]) rfl
          exact ⟨_, explained.takesEffect held rfl rfl allows made told .ending inside
            (fun _ _ present => Or.inl present) (fun _ same => by cases same)⟩
      | detached _ subscription known idle =>
          exact ⟨_, explained.goOn held rfl rfl rfl made told (.sendUnsubscribe id _) inside
            (fun _ same => by cases same)⟩
  | sendUnsubscribe id book =>
      cases moved with
      | sendUnsubscribe _ _ connection =>
          obtain ⟨subscription, present, _⟩ := tabled.relies
          refine ⟨_, explained.goOn held rfl rfl rfl made told (.erase id) inside ?_⟩
          rintro _ ⟨⟩
          exact Option.isSome_of_eq_some present
  | erase id =>
      cases moved with
      | erase _ =>
          have present := explained.erasing _ id held
          have allows : Atomic adapter (table manager.subscriptions) (.unsubscribe id) .done
              (table (manager.subscriptions.erase id)) := by
            rw [table_erase]
            exact .removed (by rwa [find?_table, Option.isSome_map])
          refine ⟨_, explained.takesEffect held rfl rfl allows made told .ending inside ?_
            (fun _ same => by cases same)⟩
          intro query subscription found
          rw [OrderedMap.find?_erase] at found
          split at found
          · contradiction
          · exact Or.inl found
  | list =>
      cases moved
      have allows : Atomic adapter (table manager.subscriptions) .list
          (.listed (infos manager.subscriptions)) (table manager.subscriptions) := by
        rw [← infos_table]
        exact .listed
      exact ⟨_, explained.takesEffect held rfl rfl allows made told .ending inside
        (fun _ _ present => Or.inl present) (fun _ same => by cases same)⟩

/-- A call moves outside the lock, and alone may take effect. -/
theorem caller {history : List (CallEvent Operation Outcome)} {state : CallState}
    {operation : Operation} {outcome : Option Outcome}
    (explained : manager.Explained adapter order)
    (linearized : Linearized (Atomic adapter) .empty history (order ++ extra)
      (table manager.subscriptions))
    (kept : ∀ event ∈ manager.history, event ∈ history)
    (fresh : ∀ other operation, .invoke other operation ∈ history →
      .invoke other operation ∈ manager.history ∨ other = call)
    (mine : ∀ effect ∈ extra, effect.call = call) (made : .invoke call operation ∈ history)
    (stands : Stands manager.lock call state operation outcome)
    (told : Told adapter (order ++ extra) call operation outcome) :
    { manager with
      calls := Function.update manager.calls call (some state)
      history := history }.Explained adapter (order ++ extra) where
  linearized := linearized
  unmade other absent operation invoked := by
    dsimp only at absent
    by_cases same : other = call
    · rw [same, Function.update_self] at absent
      contradiction
    · rw [Function.update_of_ne same] at absent
      exact explained.unmade other absent operation
        ((fresh other operation invoked).resolve_right same)
  stands other found at_state := by
    dsimp only at at_state
    by_cases same : other = call
    · subst same
      rw [Function.update_self] at at_state
      obtain rfl := Option.some.inj at_state
      exact ⟨operation, outcome, made, stands, told⟩
    · rw [Function.update_of_ne same] at at_state
      obtain ⟨operation, outcome, made, stood, told⟩ := explained.stands other found at_state
      exact ⟨operation, outcome, kept _ made, stood,
        told.append fun effect member equal => same (equal.symm.trans (mine effect member))⟩
  owned id subscription present := by
    obtain ⟨other, request, member, same⟩ := explained.owned id subscription present
    exact ⟨other, request, List.mem_append_left _ member, same⟩
  own := explained.own
  erasing := explained.erasing

/-- A call moves outside the lock, and nothing takes effect. -/
theorem callerOn {history : List (CallEvent Operation Outcome)} {state : CallState}
    {operation : Operation} {outcome : Option Outcome}
    (explained : manager.Explained adapter order)
    (linearized : Linearized (Atomic adapter) .empty history order (table manager.subscriptions))
    (kept : ∀ event ∈ manager.history, event ∈ history)
    (fresh : ∀ other operation, .invoke other operation ∈ history →
      .invoke other operation ∈ manager.history ∨ other = call)
    (made : .invoke call operation ∈ history)
    (stands : Stands manager.lock call state operation outcome)
    (told : Told adapter order call operation outcome) :
    { manager with
      calls := Function.update manager.calls call (some state)
      history := history }.Explained adapter order := by
  rw [← List.append_nil order] at linearized told ⊢
  exact explained.caller linearized kept fresh (fun _ member => (List.not_mem_nil member).elim) made
    stands told

/-- A call is made. -/
theorem invoke (explained : manager.Explained adapter order) (operation : Operation)
    (fresh : manager.calls call = none) :
    ∃ order, { manager with
      calls := Function.update manager.calls call (some (begin adapter operation))
      history := manager.history ++ [CallEvent.invoke call operation] }.Explained adapter
        order := by
  have unmade := explained.unmade call fresh
  have linearized := explained.linearized.invoke unmade operation
  have made : CallEvent.invoke call operation ∈ manager.history ++ [.invoke call operation] :=
    List.mem_append_right _ List.mem_cons_self
  have known : ∀ other query,
      CallEvent.invoke other query ∈ manager.history ++ [.invoke call operation] →
        .invoke other query ∈ manager.history ∨ other = call := by
    intro other query member
    rcases List.mem_append.mp member with old | new
    · exact Or.inl old
    · exact Or.inr (CallEvent.invoke.inj (List.mem_singleton.mp new)).1
  have pending : ∀ effect ∈ order, effect.call ≠ call := by
    intro effect member same
    exact unmade effect.operation (same ▸ explained.linearized.invoked effect member)
  have waits : begin adapter operation = .waiting operation →
      (∀ request, operation = .subscribe request → adapter.checkBook request.book = .ok ()) →
        ∃ order, { manager with
          calls := Function.update manager.calls call (some (begin adapter operation))
          history := manager.history ++ [CallEvent.invoke call operation] }.Explained adapter
        order := by
    intro begins accepted
    have told : Told adapter order call operation none := ⟨accepted, pending⟩
    rw [begins]
    exact ⟨_, explained.callerOn linearized (fun _ member => List.mem_append_left _ member) known
      made .waiting told⟩
  cases operation with
  | subscribe request =>
      cases checked : adapter.checkBook request.book with
      | ok accepted =>
          refine waits (by rw [begin, checked]) fun other same => ?_
          rw [← Operation.subscribe.inj same]
          exact checked
      | error error =>
          have begins : begin adapter (.subscribe request) = .ending (.failed error) := by
            rw [begin, checked]
          rw [begins]
          have mine : Told adapter (order ++ [⟨call, .subscribe request, .failed error⟩]) call
              (.subscribe request) (some (.failed error)) :=
            List.mem_append_right _ List.mem_cons_self
          exact ⟨_, explained.caller (linearized.effect made pending (.refused checked))
            (fun _ member => List.mem_append_left _ member) known
            (fun effect member => congrArg Effect.call (List.mem_singleton.mp member)) made
            .ending mine⟩
  | connect | disconnect | healthy | unsubscribe | list =>
      exact waits rfl fun _ same => by cases same

/-- A call takes the lock. -/
theorem acquire (explained : manager.Explained adapter order) {entry : Section}
    (free : manager.lock = none) {state : CallState} (found : manager.calls call = some state)
    (waits : state.entry? = some entry) :
    { manager with
      lock := some (.call call, entry)
      calls := Function.update manager.calls call (some .inside) }.Explained adapter order where
  linearized := explained.linearized
  unmade other absent := by
    dsimp only at absent
    by_cases same : other = call
    · rw [same, Function.update_self] at absent
      contradiction
    · rw [Function.update_of_ne same] at absent
      exact explained.unmade other absent
  stands other reached at_state := by
    dsimp only at at_state
    by_cases same : other = call
    · subst same
      rw [Function.update_self] at at_state
      obtain rfl := Option.some.inj at_state
      obtain ⟨operation, outcome, made, stood, told⟩ := explained.stands other state found
      refine ⟨operation, outcome, made, ?_, told⟩
      cases stood with
      | waiting =>
          obtain rfl := Option.some.inj waits
          cases operation with
          | connect | disconnect | healthy => exact .inside rfl (.apart trivial trivial)
          | subscribe request => exact .inside rfl (.resolveFirst request)
          | unsubscribe id => exact .inside rfl (.unsubscribe id)
          | list => exact .inside rfl .list
      | fetched precision =>
          obtain rfl := Option.some.inj waits
          exact .inside rfl (.resolveAgain _ _ precision)
      | inside | fetching | unfetched | ending | returned => contradiction
    · rw [Function.update_of_ne same] at at_state
      obtain ⟨operation, outcome, made, stood, told⟩ := explained.stands other reached at_state
      refine ⟨operation, outcome, made, stood.relock fun current held => ?_, told⟩
      exact Option.some_ne_none _ (held.symm.trans free)
  owned := explained.owned
  own _ held := Holder.noConfusion (Prod.mk.inj (Option.some.inj held)).1
  erasing _ id held := by
    obtain ⟨_, rfl⟩ := Prod.mk.inj (Option.some.inj held)
    exact (entry_of_call waits).1.elim

/-- While the resubscriber holds the lock, or takes it, the calls stand where they do. -/
theorem relock (explained : manager.Explained adapter order)
    (free : ∀ call current, manager.lock ≠ some (.call call, current))
    {lock : Option (Holder × Section)}
    (own : ∀ holder current, lock = some (holder, current) →
      holder = .resubscriber ∧ Resubscribing current)
    (next : L2Manager Decoder) (calls : next.calls = manager.calls)
    (history : next.history = manager.history)
    (subscriptions : next.subscriptions = manager.subscriptions) (locked : next.lock = lock) :
    next.Explained adapter order where
  linearized := by
    rw [history, subscriptions]
    exact explained.linearized
  unmade := by
    rw [calls, history]
    exact explained.unmade
  stands call state at_state := by
    rw [calls] at at_state
    rw [history]
    obtain ⟨operation, outcome, made, stood, told⟩ := explained.stands call state at_state
    exact ⟨operation, outcome, made, stood.relock (free call), told⟩
  owned := by
    rw [subscriptions]
    exact explained.owned
  own current held := (own _ current (locked.symm.trans held)).2
  erasing holder id held := (own _ _ (locked.symm.trans held)).2.elim

/-- The resubscriber's step under the lock. -/
theorem runResubscriber {current : Section} {after : Next}
    (explained : manager.Explained adapter order)
    (held : manager.lock = some (.resubscriber, current))
    (moved : SectionStep adapter manager current next after) :
    (next.settle .resubscriber after).Explained adapter order := by
  have own := explained.own current held
  have free : ∀ call current, manager.lock ≠ some (.call call, current) := by
    intro call other holds
    rw [held] at holds
    exact Holder.noConfusion (Prod.mk.inj (Option.some.inj holds)).1
  cases moved with
  | gone | resendSubscribe =>
      exact explained.relock free (fun _ _ none => (Option.some_ne_none _ none.symm).elim) _ rfl rfl
        rfl rfl
  | resubscribe symbol id subscription connection =>
      refine explained.relock free ?_ _ rfl rfl rfl rfl
      rintro _ _ ⟨⟩
      exact ⟨rfl, trivial⟩
  | _ => exact own.elim

/-- The feed's attempt to connect throws, which no Subscribe, Unsubscribe or List sees. -/
theorem refuse (explained : manager.Explained adapter order) {holder : Holder} {what : String}
    (held : manager.lock = some (holder, .connectFeed)) :
    { manager with
      pipeline := { manager.pipeline with feed := .refused }
      lock := some (holder, .stopRefused what) }.Explained adapter order where
  linearized := explained.linearized
  unmade := explained.unmade
  stands call state at_state := by
    obtain ⟨operation, outcome, made, stood, told⟩ := explained.stands call state at_state
    refine ⟨operation, outcome, made, ?_, told⟩
    cases stood with
    | inside holds pursues =>
        obtain ⟨rfl, rfl⟩ := Prod.mk.inj (Option.some.inj (held.symm.trans holds))
        cases pursues with
        | apart _ apart => exact .inside rfl (.apart trivial apart)
    | waiting => exact .waiting
    | fetching precision => exact .fetching precision
    | unfetched precision => exact .unfetched precision
    | fetched precision => exact .fetched precision
    | ending => exact .ending
    | returned => exact .returned
  owned := explained.owned
  own current holds := by
    obtain ⟨rfl, _⟩ := Prod.mk.inj (Option.some.inj holds)
    exact (explained.own _ held).elim
  erasing _ _ holds := by cases (Prod.mk.inj (Option.some.inj holds)).2

/-- The venue answers a call's round trip. -/
theorem fetch (explained : manager.Explained adapter order) {request : SubscribeRequest}
    (found : manager.calls call = some (.fetching request)) :
    { manager with
      calls := Function.update manager.calls call (some
        (match request.precision with
          | .error error => .ending (.failed error)
          | .ok precision => .fetched request precision)) }.Explained adapter order := by
  obtain ⟨operation, outcome, made, stood, told⟩ := explained.stands call _ found
  have moves : ∀ state, Stands manager.lock call state operation outcome →
      { manager with calls := Function.update manager.calls call (some state) }.Explained adapter
        order := fun _ stands =>
    explained.callerOn explained.linearized (fun _ member => member)
      (fun _ _ member => Or.inl member) made stands told
  cases stood with
  | fetching precision =>
      rw [precision]
      exact moves _ (.fetched precision)
  | unfetched failed =>
      rw [failed]
      exact moves _ .ending

/-- A call returns. -/
theorem respond (explained : manager.Explained adapter order) {outcome : Outcome}
    (found : manager.calls call = some (.ending outcome)) :
    { manager with
      calls := Function.update manager.calls call (some .returned)
      history := manager.history ++ [CallEvent.respond call outcome] }.Explained adapter
        order := by
  obtain ⟨operation, _, made, stood, told⟩ := explained.stands call _ found
  cases stood with
  | ending =>
      have linearized : Linearized (Atomic adapter) .empty
          (manager.history ++ [.respond call outcome]) order (table manager.subscriptions) :=
        explained.linearized.respond told
      refine explained.callerOn linearized (fun _ member => List.mem_append_left _ member)
        (fun other query member => ?_) (List.mem_append_left _ made) .returned told
      rcases List.mem_append.mp member with old | new
      · exact Or.inl old
      · cases List.mem_singleton.mp new

/-- Every step keeps some order of the calls that explains it. -/
theorem step {action : Action} (reachable : (system adapter).Reachable manager)
    (explained : manager.Explained adapter order) (ids : DistinctIds manager.history)
    (factories : FactoriesSucceed manager.history)
    (stepped : L2Manager.step adapter manager action = some next) :
    ∃ order, next.Explained adapter order := by
  cases action with
  | invoke call operation =>
      simp only [L2Manager.step] at stepped
      split at stepped
      · contradiction
      · rename_i fresh
        obtain rfl := Option.some.inj stepped
        exact explained.invoke operation fresh
  | acquire holder =>
      cases holder with
      | call call =>
          simp only [L2Manager.step] at stepped
          split at stepped
          · rename_i entry free waits
            obtain rfl := Option.some.inj stepped
            obtain ⟨state, found, waits⟩ := Option.bind_eq_some_iff.mp waits
            exact ⟨order, explained.acquire free found waits⟩
          · contradiction
      | resubscriber =>
          simp only [L2Manager.step] at stepped
          split at stepped
          · rename_i symbol began free _
            obtain rfl := Option.some.inj stepped
            refine ⟨order, explained.relock (fun _ _ held => ?_) ?_ _ rfl rfl rfl rfl⟩
            · exact Option.some_ne_none _ (held.symm.trans free)
            · rintro _ _ ⟨⟩
              exact ⟨rfl, trivial⟩
          · contradiction
  | run =>
      simp only [L2Manager.step] at stepped
      split at stepped
      · contradiction
      · rename_i holder current held
        obtain ⟨⟨middle, after⟩, moved, rfl⟩ := Option.map_eq_some_iff.mp stepped
        have moved := sectionStep_cases moved
        have tabled := Tabled.of_reachable reachable
        rw [L2Manager.current, held] at tabled
        cases holder with
        | call call =>
            exact explained.runCall tabled ids factories held (inside_of_held reachable held) moved
        | resubscriber => exact ⟨order, explained.runResubscriber held moved⟩
  | refuse what =>
      simp only [L2Manager.step] at stepped
      split at stepped
      · rename_i holder held
        obtain rfl := Option.some.inj stepped
        exact ⟨order, explained.refuse held⟩
      · contradiction
  | fetch call =>
      simp only [L2Manager.step] at stepped
      split at stepped
      · rename_i request found
        obtain rfl := Option.some.inj stepped
        exact ⟨order, explained.fetch found⟩
      · contradiction
  | respond call =>
      simp only [L2Manager.step] at stepped
      split at stepped
      · rename_i outcome found
        obtain rfl := Option.some.inj stepped
        exact ⟨order, explained.respond found⟩
      · contradiction
  | network moved =>
      obtain ⟨pipeline, _, rfl⟩ := Option.map_eq_some_iff.mp stepped
      exact ⟨order, { explained with }⟩
  | parse =>
      cases parserStep_cases stepped <;> exact ⟨order, { explained with }⟩
  | resubscribe =>
      obtain ⟨resubscriber, _, rfl⟩ := Option.map_eq_some_iff.mp stepped
      exact ⟨order, { explained with }⟩
  | tick elapsed =>
      obtain rfl := Option.some.inj stepped
      exact ⟨order, { explained with }⟩

end Explained

/-- Some order of the calls explains every reachable state. -/
theorem explained_of_reachable (reachable : (system adapter).Reachable manager)
    (ids : DistinctIds manager.history) (factories : FactoriesSucceed manager.history) :
    ∃ order, manager.Explained adapter order := by
  have every : DistinctIds manager.history → FactoriesSucceed manager.history →
      ∃ order, manager.Explained adapter order := by
    apply reachable.induction
    · exact fun _ _ => ⟨[],
        { linearized := .nil
          unmade := fun _ _ _ => List.not_mem_nil
          stands := fun _ _ found => (Option.some_ne_none _ found.symm).elim
          owned := fun _ _ found => (Option.some_ne_none _ found.symm).elim
          own := fun _ held => (Option.some_ne_none _ held.symm).elim
          erasing := fun _ _ held => (Option.some_ne_none _ held.symm).elim }⟩
    · intro state action next earlier explained stepped ids factories
      obtain ⟨events, grows⟩ := history_step stepped
      rw [grows] at ids factories
      have ids : DistinctIds state.history := fun first second one two made also =>
        ids first second one two (List.mem_append_left _ made) (List.mem_append_left _ also)
      have factories : FactoriesSucceed state.history := fun call request precision made =>
        factories call request precision (List.mem_append_left _ made)
      obtain ⟨order, explained⟩ := explained ids factories
      exact explained.step earlier ids factories stepped
  exact every ids factories

end L2Manager

namespace Atomic

variable {Decoder : Type} {adapter : Adapter Decoder} {table after : Table}
  {order : List (Effect Operation Outcome)}

/-- A row of the table is that of a Subscribe that took effect. -/
theorem row_made (sequential : Sequential (Atomic adapter) .empty order table)
    {id : SubscriptionId} {row : BookSpec × Int64} (present : table.find? id = some row) :
    ∃ call request, ⟨call, .subscribe request, .subscribed id⟩ ∈ order ∧ request.id = id := by
  induction sequential generalizing row with
  | nil =>
      rw [OrderedMap.find?_empty] at present
      contradiction
  | @concat order table after effect sequential allows ih =>
      have earlier : table.find? id = some row → ∃ call request,
          ⟨call, .subscribe request, .subscribed id⟩ ∈ order ++ [effect] ∧ request.id = id := by
        intro present
        obtain ⟨call, request, made, same⟩ := ih present
        exact ⟨call, request, List.mem_append_left _ made, same⟩
      obtain ⟨call, operation, outcome⟩ := effect
      cases allows with
      | @added request precision =>
          rw [OrderedMap.find?_insert] at present
          split at present
          · rename_i same
            subst same
            exact ⟨call, request, List.mem_append_right _ List.mem_cons_self, rfl⟩
          · exact earlier present
      | removed =>
          rw [OrderedMap.find?_erase] at present
          split at present
          · contradiction
          · exact earlier present
      | refused | unfetched | shared | inUse | unknown | listed | apart => exact earlier present

/-- A pair keeps its subscription until it is unsubscribed. -/
theorem kept (sequential : Sequential (Atomic adapter) table order after) {symbol : String}
    {id : SubscriptionId} {book : BookSpec} (holds : table.Holds symbol id book)
    (fresh : ∀ effect ∈ order, ∀ request, effect.operation = .subscribe request → request.id ≠ id)
    (stays : ∀ call, ⟨call, .unsubscribe id, .done⟩ ∉ order) : after.Holds symbol id book := by
  induction sequential with
  | nil => exact holds
  | @concat order before after effect sequential allows ih =>
      have holds := ih (fun effect member => fresh effect (List.mem_append_left _ member))
        (fun call member => stays call (List.mem_append_left _ member))
      have last : effect ∈ order ++ [effect] := List.mem_append_right _ List.mem_cons_self
      obtain ⟨named, start, present⟩ := holds
      obtain ⟨call, operation, outcome⟩ := effect
      cases allows with
      | @added request precision =>
          refine ⟨named, start, ?_⟩
          rw [OrderedMap.find?_insert, if_neg fun same => fresh _ last request rfl same.symm]
          exact present
      | @removed _ other =>
          refine ⟨named, start, ?_⟩
          rw [OrderedMap.find?_erase, if_neg ?_]
          · exact present
          · rintro rfl
            exact stays call last
      | refused | unfetched | shared | inUse | unknown | listed | apart =>
          exact ⟨named, start, present⟩

/-- Whoever took effect as a Subscribe of a pair holds it afterwards. -/
theorem holds_of_subscribed {request : SubscribeRequest}
    (allows : Atomic adapter table (.subscribe request) (.subscribed request.id) after) :
    ∃ book, after.Holds request.book.symbol request.id book := by
  generalize told : Outcome.subscribed request.id = outcome at allows
  cases allows with
  | added =>
      refine ⟨request.book, rfl, request.nowNs, ?_⟩
      rw [OrderedMap.find?_insert, if_pos rfl]
  | shared _ holds =>
      obtain rfl := Outcome.subscribed.inj told
      exact ⟨_, holds⟩
  | refused | unfetched | inUse => contradiction
  | apart apart => exact apart.elim

/-- A Subscribe whose id is new returns it only if the pair is free. -/
theorem free_of_subscribed {request : SubscribeRequest}
    (allows : Atomic adapter table (.subscribe request) (.subscribed request.id) after)
    (unused : table.find? request.id = none) : table.Free request.book.symbol := by
  generalize told : Outcome.subscribed request.id = outcome at allows
  cases allows with
  | added _ free => exact free
  | shared _ holds =>
      obtain rfl := Outcome.subscribed.inj told
      obtain ⟨_, _, present⟩ := holds
      exact (Option.some_ne_none _ (present.symm.trans unused)).elim
  | refused | unfetched | inUse => contradiction
  | apart apart => exact apart.elim

end Atomic

namespace L2Manager

variable {Decoder : Type} {adapter : Adapter Decoder} {manager : L2Manager Decoder}

/-- A Subscribe brings an id that no other did. -/
theorem new_id {table : Table} {history : List (CallEvent Operation Outcome)}
    {front back : List (Effect Operation Outcome)} {effect other : Effect Operation Outcome}
    (linearized : Linearized (Atomic adapter) .empty history (front ++ effect :: back) table)
    (ids : DistinctIds history) {one two : SubscribeRequest}
    (brings : effect.operation = .subscribe one) (member : other ∈ front ++ back)
    (subscribes : other.operation = .subscribe two) : two.id ≠ one.id := by
  intro same
  have listed : other ∈ front ++ effect :: back :=
    (List.sublist_cons_self effect back).append_left front |>.subset member
  have invoked := linearized.invoked other listed
  have earlier := linearized.invoked effect (List.mem_append_right _ List.mem_cons_self)
  rw [subscribes] at invoked
  rw [brings] at earlier
  exact linearized.effect_once member (ids _ _ _ _ invoked earlier same)

/-- **Subscriptions change one at a time.** Whatever callers, threads and network do, if
no two Subscribes bring the same id and every receiver can be built, the calls made so
far can be put in one order in which each returns what a table that is changed at once
returns (`Atomic`), and in which a call that returned before another was made comes
first. In any such order two Subscribes of one pair both return the ids they brought only
if the earlier one's subscription was removed between the two. -/
theorem subscriptions_linearizable (reachable : (system adapter).Reachable manager)
    (ids : DistinctIds manager.history) (factories : FactoriesSucceed manager.history) :
    Linearizable (Atomic adapter) .empty manager.history ∧
      ∀ order table, Linearized (Atomic adapter) .empty manager.history order table →
        ∀ past middle later first second one two,
          order = past ++ ⟨first, .subscribe one, .subscribed one.id⟩ ::
            (middle ++ ⟨second, .subscribe two, .subscribed two.id⟩ :: later) →
          one.book.symbol = two.book.symbol →
            ∃ ending, ⟨ending, .unsubscribe one.id, .done⟩ ∈ middle := by
  obtain ⟨order, explained⟩ := explained_of_reachable reachable ids factories
  refine ⟨⟨order, _, explained.linearized⟩, ?_⟩
  rintro _ table linearized past middle later first second one two rfl pair
  by_contra stays
  rw [not_exists] at stays
  obtain ⟨start, before, rest⟩ := Sequential.append_iff.mp linearized.sequential
  obtain ⟨made, one_allowed, rest⟩ := Sequential.cons_iff.mp rest
  obtain ⟨between, during, rest⟩ := Sequential.append_iff.mp rest
  obtain ⟨_, two_allowed, _⟩ := Sequential.cons_iff.mp rest
  obtain ⟨book, holds⟩ := Atomic.holds_of_subscribed one_allowed
  have holds : between.Holds one.book.symbol one.id book := by
    refine Atomic.kept during holds ?_ stays
    intro effect member request subscribes
    exact new_id linearized ids rfl
      (List.mem_append_right past (List.mem_append_left _ member)) subscribes
  have unused : between.find? two.id = none := by
    rw [Option.eq_none_iff_forall_ne_some]
    intro row present
    have until_two : Sequential (Atomic adapter) .empty
        (past ++ ⟨first, .subscribe one, .subscribed one.id⟩ :: middle) between :=
      Sequential.append_iff.mpr ⟨start, before, Sequential.cons_iff.mpr ⟨made, one_allowed, during⟩⟩
    obtain ⟨call, request, member, same⟩ := Atomic.row_made until_two present
    rw [← List.cons_append, ← List.append_assoc] at linearized
    exact new_id linearized ids rfl (List.mem_append_left later member) rfl same
  exact Atomic.free_of_subscribed two_allowed unused one.id book (pair ▸ holds)

/-- A List that is made while a Subscribe fetches its precision. -/
theorem subscriptions_linearizable_overlapping :
    let adapter : Adapter Unit :=
      { name := "kraken", depths := [10], bookChecksum := none
        checkSymbol := fun _ => .ok (), connectRequests := []
        makeBookRequest := fun _ book => book.symbol, makeDecoder := ()
        decode := fun decoder _ => .done decoder }
    let request : SubscribeRequest :=
      ⟨256, ⟨"XBT/USD", 10⟩, .ok ⟨1, 8⟩, fun _ => .ok (), 7⟩
    ∃ manager : L2Manager Unit,
      manager.history = [.invoke 0 (.subscribe request), .invoke 1 .list,
        .respond 0 (.subscribed 256), .respond 1 (.listed [])] ∧
      Linearizable (Atomic adapter) .empty manager.history := by
  intro adapter request
  let actions : List Action :=
    [.invoke 0 (.subscribe request), .acquire (.call 0), .run, .invoke 1 .list,
      .acquire (.call 1), .run, .fetch 0, .acquire (.call 0), .run, .run, .run,
      .respond 0, .respond 1]
  have ran : ((system adapter).run actions).isSome = true := by decide
  obtain ⟨manager, reached⟩ := Option.isSome_iff_exists.mp ran
  have seen : manager.history = [.invoke 0 (.subscribe request), .invoke 1 .list,
      .respond 0 (.subscribed 256), .respond 1 (.listed [])] := by
    obtain rfl := Option.some.inj reached
    rfl
  have made : ∀ call one, CallEvent.invoke call (.subscribe one) ∈ manager.history →
      call = 0 ∧ one = request := by
    intro call one member
    simpa only [seen, List.mem_cons, CallEvent.invoke.injEq, Operation.subscribe.injEq,
      reduceCtorEq, and_false, List.not_mem_nil, or_false] using member
  obtain ⟨linearizable, _⟩ := subscriptions_linearizable ⟨actions, reached⟩
    (fun first second one two earlier later _ =>
      (made _ _ earlier).1.trans (made _ _ later).1.symm)
    (fun call one precision invoked => by
      obtain ⟨_, rfl⟩ := made _ _ invoked
      exact rfl)
  exact ⟨manager, seen, linearizable⟩

/-- Two Subscribes of one pair overlap, and both return the id they brought: the first
one's subscription is removed before either returns. -/
theorem subscribes_both_create :
    let adapter : Adapter Unit :=
      { name := "kraken", depths := [10], bookChecksum := none
        checkSymbol := fun _ => .ok (), connectRequests := []
        makeBookRequest := fun _ book => book.symbol, makeDecoder := ()
        decode := fun decoder _ => .done decoder }
    ∃ (manager : L2Manager Unit) (one two : SubscribeRequest),
      (system adapter).Reachable manager ∧ DistinctIds manager.history ∧
      FactoriesSucceed manager.history ∧ one.book.symbol = two.book.symbol ∧ one.id ≠ two.id ∧
      manager.history = [.invoke 0 (.subscribe one), .invoke 1 (.subscribe two),
        .invoke 2 (.unsubscribe one.id), .respond 2 .done,
        .respond 0 (.subscribed one.id), .respond 1 (.subscribed two.id)] := by
  intro adapter
  let one : SubscribeRequest := ⟨256, ⟨"XBT/USD", 10⟩, .ok ⟨1, 8⟩, fun _ => .ok (), 7⟩
  let two : SubscribeRequest := ⟨512, ⟨"XBT/USD", 10⟩, .ok ⟨1, 8⟩, fun _ => .ok (), 8⟩
  let actions : List Action :=
    [.invoke 0 (.subscribe one), .invoke 1 (.subscribe two),
      .acquire (.call 0), .run, .fetch 0, .acquire (.call 0), .run, .run, .run,
      .invoke 2 (.unsubscribe 256), .acquire (.call 2), .run, .run, .run, .respond 2,
      .acquire (.call 1), .run, .fetch 1, .acquire (.call 1), .run, .run, .run,
      .respond 0, .respond 1]
  have ran : ((system adapter).run actions).isSome = true := by decide
  obtain ⟨manager, reached⟩ := Option.isSome_iff_exists.mp ran
  have seen : manager.history = [.invoke 0 (.subscribe one), .invoke 1 (.subscribe two),
      .invoke 2 (.unsubscribe one.id), .respond 2 .done,
      .respond 0 (.subscribed one.id), .respond 1 (.subscribed two.id)] := by
    obtain rfl := Option.some.inj reached
    rfl
  have made : ∀ call request, CallEvent.invoke call (.subscribe request) ∈ manager.history →
      call = 0 ∧ request = one ∨ call = 1 ∧ request = two := by
    intro call request member
    simpa only [seen, List.mem_cons, CallEvent.invoke.injEq, Operation.subscribe.injEq,
      reduceCtorEq, and_false, List.not_mem_nil, or_false] using member
  refine ⟨manager, one, two, ⟨actions, reached⟩, ?_, ?_, rfl, by decide, seen⟩
  · intro first second request other earlier later same
    rcases made _ _ earlier with ⟨rfl, rfl⟩ | ⟨rfl, rfl⟩ <;>
      rcases made _ _ later with ⟨rfl, rfl⟩ | ⟨rfl, rfl⟩
    · rfl
    · exact absurd same (by decide)
    · exact absurd same (by decide)
    · rfl
  · intro call request precision invoked
    rcases made _ _ invoked with ⟨_, rfl⟩ | ⟨_, rfl⟩ <;> rfl

end L2Manager

end DataFeed.Venue
