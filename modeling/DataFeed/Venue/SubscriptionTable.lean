import DataFeed.Foundation.KeyedView
import DataFeed.Venue.ManagerStep

/-! # One subscription table, three views

The subscriptions are kept by id, the parser's routes and the venue's own view of
what it streams by symbol. The three are updated one after another under the life
cycle lock, so a subscription is missing from a view while its holder is between the
two updates, and only then. The parser runs meanwhile: a route goes before its
subscription does, so no delivery reaches a receiver that is gone.
-/

namespace DataFeed.Venue

open Foundation L2 Net DataFeed.Core

namespace L2Parser

/-- The receiver a pair is routed to, and the depth of the book it is checked against. -/
def served (parser : L2Parser) (symbol : String) : Option (ReceiverId × UInt32) :=
  (parser.routes.find? symbol).map fun route => (route.receiver, route.book.depth)

/-- A symbol is served exactly if it has a route. -/
theorem served_eq_none_iff {parser : L2Parser} {symbol : String} :
    parser.served symbol = none ↔ parser.routes.find? symbol = none := Option.map_eq_none_iff

/-- Replacing a route by one with the same receiver and depth serves what was served. -/
theorem served_setRoute (parser : L2Parser) {symbol : String} {old route : Route}
    (present : parser.routes.find? symbol = some old) (receiver : route.receiver = old.receiver)
    (depth : route.book.depth = old.book.depth) :
    (parser.setRoute symbol route).served = parser.served := by
  funext query
  unfold served
  rw [find?_setRoute]
  split
  · rename_i here
    rw [here, present, Option.map_some, Option.map_some, receiver, depth]
  · rfl

/-- A book change moves no route. -/
theorem served_emit (parser : L2Parser) (message : Message) :
    (parser.emit message).1.served = parser.served := by
  rcases parser.emit_cases message with ⟨_, emitted⟩ | ⟨route, routed, _, emitted⟩ |
    ⟨route, routed, _, emitted⟩
  · rw [emitted]
  · rw [emitted]
    exact parser.served_setRoute (findRoute_eq_some_iff.mp routed).1 rfl rfl
  · rw [emitted]
    refine parser.served_setRoute (findRoute_eq_some_iff.mp routed).1 rfl ?_
    simp only [deliveredRoute]
    split
    · exact Book.depth_apply _ _
    · rfl

/-- `Start` forgets books and not routes, so it serves what was served. -/
theorem served_start (parser : L2Parser) : parser.start.1.served = parser.served := by
  funext query
  unfold served
  rw [find?_start, Option.map_map]
  rfl

/-- A successful `Attach` serves its symbol to its receiver, and every other symbol as before. -/
theorem served_attach {parser next : L2Parser} {symbol : String} {precision : PairPrecision}
    {depth : UInt32} {receiver : ReceiverId} {events : List Event}
    (attached : parser.attach symbol precision depth receiver = .ok (next, events))
    (query : String) :
    next.served query = if query = symbol then some (receiver, depth) else parser.served query := by
  obtain ⟨_, rfl, _⟩ := attach_eq_ok_iff.mp attached
  unfold served
  rw [find?_setRoute]
  split
  · rw [Option.map_some, Book.depth_ofDepth]
  · rfl

/-- `Detach` serves its symbol to nobody, and every other symbol as before. -/
theorem served_detach (parser : L2Parser) (symbol query : String) :
    (parser.detach symbol).1.served query =
      if query = symbol then none else parser.served query := by
  unfold served
  rw [find?_detach]
  split <;> rfl

end L2Parser

/-- What an event changes of the books the venue has been asked for. -/
def requestsAfter (books : OrderedMap String UInt32 (· < ·)) : Event → OrderedMap String UInt32 (· < ·)
  | .started => .empty
  | .sent .subscribe book => books.insert book.symbol book.depth
  | .sent .unsubscribe book => books.erase book.symbol
  | _ => books

/-- The books the venue has been asked for on the current connection, by the requests
handed to it in turn. -/
def requests (log : List Event) : OrderedMap String UInt32 (· < ·) :=
  log.foldl requestsAfter .empty

/-- The venue holds after more events what those events make of what it held before. -/
theorem requests_append (log events : List Event) :
    requests (log ++ events) = events.foldl requestsAfter (requests log) := List.foldl_append

/-- Emitting a message asks the venue for nothing. -/
theorem requests_emit (parser : L2Parser) (message : Message) (log : List Event) :
    requests (log ++ (parser.emit message).2) = requests log := by
  rw [requests_append]
  rcases parser.emit_cases message with ⟨_, emitted⟩ | ⟨_, _, _, emitted⟩ | ⟨_, _, _, emitted⟩ <;>
  · rw [emitted]
    rfl

/-- A subscribe request sent last has the venue stream that book. -/
theorem requests_subscribe (log : List Event) (book : BookSpec) (query : String) :
    (requests (log ++ [.sent .subscribe book])).find? query =
      if query = book.symbol then some book.depth else (requests log).find? query := by
  rw [requests_append]
  exact OrderedMap.find?_insert _ _ _ _

/-- An unsubscribe request sent last has the venue stream no book of the symbol. -/
theorem requests_unsubscribe (log : List Event) (book : BookSpec) (query : String) :
    (requests (log ++ [.sent .unsubscribe book])).find? query =
      if query = book.symbol then none else (requests log).find? query := by
  rw [requests_append]
  exact OrderedMap.find?_erase _ _ _

namespace L2Manager

variable {Decoder : Type} {adapter : Adapter Decoder} {manager : L2Manager Decoder}

/-- The pair of a subscription. -/
def symbolOf (subscription : Subscription) : String := subscription.book.symbol

/-- The subscriptions that have no route at a point of a locked section. -/
def unrouted : Option Section → SubscriptionId → Prop
  | some (.attach request _ _), id => id = request.id
  | some (.sendUnsubscribe ending _), id | some (.erase ending), id => id = ending
  | _, _ => False

/-- The subscriptions that the venue is not asked for at a point of a locked section. -/
def unrequested : Option Section → SubscriptionId → Prop
  | some .sendRequests, _ => True
  | some (.attach request _ _), id | some (.sendSubscribe request), id => id = request.id
  | some (.erase ending), id => id = ending
  | some (.resendSubscribe again _), id => id = again
  | _, _ => False

/-- What a section knows from the steps before it. -/
def Relies (manager : L2Manager Decoder) : Option Section → Prop
  | some .startParser => manager.connected = false
  | some .connectFeed => requests manager.log = .empty
  | some .sendRequests => manager.connected = true
  | some (.attach request _ receiver) =>
      manager.subscriptions.find? request.id = some ⟨request.book, request.nowNs, receiver⟩
  | some (.sendSubscribe request) =>
      ∃ subscription, manager.subscriptions.find? request.id = some subscription ∧
        subscription.book = request.book
  | some (.sendUnsubscribe id book) | some (.resendSubscribe id book) =>
      ∃ subscription, manager.subscriptions.find? id = some subscription ∧
        subscription.book = book
  | _ => True

/-- The table and its two views. -/
structure Tabled (manager : L2Manager Decoder) (current : Option Section) : Prop where
  keyed : Keyed symbolOf manager.subscriptions.find?
  routed : Shows symbolOf
    (fun subscription : Subscription => (subscription.receiver, subscription.book.depth))
    manager.subscriptions.find? (unrouted current) manager.parser.served
  requested : manager.connected = true →
    Shows symbolOf (fun subscription : Subscription => subscription.book.depth)
      manager.subscriptions.find? (unrequested current) (requests manager.log).find?
  relies : Relies manager current

/-- The first subscription to a pair is one of the table. -/
theorem findSymbol_eq_some {subscriptions : Subscriptions} {symbol : String}
    {id : SubscriptionId} {subscription : Subscription}
    (found : findSymbol subscriptions symbol = some (id, subscription)) :
    subscriptions.find? id = some subscription ∧ subscription.book.symbol = symbol := by
  unfold findSymbol at found
  have same := List.find?_some found
  exact ⟨OrderedMap.find?_eq_some_iff.mpr (List.mem_of_find?_eq_some found),
    of_decide_eq_true same⟩

/-- A pair without a subscription is in no row of the table. -/
theorem findSymbol_eq_none {subscriptions : Subscriptions} {symbol : String}
    (absent : findSymbol subscriptions symbol = none) {id : SubscriptionId}
    {subscription : Subscription} (present : subscriptions.find? id = some subscription) :
    subscription.book.symbol ≠ symbol := by
  intro same
  have none := List.find?_eq_none.mp absent (id, subscription)
    (OrderedMap.find?_eq_some_iff.mp present)
  exact none (decide_eq_true same)

/-- A pair that is not taken leaves its id and its symbol free. -/
theorem resolveTaken_eq_none {subscriptions : Subscriptions} {id : SubscriptionId}
    {book : BookSpec} (free : resolveTaken subscriptions id book = none) :
    subscriptions.find? id = none ∧ findSymbol subscriptions book.symbol = none := by
  unfold resolveTaken at free
  split at free
  · exact (Option.some_ne_none _ free).elim
  · rename_i unused
    refine ⟨Option.not_isSome_iff_eq_none.mp unused, ?_⟩
    split at free
    · rename_i absent
      exact absent
    · split at free <;> exact (Option.some_ne_none _ free).elim

/-- The requests for books of the table show each of them. -/
theorem shows_sent {subscriptions : Subscriptions} (keyed : Keyed symbolOf subscriptions.find?)
    (entries : List (SubscriptionId × Subscription))
    (listed : ∀ entry ∈ entries, subscriptions.find? entry.1 = some entry.2) (log : List Event)
    {hidden : SubscriptionId → Prop}
    (shows : Shows symbolOf (fun subscription : Subscription => subscription.book.depth)
      subscriptions.find? hidden (requests log).find?) :
    Shows symbolOf (fun subscription : Subscription => subscription.book.depth)
      subscriptions.find? (fun id => hidden id ∧ id ∉ entries.map Prod.fst)
      (requests (log ++ (entries.map fun entry => entry.2.book).map
        (Event.sent .subscribe))).find? := by
  induction entries generalizing log hidden with
  | nil =>
      simp only [List.map_nil, List.append_nil]
      exact shows.congr (fun _ _ _ => and_iff_left List.not_mem_nil) fun _ => rfl
  | cons entry rest ih =>
      have first : Shows symbolOf (fun subscription : Subscription => subscription.book.depth)
          subscriptions.find? (fun id => hidden id ∧ id ≠ entry.1)
          (requests (log ++ [.sent .subscribe entry.2.book])).find? :=
        shows.reveal keyed (listed entry List.mem_cons_self)
          (requests_subscribe log entry.2.book) fun _ => Iff.rfl
      have later := ih (fun other member => listed other (List.mem_cons_of_mem _ member)) _ first
      simp only [List.map_cons]
      rw [List.append_cons]
      refine later.congr (fun id _ _ => ?_) fun _ => rfl
      rw [List.mem_cons, not_or, and_assoc]

/-- `Relies` reads the table, the connection and the requests, and nothing else. -/
theorem Relies.congr {next : L2Manager Decoder} {current : Option Section}
    (relies : manager.Relies current) (subscriptions : next.subscriptions = manager.subscriptions)
    (connected : next.connected = manager.connected)
    (sent : requests next.log = requests manager.log) : next.Relies current := by
  unfold Relies
  rw [subscriptions, connected, sent]
  exact relies

namespace Tabled

/-- The parser's thread leaves the table and its views alone. -/
theorem parse {next : L2Manager Decoder} {current : Option Section}
    (tabled : manager.Tabled current) (moved : ParserStep adapter manager next) :
    next.Tabled current := by
  cases moved with
  | decode decoder connection frame rest =>
      have same : requests (manager.log ++ [.decoded connection]) = requests manager.log :=
        requests_append _ _
      refine { tabled with requested := ?_, relies := tabled.relies.congr rfl rfl same }
      dsimp only
      rw [same]
      exact tabled.requested
  | emit message rest =>
      have same := requests_emit manager.parser message manager.log
      refine { tabled with
        routed := ?_, requested := ?_, relies := tabled.relies.congr rfl rfl same }
      · dsimp only
        rw [L2Parser.served_emit]
        exact tabled.routed
      · dsimp only
        rw [same]
        exact tabled.requested
  | exit | find | done | fail => exact { tabled with }

/-- Whoever begins a section finds the table and its views equal. -/
theorem entry {begun : Section} (tabled : manager.Tabled none) (begins : Entry begun) :
    manager.Tabled (some begun) := by
  cases begun with
  | disconnectFeed reconnect =>
      cases reconnect with
      | false => exact { tabled with relies := trivial }
      | true => exact begins.elim
  | connect | healthy | resolveFirst | resolveAgain | unsubscribe | list | resubscribe =>
      exact { tabled with relies := trivial }
  | _ => exact begins.elim

/-- A request that is handed to the connection while it is up changes what the venue
is asked for, and nothing else. -/
theorem sent {current next : Option Section} {request : BookRequest} {book : BookSpec}
    {connection : Option (List String)} (tabled : manager.Tabled current)
    (routes : unrouted next = unrouted current)
    (requested : manager.connected = true →
      Shows symbolOf (fun subscription : Subscription => subscription.book.depth)
        manager.subscriptions.find? (unrequested next)
        (requests (manager.log ++ [.sent request book])).find?)
    (relies : ∀ log, Relies
      { manager with
        pipeline := { manager.pipeline with
          feed := { manager.pipeline.feed with connection := connection } }
        log := log } next) :
    Tabled
      { manager with
        pipeline := { manager.pipeline with
          feed := { manager.pipeline.feed with connection := connection } }
        log := manager.log ++ if manager.connected then [.sent request book] else [] } next := by
  refine { tabled with routed := ?_, requested := fun up => ?_, relies := relies _ }
  · rw [routes]
    exact tabled.routed
  · dsimp only at up ⊢
    rw [if_pos up]
    exact requested up

/-- Attaching a subscription that was just recorded does not fail: its pair has no route. -/
theorem attaches {request : SubscribeRequest} {precision : PairPrecision} {receiver : ReceiverId}
    {what : String} (tabled : manager.Tabled (some (.attach request precision receiver))) :
    manager.parser.attach request.book.symbol precision request.book.depth receiver ≠
      .error what := by
  intro refused
  have unserved := tabled.routed.none_of_hidden tabled.keyed tabled.relies rfl
  have unrouted : manager.parser.routes.find? request.book.symbol = none :=
    L2Parser.served_eq_none_iff.mp unserved
  rw [L2Parser.attach, unrouted] at refused
  contradiction

/-- Each step of a locked stretch leads to where the next one starts from. -/
theorem step {current : Section} {next : L2Manager Decoder} {after : Next}
    (tabled : manager.Tabled (some current))
    (moved : SectionStep adapter manager current next after) : next.Tabled after.section? := by
  cases moved with
  | healthy | unhealthy | disconnectFeed | joinFeed | stopParser | joinParser | stopRefused
  | joinRefused | checkHealthy | takenFirst | freeFirst | takenAgain | unbuilt | unknown | list
  | gone => exact { tabled with relies := trivial }
  | endConnection reconnect _ goes =>
      rw [goes]
      cases reconnect with
      | false =>
          exact { tabled with requested := fun up => Bool.noConfusion up, relies := trivial }
      | true => exact { tabled with requested := fun up => Bool.noConfusion up, relies := rfl }
  | startParser =>
      have down : manager.connected = false := tabled.relies
      refine { tabled with routed := ?_, requested := fun up => ?_, relies := ?_ }
      · simp only [startParser, L2Parser.served_start]
        exact tabled.routed
      · exact (Bool.false_ne_true (down.symm.trans up)).elim
      · exact requests_append _ _
  | connectFeed =>
      have empty : requests manager.log = .empty := tabled.relies
      refine { tabled with requested := fun _ => ?_, relies := rfl }
      refine Shows.of_empty (fun query => ?_) fun _ _ _ => trivial
      dsimp only
      rw [empty]
      rfl
  | sendRequests connection =>
      have up : manager.connected = true := tabled.relies
      refine { tabled with requested := fun _ => ?_, relies := trivial }
      have sent := shows_sent tabled.keyed manager.subscriptions.entries
        (fun entry member => OrderedMap.find?_eq_some_iff.mpr member) manager.log
        (tabled.requested up)
      dsimp only
      rw [if_pos up]
      refine sent.congr (fun id row present => ?_) fun _ => rfl
      have listed : id ∈ manager.subscriptions.entries.map Prod.fst :=
        List.mem_map_of_mem (OrderedMap.find?_eq_some_iff.mp present)
      exact iff_of_false not_false fun hidden => hidden.2 listed
  | built request precision free =>
      obtain ⟨unused, unsubscribed⟩ := resolveTaken_eq_none free
      have inserted := fun query => manager.subscriptions.find?_insert request.id query
        ⟨request.book, request.nowNs, manager.nextReceiver⟩
      have free : ∀ id old, manager.subscriptions.find? id = some old →
          symbolOf old ≠ symbolOf ⟨request.book, request.nowNs, manager.nextReceiver⟩ :=
        fun _ _ present => findSymbol_eq_none unsubscribed present
      exact
        { keyed := tabled.keyed.insert free inserted
          routed := tabled.routed.insert unused inserted fun _ => (or_iff_right not_false).symm
          requested := fun up =>
            (tabled.requested up).insert unused inserted fun _ => (or_iff_right not_false).symm
          relies := (inserted request.id).trans (if_pos rfl) }
  | unattached request precision receiver what refused => exact (tabled.attaches refused).elim
  | attached request precision receiver parser events idle done =>
      have present := tabled.relies
      have same : requests (manager.log ++ events) = requests manager.log := by
        obtain ⟨_, _, rfl⟩ := L2Parser.attach_eq_ok_iff.mp done
        exact requests_append _ _
      refine { tabled with routed := ?_, requested := ?_, relies := ⟨_, present, rfl⟩ }
      · exact tabled.routed.reveal tabled.keyed present (L2Parser.served_attach done)
          fun _ => (and_not_self_iff _).symm
      · dsimp only
        rw [same]
        exact tabled.requested
  | sendSubscribe request connection =>
      obtain ⟨subscription, present, book⟩ := tabled.relies
      refine tabled.sent rfl (fun up => ?_) fun _ => trivial
      rw [← book]
      exact (tabled.requested up).reveal tabled.keyed present (requests_subscribe _ _)
        fun _ => (and_not_self_iff _).symm
  | detached id subscription known =>
      have same : requests (manager.log ++ (manager.parser.detach subscription.book.symbol).2) =
          requests manager.log := requests_append _ _
      refine { tabled with routed := ?_, requested := ?_, relies := ⟨_, known, rfl⟩ }
      · exact tabled.routed.hide tabled.keyed known (manager.parser.served_detach _)
          fun _ => (or_iff_right not_false).symm
      · dsimp only
        rw [same]
        exact tabled.requested
  | sendUnsubscribe id book connection =>
      obtain ⟨subscription, present, same⟩ := tabled.relies
      refine tabled.sent rfl (fun up => ?_) fun _ => trivial
      rw [← same]
      exact (tabled.requested up).hide tabled.keyed present (requests_unsubscribe _ _)
        fun _ => (or_iff_right not_false).symm
  | erase id =>
      have erased := fun query => manager.subscriptions.find?_erase id query
      exact
        { keyed := tabled.keyed.erase erased
          routed := tabled.routed.erase rfl erased fun _ other =>
            iff_of_false not_false other
          requested := fun up => (tabled.requested up).erase rfl erased fun _ other =>
            iff_of_false not_false other
          relies := trivial }
  | resubscribe symbol id subscription connection found up =>
      obtain ⟨present, _⟩ := findSymbol_eq_some found
      refine { tabled with requested := fun _ => ?_, relies := ⟨_, present, rfl⟩ }
      exact (tabled.requested up).hide tabled.keyed present (requests_unsubscribe _ _)
        fun _ => (or_iff_right not_false).symm
  | resendSubscribe id book connection =>
      obtain ⟨subscription, present, same⟩ := tabled.relies
      refine tabled.sent rfl (fun up => ?_) fun _ => trivial
      rw [← same]
      exact (tabled.requested up).reveal tabled.keyed present (requests_subscribe _ _)
        fun _ => (and_not_self_iff _).symm

/-- A new manager serves nothing and has asked for nothing. -/
theorem init : (L2Manager.init adapter).Tabled none where
  keyed _ _ _ _ found := (Option.some_ne_none _ found.symm).elim
  routed := Shows.of_empty (fun _ => rfl) fun _ _ found => (Option.some_ne_none _ found.symm).elim
  requested up := Bool.noConfusion up
  relies := trivial

/-- The table and its views fit together in every reachable state. -/
theorem of_reachable (reachable : (system adapter).Reachable manager) :
    manager.Tabled manager.current := by
  apply invariant_of_steps reachable
  · exact init
  · exact fun _ _ _ _ _ _ tabled => { tabled with }
  · exact fun _ _ begins tabled => tabled.entry begins
  · exact fun _ _ _ _ tabled moved => tabled.step moved
  · exact fun _ _ tabled => { tabled with relies := trivial }
  · exact fun _ _ _ _ _ tabled _ _ => { tabled with }
  · exact fun _ _ _ tabled moved => tabled.parse moved

end Tabled

/-- **One subscription table, three views.** Whenever the life cycle lock is free, no
two subscriptions are for one pair, the parser's routes are exactly the subscriptions,
each at its depth and with its receiver, and while connected so are the books that
the requests of the connection leave the venue with. And in every state, whoever
holds the lock, a route's receiver is one that the table owns. -/
theorem subscription_views (reachable : (system adapter).Reachable manager) :
    (manager.lock = none →
      (∀ first second left right, manager.subscriptions.find? first = some left →
        manager.subscriptions.find? second = some right →
          left.book.symbol = right.book.symbol → first = second) ∧
      (∀ symbol receiver depth, manager.parser.served symbol = some (receiver, depth) ↔
        ∃ id subscription, manager.subscriptions.find? id = some subscription ∧
          subscription.book = ⟨symbol, depth⟩ ∧ subscription.receiver = receiver) ∧
      (manager.connected = true →
        ∀ symbol depth, (requests manager.log).find? symbol = some depth ↔
          ∃ id subscription, manager.subscriptions.find? id = some subscription ∧
            subscription.book = ⟨symbol, depth⟩)) ∧
    ∀ symbol route, manager.parser.routes.find? symbol = some route →
      ∃ id subscription, manager.subscriptions.find? id = some subscription ∧
        subscription.receiver = route.receiver := by
  have tabled := Tabled.of_reachable reachable
  refine ⟨fun free => ?_, fun symbol route found => ?_⟩
  · unfold current at tabled
    rw [free] at tabled
    refine ⟨tabled.keyed, fun symbol receiver depth => ?_, fun up symbol depth => ?_⟩
    · rw [tabled.routed symbol (receiver, depth)]
      refine exists_congr fun id => exists_congr fun subscription => ?_
      constructor
      · rintro ⟨present, rfl, same, _⟩
        obtain ⟨rfl, rfl⟩ := Prod.mk.inj same
        exact ⟨present, rfl, rfl⟩
      · rintro ⟨present, book, rfl⟩
        exact ⟨present, congrArg BookSpec.symbol book,
          Prod.ext rfl (congrArg BookSpec.depth book), not_false⟩
    · rw [tabled.requested up symbol depth]
      refine exists_congr fun id => exists_congr fun subscription => ?_
      constructor
      · rintro ⟨present, rfl, rfl, _⟩
        exact ⟨present, rfl⟩
      · rintro ⟨present, book⟩
        exact ⟨present, congrArg BookSpec.symbol book, congrArg BookSpec.depth book, not_false⟩
  · have served : manager.parser.served symbol = some (route.receiver, route.book.depth) := by
      rw [L2Parser.served, found]
      rfl
    obtain ⟨id, subscription, present, _, same, _⟩ := (tabled.routed _ _).mp served
    exact ⟨id, subscription, present, (Prod.mk.inj same).1⟩

/-- A pair that is subscribed over a connection is in the table and in both views. -/
theorem subscription_views_connected :
    let adapter : Adapter Unit :=
      { name := "kraken", depths := [10], bookChecksum := none, checkSymbol := fun _ => .ok ()
        connectRequests := [], makeBookRequest := fun _ book => book.symbol
        makeDecoder := (), decode := fun decoder _ => .done decoder }
    let request : SubscribeRequest :=
      ⟨256, ⟨"XBT/USD", 10⟩, .ok ⟨1, 8⟩, fun _ => .ok (), 7⟩
    ∃ manager : L2Manager Unit,
      (system adapter).run
        ([.invoke 0 .connect, .acquire (.call 0)] ++ List.replicate 9 .run ++
          [.invoke 1 (.subscribe request), .acquire (.call 1), .run, .fetch 1,
            .acquire (.call 1), .run, .run, .run]) = some manager ∧
      (manager.lock = none ∧ manager.connected = true) ∧
      manager.parser.served "XBT/USD" = some (0, 10) ∧
      (requests manager.log).find? "XBT/USD" = some 10 := by
  intro adapter request
  have ran : ((system adapter).run
      (([.invoke 0 .connect, .acquire (.call 0)] : List Action) ++ List.replicate 9 Action.run ++
        ([.invoke 1 (.subscribe request), .acquire (.call 1), .run, .fetch 1,
          .acquire (.call 1), .run, .run, .run] : List Action))).map
      (fun manager => (manager.lock.isNone && manager.connected,
        (manager.subscriptions.find? 256).map fun kept => (kept.book, kept.receiver))) =
      some (true, some (⟨"XBT/USD", 10⟩, 0)) := by
    decide
  obtain ⟨manager, reached, seen⟩ := Option.map_eq_some_iff.mp ran
  obtain ⟨idle, stored⟩ := Prod.mk.inj seen
  obtain ⟨free, up⟩ := Bool.and_eq_true_iff.mp idle
  obtain ⟨kept, present, same⟩ := Option.map_eq_some_iff.mp stored
  obtain ⟨book, receiver⟩ := Prod.mk.inj same
  have unlocked := Option.isNone_iff_eq_none.mp free
  obtain ⟨views, _⟩ := subscription_views ⟨_, reached⟩
  obtain ⟨_, routes, requested⟩ := views unlocked
  exact ⟨manager, reached, ⟨unlocked, up⟩,
    (routes _ _ _).mpr ⟨256, kept, present, book, receiver⟩,
    (requested up _ _).mpr ⟨256, kept, present, book⟩⟩

end L2Manager

end DataFeed.Venue
