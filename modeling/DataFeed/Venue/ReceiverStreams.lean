import DataFeed.Venue.Connections
import DataFeed.Venue.StreamLaw
import DataFeed.Venue.SubscriptionTable

/-! # What a manager's receivers get

The parser gates each pair's stream with its snapshot, but only while it runs; the
manager ends a connection, tells the receivers and starts the parser over. `Streams`
ties the two together: while connected the parser is ready for every receiver, and
while not connected every receiver has been told of the end of what it got.
-/

namespace DataFeed.Venue

open Foundation L2 Net DataFeed.Core

namespace L2Manager

variable {Decoder : Type} {adapter : Adapter Decoder} {manager : L2Manager Decoder}

/-- What a section knows of the streams: a new connection starts every pair over, and
a receiver that is not attached yet has got nothing. -/
def Knows (manager : L2Manager Decoder) : Option Section → Prop
  | some .connectFeed =>
      manager.parser.Ready manager.log ∧ manager.parser.Tracks True manager.log
  | some (.attach _ _ receiver) => ∀ message, .received receiver message ∉ manager.log
  | _ => True

/-- The streams of a manager's receivers. -/
structure Streams (manager : L2Manager Decoder) (current : Option Section) : Prop where
  agrees : manager.parser.Agrees manager.log
  tracks : manager.parser.Tracks (manager.connected = true) manager.log
  ready : manager.connected = true → manager.parser.Ready manager.log
  first : L2Parser.SnapshotFirst manager.log
  told : Along ToldBefore manager.log
  informed : ∀ symbol route, manager.parser.routes.find? symbol = some route →
    Venue.Told route.receiver manager.log
  closed : manager.connected = false → ∀ symbol route,
    manager.parser.routes.find? symbol = some route → Closed route.receiver manager.log
  named : ∀ id subscription, manager.subscriptions.find? id = some subscription →
    subscription.receiver < manager.nextReceiver
  sole : Keyed Subscription.receiver manager.subscriptions.find?
  unheard : ∀ receiver message, .received receiver message ∈ manager.log →
    receiver < manager.nextReceiver
  knows : manager.Knows current

/-- A route leads to a receiver of the table. -/
theorem Tabled.owner {current : Option Section} (tabled : manager.Tabled current) {symbol : String}
    {route : Route} (found : manager.parser.routes.find? symbol = some route) :
    ∃ id subscription, manager.subscriptions.find? id = some subscription ∧
      subscription.receiver = route.receiver ∧ ¬ unrouted current id := by
  have served : manager.parser.served symbol = some (route.receiver, route.book.depth) := by
    rw [L2Parser.served, found]
    rfl
  obtain ⟨id, subscription, present, _, same, visible⟩ := (tabled.routed _ _).mp served
  exact ⟨id, subscription, present, (Prod.mk.inj same).1, visible⟩

/-- An event that is no part of any stream. -/
def Aside (event : Event) : Prop :=
  (∀ receiver, event.entryOf? receiver = none) ∧
    (∀ receiver, event.attachedDepth? receiver = none) ∧
    ∀ receiver progress, Progress.after receiver progress event = progress

/-- Nobody receives an event aside. -/
theorem Aside.receivedBy? {event : Event} (aside : Aside event) (receiver : ReceiverId) :
    event.receivedBy? receiver = none := by
  cases event with
  | received target message =>
      have silent := aside.1 target
      simp only [Event.entryOf?, ↓reduceIte, reduceCtorEq] at silent
  | _ => rfl

/-- A request is an event aside. -/
theorem aside_sent (request : BookRequest) (book : BookSpec) : Aside (.sent request book) :=
  ⟨fun _ => rfl, fun _ => rfl, fun _ _ => rfl⟩

/-- Requests sent while the feed is up are events aside. -/
theorem aside_if_sent (up : Bool) (request : BookRequest) (books : List BookSpec) :
    ∀ event ∈ (if up then books.map (Event.sent request) else []), Aside event := by
  intro event member
  split at member
  · obtain ⟨book, _, rfl⟩ := List.mem_map.mp member
    exact aside_sent request book
  · exact (List.not_mem_nil member).elim

namespace Streams

/-- Events that are no part of any stream change none. -/
theorem log {current : Option Section} {events : List Event} (streams : manager.Streams current)
    (aside : ∀ event ∈ events, Aside event) (running : .started ∉ events) :
    Streams { manager with log := manager.log ++ events } current := by
  have entries : ∀ receiver, entriesOf receiver events = [] := fun receiver =>
    List.filterMap_eq_nil_iff.mpr fun event member => (aside event member).1 receiver
  have silent : ∀ receiver, receivedBy receiver events = [] := fun receiver =>
    List.filterMap_eq_nil_iff.mpr fun event member => (aside event member).receivedBy? receiver
  have unattached : ∀ receiver, attachedDepth receiver events = none := by
    intro receiver
    rw [attachedDepth, List.filterMap_eq_nil_iff.mpr fun event member =>
      (aside event member).2.1 receiver]
    rfl
  have undelivered : ∀ receiver message, .received receiver message ∉ events := by
    intro receiver message member
    have delivered := (aside _ member).receivedBy? receiver
    simp only [Event.receivedBy?, ↓reduceIte, reduceCtorEq] at delivered
  have ready : manager.parser.Ready manager.log →
      manager.parser.Ready (manager.log ++ events) := fun ready =>
    ready.route entries fun found _ => found
  have tracks : ∀ {running}, manager.parser.Tracks running manager.log →
      manager.parser.Tracks running (manager.log ++ events) := fun tracks =>
    tracks.quiet
      (fun receiver progress event member => (aside event member).2.2 receiver progress) silent
  refine
    { agrees := streams.agrees.append fun receiver => ⟨silent receiver, unattached receiver⟩
      tracks := tracks streams.tracks
      ready := fun up => ready (streams.ready up)
      first := streams.first.quiet entries
      told := ?_
      informed := fun symbol route found => (streams.informed symbol route found).append running
      closed := fun down symbol route found =>
        (streams.closed down symbol route found).append (undelivered route.receiver)
      named := streams.named
      sole := streams.sole
      unheard := ?_
      knows := ?_ }
  · refine streams.told.append fun past event future split receiver message same => ?_
    rw [split, same] at undelivered
    exact (undelivered receiver message (List.mem_append_right _ List.mem_cons_self)).elim
  · intro receiver message member
    rcases List.mem_append.mp member with old | new
    · exact streams.unheard receiver message old
    · exact (undelivered receiver message new).elim
  · have knows := streams.knows
    unfold Knows at knows ⊢
    split at knows
    · exact ⟨ready knows.1, tracks knows.2⟩
    · intro message member
      rcases List.mem_append.mp member with old | new
      · exact knows message old
      · exact undelivered _ message new
    · trivial

/-- A receiver that is about to be attached is at no route. -/
theorem unused {request : SubscribeRequest} {precision : PairPrecision} {receiver : ReceiverId}
    (streams : manager.Streams (some (.attach request precision receiver)))
    (tabled : manager.Tabled (some (.attach request precision receiver))) {symbol : String}
    {route : Route} (found : manager.parser.routes.find? symbol = some route) :
    route.receiver ≠ receiver := by
  intro same
  obtain ⟨id, subscription, present, owns, routed⟩ := tabled.owner found
  exact routed (streams.sole _ _ _ _ present tabled.relies (owns.trans same))

/-- A change is delivered at a route that lets it through. -/
theorem received_emit {parser : L2Parser} {message delivered : Message} {receiver : ReceiverId}
    (member : .received receiver delivered ∈ (parser.emit message).2) :
    ∃ route, parser.findRoute message.symbol message.type = some route ∧
      route.receiver = receiver := by
  rcases parser.emit_cases message with ⟨_, emitted⟩ | ⟨route, _, _, emitted⟩ |
    ⟨route, found, _, emitted⟩
  · rw [emitted] at member
    simp only [List.mem_singleton, reduceCtorEq] at member
  · rw [emitted] at member
    simp only [List.mem_cons, reduceCtorEq, List.not_mem_nil, or_self] at member
  · rw [emitted] at member
    simp only [List.mem_cons, reduceCtorEq, Event.received.injEq, List.not_mem_nil, or_false,
      false_or] at member
    exact ⟨route, found, member.1.symm⟩

/-- After a change, a pair is routed to the receiver it was routed to before. -/
theorem receiver_emit {parser : L2Parser} {message : Message} {symbol : String} {route : Route}
    (found : (parser.emit message).1.routes.find? symbol = some route) :
    ∃ old, parser.routes.find? symbol = some old ∧ old.receiver = route.receiver := by
  have same := congrFun (parser.served_emit message) symbol
  simp only [L2Parser.served, found, Option.map_some] at same
  obtain ⟨old, present, pair⟩ := Option.map_eq_some_iff.mp same.symm
  exact ⟨old, present, (Prod.mk.inj pair).1⟩

/-- A message keeps every receiver's stream in form. -/
theorem emit {current : Option Section} (streams : manager.Streams current)
    (tabled : manager.Tabled current) (up : manager.connected ≠ false) (message : Message)
    (pipeline : Pipeline Decoder) (resubscriber : Resubscriber) :
    Streams
      { manager with
        parser := (manager.parser.emit message).1
        pipeline := pipeline
        resubscriber := resubscriber
        log := manager.log ++ (manager.parser.emit message).2 } current := by
  have calm := calm_emit manager.parser message
  have running : .started ∉ (manager.parser.emit message).2 := fun member => (calm _ member).1 rfl
  have connected := Bool.of_not_eq_false up
  have ready := streams.ready connected
  have owned : ∀ receiver delivered,
      .received receiver delivered ∈ (manager.parser.emit message).2 →
        ∃ symbol route, manager.parser.routes.find? symbol = some route ∧
          route.receiver = receiver := by
    intro receiver delivered member
    obtain ⟨route, found, same⟩ := received_emit member
    exact ⟨_, route, (L2Parser.findRoute_eq_some_iff.mp found).1, same⟩
  refine
    { agrees := streams.agrees.emit message
      tracks := streams.tracks.emit connected message
      ready := fun _ => ready.emit streams.agrees message
      first := streams.first.emit ready message
      told := ?_
      informed := ?_
      closed := fun down => (up down).elim
      named := streams.named
      sole := streams.sole
      unheard := ?_
      knows := ?_ }
  · refine streams.told.append fun past event future split receiver delivered same => ?_
    rw [split] at running owned
    obtain ⟨symbol, route, found, rfl⟩ := owned receiver delivered
      (List.mem_append_right _ (same ▸ List.mem_cons_self))
    exact (streams.informed symbol route found).append fun member =>
      running (List.mem_append_left _ member)
  · intro symbol route found
    obtain ⟨old, present, same⟩ := receiver_emit found
    rw [← same]
    exact (streams.informed symbol old present).append running
  · intro receiver delivered member
    rcases List.mem_append.mp member with old | new
    · exact streams.unheard receiver delivered old
    · obtain ⟨symbol, route, found, rfl⟩ := owned receiver delivered new
      obtain ⟨id, subscription, present, same, _⟩ := tabled.owner found
      rw [← same]
      exact streams.named id subscription present
  · have knows := streams.knows
    unfold Knows at knows ⊢
    split at knows
    · exact ⟨ready.emit streams.agrees message, knows.2.emit trivial message⟩
    · intro delivered member
      rcases List.mem_append.mp member with old | new
      · exact knows delivered old
      · obtain ⟨symbol, route, found, same⟩ := owned _ delivered new
        exact streams.unused tabled found same
    · trivial

/-- A step of the parser keeps every receiver's stream in form. -/
theorem parse {current : Option Section} {next : L2Manager Decoder}
    (streams : manager.Streams current) (tabled : manager.Tabled current)
    (wired : manager.Wired current) (moved : ParserStep adapter manager next) :
    next.Streams current := by
  cases moved with
  | decode decoder connection frame rest =>
      have aside : ∀ event ∈ [.decoded connection], Aside event := fun event member =>
        List.mem_singleton.mp member ▸ ⟨fun _ => rfl, fun _ => rfl, fun _ _ => rfl⟩
      exact { streams.log aside fun member => Event.noConfusion (List.mem_singleton.mp member) with }
  | emit message next decoding =>
      exact streams.emit tabled (wired.up_of_decoding decoding).2 message _ _
  | exit | find | done | fail => exact { streams with }

/-- An attached route starts its receiver's stream. -/
theorem attach {request : SubscribeRequest} {precision : PairPrecision} {receiver : ReceiverId}
    {parser : L2Parser} {events : List Event}
    (streams : manager.Streams (some (.attach request precision receiver)))
    (tabled : manager.Tabled (some (.attach request precision receiver)))
    (done : manager.parser.attach request.book.symbol precision request.book.depth receiver =
      .ok (parser, events)) :
    Streams { manager with parser := parser, log := manager.log ++ events }
      (some (.sendSubscribe request)) := by
  have unused : ∀ other route, manager.parser.routes.find? other = some route →
      route.receiver ≠ receiver := fun _ _ found => streams.unused tabled found
  have agrees := streams.agrees.attach
    (fun other route found same => (unused other route found same).elim) done
  have tracks := streams.tracks.attach unused done
  have ready := fun up => (streams.ready up).attach done
  have calm := calm_attach done
  have running : .started ∉ events := fun member => (calm _ member).1 rfl
  obtain ⟨_, rfl, rfl⟩ := L2Parser.attach_eq_ok_iff.mp done
  have undelivered : ∀ receiver' message, (.received receiver' message : Event) ∉
      [.attached request.book.symbol request.book.depth receiver] := fun _ _ member =>
    Event.noConfusion (List.mem_singleton.mp member)
  have closed : Closed receiver manager.log := .of_unheard streams.knows
  refine
    { agrees := agrees
      tracks := tracks
      ready := ready
      first := streams.first.quiet fun _ => rfl
      told := streams.told.concat fun _ _ same => Event.noConfusion same
      informed := fun symbol route found => ?_
      closed := fun down symbol route found => ?_
      named := streams.named
      sole := streams.sole
      unheard := fun other message member => ?_
      knows := trivial }
  · rw [L2Parser.find?_setRoute] at found
    split at found
    · obtain rfl := Option.some.inj found
      exact closed.told.append running
    · exact (streams.informed symbol route found).append running
  · rw [L2Parser.find?_setRoute] at found
    split at found
    · obtain rfl := Option.some.inj found
      exact closed.append (undelivered receiver)
    · exact (streams.closed down symbol route found).append (undelivered route.receiver)
  · rcases List.mem_append.mp member with old | new
    · exact streams.unheard other message old
    · exact (undelivered other message new).elim

/-- A detached route ends its receiver's stream. -/
theorem detach {current next : Option Section} (streams : manager.Streams current)
    (symbol : String)
    (knows : Knows
      { manager with
        parser := (manager.parser.detach symbol).1
        log := manager.log ++ (manager.parser.detach symbol).2 } next) :
    Streams
      { manager with
        parser := (manager.parser.detach symbol).1
        log := manager.log ++ (manager.parser.detach symbol).2 } next := by
  have kept : ∀ query route, (manager.parser.detach symbol).1.routes.find? query = some route →
      manager.parser.routes.find? query = some route := by
    intro query route found
    rw [L2Parser.find?_detach] at found
    split at found
    · exact (Option.some_ne_none _ found.symm).elim
    · exact found
  have undelivered : ∀ receiver message,
      (.received receiver message : Event) ∉ [.detached symbol] := fun _ _ member =>
    Event.noConfusion (List.mem_singleton.mp member)
  have running : (.started : Event) ∉ [.detached symbol] := fun member =>
    Event.noConfusion (List.mem_singleton.mp member)
  exact
    { agrees := streams.agrees.detach symbol
      tracks := streams.tracks.detach symbol
      ready := fun up => (streams.ready up).detach symbol
      first := streams.first.quiet fun _ => rfl
      told := streams.told.concat fun _ _ same => Event.noConfusion same
      informed := fun query route found =>
        (streams.informed query route (kept query route found)).append running
      closed := fun down query route found =>
        (streams.closed down query route (kept query route found)).append
          (undelivered route.receiver)
      named := streams.named
      sole := streams.sole
      unheard := fun receiver message member => by
        rcases List.mem_append.mp member with old | new
        · exact streams.unheard receiver message old
        · exact (undelivered receiver message new).elim
      knows := knows }

/-- A new connection starts every pair over; that the last one is over, its receivers
have been told. -/
theorem start (streams : manager.Streams (some .startParser)) (down : manager.connected = false)
    (pipeline : Pipeline Decoder) :
    Streams
      { manager with
        parser := manager.parser.start.1
        log := manager.log ++ manager.parser.start.2
        pipeline := pipeline } (some .connectFeed) := by
  have undelivered : ∀ receiver message,
      (.received receiver message : Event) ∉ [.started] := fun _ _ member =>
    Event.noConfusion (List.mem_singleton.mp member)
  have closed : ∀ symbol route, manager.parser.start.1.routes.find? symbol = some route →
      Closed route.receiver (manager.log ++ [.started]) := by
    intro symbol route found
    rw [L2Parser.find?_start] at found
    obtain ⟨old, present, rfl⟩ := Option.map_eq_some_iff.mp found
    have before := streams.closed down symbol old present
    exact before.append (undelivered old.receiver)
  exact
    { agrees := streams.agrees.start
      tracks := streams.tracks.start
      ready := fun _ => L2Parser.ready_start _ _
      first := streams.first.quiet fun _ => rfl
      told := streams.told.concat fun _ _ same => Event.noConfusion same
      informed := fun symbol route found => (closed symbol route found).told
      closed := fun _ => closed
      named := streams.named
      sole := streams.sole
      unheard := fun receiver message member => by
        rcases List.mem_append.mp member with old | new
        · exact streams.unheard receiver message old
        · exact (undelivered receiver message new).elim
      knows := ⟨L2Parser.ready_start _ _, streams.tracks.start⟩ }

/-- The end of a connection is told to every receiver that got something on it. -/
theorem endConnection {current next : Option Section} (streams : manager.Streams current)
    (tabled : manager.Tabled current) (knows : Knows manager.endConnection next) :
    manager.endConnection.Streams next := by
  cases up : manager.connected with
  | false =>
      have same : manager.endConnection =
          { manager with pipeline := { manager.pipeline with frames := [] } } := by
        simp only [L2Manager.endConnection, up, Bool.false_eq_true, ↓reduceIte, List.append_nil]
      rw [same] at knows ⊢
      exact { streams with knows := knows }
  | true =>
      have receivers : (manager.subscriptions.entries.map fun entry =>
            (.gapped entry.2.receiver .disconnected : Event)) =
          (manager.subscriptions.entries.map fun entry => entry.2.receiver).map
            fun receiver => .gapped receiver .disconnected := by
        rw [List.map_map]
        rfl
      have log : manager.endConnection.log = manager.log ++
          (manager.subscriptions.entries.map fun entry => entry.2.receiver).map
            fun receiver => .gapped receiver .disconnected := by
        simp only [L2Manager.endConnection, up, ↓reduceIte, receivers]
      have gap : ∀ event ∈ (manager.subscriptions.entries.map fun entry =>
          entry.2.receiver).map fun receiver => (.gapped receiver .disconnected : Event),
            ∃ receiver, event = .gapped receiver .disconnected := by
        intro event member
        obtain ⟨receiver, _, rfl⟩ := List.mem_map.mp member
        exact ⟨receiver, rfl⟩
      generalize told : (manager.subscriptions.entries.map fun entry =>
        entry.2.receiver).map (fun receiver => (.gapped receiver .disconnected : Event)) =
          events at log gap
      have undelivered : ∀ receiver message, .received receiver message ∉ events := by
        intro receiver message member
        obtain ⟨_, same⟩ := gap _ member
        exact Event.noConfusion same
      have silent : ∀ receiver, receivedBy receiver events = [] := by
        refine fun receiver => List.filterMap_eq_nil_iff.mpr fun event member => ?_
        obtain ⟨_, rfl⟩ := gap event member
        rfl
      have running : .started ∉ events := by
        intro member
        obtain ⟨_, same⟩ := gap _ member
        exact Event.noConfusion same
      refine
        { agrees := ?_
          tracks := ?_
          ready := fun connected => Bool.noConfusion connected
          first := ?_
          told := ?_
          informed := fun symbol route found => ?_
          closed := fun _ symbol route found => ?_
          named := streams.named
          sole := streams.sole
          unheard := ?_
          knows := knows }
      · rw [log]
        refine streams.agrees.append fun receiver => ⟨silent receiver, ?_⟩
        rw [attachedDepth, List.filterMap_eq_nil_iff.mpr]
        · rfl
        · intro event member
          obtain ⟨_, rfl⟩ := gap event member
          rfl
      · rw [log, ← told]
        exact streams.tracks.gaps Bool.false_ne_true _
      · rw [log, ← told]
        exact streams.first.gaps _
      · rw [log]
        refine streams.told.append fun past event future split receiver message same => ?_
        rw [split, same] at undelivered
        exact (undelivered receiver message (List.mem_append_right _ List.mem_cons_self)).elim
      · rw [log]
        exact (streams.informed symbol route found).append running
      · obtain ⟨id, subscription, present, same, _⟩ := tabled.owner found
        rw [log]
        refine Closed.of_gap ?_ (undelivered route.receiver)
        rw [← told, ← same]
        exact List.mem_map_of_mem (List.mem_map_of_mem (OrderedMap.find?_eq_some_iff.mp present))
      · intro receiver message member
        rw [log] at member
        rcases List.mem_append.mp member with old | new
        · exact streams.unheard receiver message old
        · exact (undelivered receiver message new).elim

/-- A subscription that goes takes nothing of the others along. -/
theorem erase {current : Option Section} (streams : manager.Streams current) (id : SubscriptionId) :
    Streams { manager with subscriptions := manager.subscriptions.erase id } none := by
  refine { streams with named := fun other subscription present => ?_, sole := ?_, knows := trivial }
  · rw [OrderedMap.find?_erase] at present
    split at present
    · exact (Option.some_ne_none _ present.symm).elim
    · exact streams.named other subscription present
  · exact streams.sole.erase fun query => manager.subscriptions.find?_erase id query

/-- A step of a locked stretch keeps every receiver's stream in form. -/
theorem step {current : Section} {next : L2Manager Decoder} {after : Next}
    (streams : manager.Streams (some current)) (tabled : manager.Tabled (some current))
    (wired : manager.Wired (some current))
    (moved : SectionStep adapter manager current next after) : next.Streams after.section? := by
  have sent : ∀ (up : Bool) (request : BookRequest) (books : List BookSpec),
      .started ∉ (if up then books.map (Event.sent request) else []) := fun up request books =>
    fun member => (calm_if up (calm_sent request books) _ member).1 rfl
  cases moved with
  | healthy | unhealthy | disconnectFeed | joinFeed | stopParser | joinParser | stopRefused
  | joinRefused | checkHealthy | takenFirst | freeFirst | takenAgain | unbuilt | unknown | list
  | gone => exact { streams with knows := trivial }
  | endConnection reconnect _ goes =>
      rw [goes]
      cases reconnect with
      | false => exact streams.endConnection tabled trivial
      | true => exact streams.endConnection tabled trivial
  | startParser => exact streams.start tabled.relies _
  | connectFeed =>
      exact
        { streams with
          tracks := streams.knows.2.mono fun _ => trivial
          ready := fun _ => streams.knows.1
          closed := fun down => Bool.noConfusion down
          knows := trivial }
  | sendRequests connection =>
      exact
        { streams.log (aside_if_sent manager.connected .subscribe _)
            (sent manager.connected .subscribe _) with knows := trivial }
  | built request precision free =>
      have inserted := fun query => manager.subscriptions.find?_insert request.id query
        ⟨request.book, request.nowNs, manager.nextReceiver⟩
      have free : ∀ id old, manager.subscriptions.find? id = some old →
          old.receiver ≠ manager.nextReceiver :=
        fun id old present => (streams.named id old present).ne
      refine { streams with
        named := fun id subscription present => ?_
        sole := streams.sole.insert free inserted
        unheard := fun receiver message member =>
          Nat.lt_succ_of_lt (streams.unheard receiver message member)
        knows := fun message member => (streams.unheard _ message member).ne rfl }
      rw [inserted] at present
      split at present
      · obtain rfl := Option.some.inj present
        exact Nat.lt_succ_self _
      · exact Nat.lt_succ_of_lt (streams.named id subscription present)
  | unattached request => exact streams.erase request.id
  | attached request precision receiver parser events idle done =>
      exact streams.attach tabled done
  | sendSubscribe request connection =>
      exact
        { streams.log (aside_if_sent manager.connected .subscribe [request.book])
            (sent manager.connected .subscribe [request.book]) with knows := trivial }
  | detached id subscription known => exact streams.detach subscription.book.symbol trivial
  | sendUnsubscribe id book connection =>
      exact
        { streams.log (aside_if_sent manager.connected .unsubscribe [book])
            (sent manager.connected .unsubscribe [book]) with knows := trivial }
  | erase id => exact streams.erase id
  | resubscribe symbol id subscription connection found up =>
      exact
        { streams.log (aside_if_sent true .unsubscribe [subscription.book])
            (sent true .unsubscribe [subscription.book]) with knows := trivial }
  | resendSubscribe id book connection =>
      exact
        { streams.log (aside_if_sent manager.connected .subscribe [book])
            (sent manager.connected .subscribe [book]) with knows := trivial }

/-- A stretch that begins finds every receiver's stream in form. -/
theorem entry {begun : Section} (streams : manager.Streams none) (begins : Entry begun) :
    manager.Streams (some begun) := by
  cases begun with
  | disconnectFeed reconnect =>
      cases reconnect with
      | false => exact { streams with knows := trivial }
      | true => exact begins.elim
  | connect | healthy | resolveFirst | resolveAgain | unsubscribe | list | resubscribe =>
      exact { streams with knows := trivial }
  | _ => exact begins.elim

/-- A new manager has told nobody anything. -/
theorem init : (L2Manager.init adapter).Streams none where
  agrees := .init _
  tracks := .init _
  ready up := Bool.noConfusion up
  first := .nil
  told := Along.nil
  informed _ _ found := (Option.some_ne_none _ found.symm).elim
  closed _ _ _ found := (Option.some_ne_none _ found.symm).elim
  named _ _ found := (Option.some_ne_none _ found.symm).elim
  sole _ _ _ _ found := (Option.some_ne_none _ found.symm).elim
  unheard _ _ member := (List.not_mem_nil member).elim
  knows := trivial

/-- The table, the connection and the streams fit together in every reachable state. -/
theorem of_reachable (reachable : (system adapter).Reachable manager) :
    manager.Tabled manager.current ∧ manager.Wired manager.current ∧
      manager.Streams manager.current := by
  apply @invariant_of_steps _ adapter manager
    (fun manager current => manager.Tabled current ∧ manager.Wired current ∧
      manager.Streams current) reachable
  · exact ⟨.init, .init, .init⟩
  · exact fun _ _ _ _ _ _ ⟨tabled, wired, streams⟩ =>
      ⟨{ tabled with }, { wired with }, { streams with }⟩
  · exact fun _ _ begins ⟨tabled, wired, streams⟩ =>
      ⟨tabled.entry begins, wired.entry begins, streams.entry begins⟩
  · exact fun _ _ _ _ ⟨tabled, wired, streams⟩ moved =>
      ⟨tabled.step moved, wired.step moved, streams.step tabled wired moved⟩
  · exact fun _ what ⟨tabled, wired, streams⟩ =>
      ⟨{ tabled with relies := trivial }, wired.refuse what, { streams with knows := trivial }⟩
  · exact fun _ _ _ _ _ ⟨tabled, wired, streams⟩ running numbered =>
      ⟨{ tabled with }, wired.network running numbered, { streams with }⟩
  · exact fun _ _ _ ⟨tabled, wired, streams⟩ moved =>
      ⟨tabled.parse moved, wired.parse moved, streams.parse tabled wired moved⟩

end Streams

/-- **Streams begin with snapshots and lose nothing.** In every run of a manager, a
receiver's first message, and its first after any gap, is a snapshot; between messages
of two connections it is told of the gap; no frame is decoded once the next
connection is started; and a receiver gets, in order and once each, exactly the changes
that the decoder emits for its pair from the first snapshot on after it is attached,
after a connection starts or after a mismatch, until the next mismatch or the end of
the connection. -/
theorem receiver_streams (reachable : (system adapter).Reachable manager) :
    (∀ receiver, Along OpensStretch (entriesOf receiver manager.log)) ∧
      Along ToldBefore manager.log ∧
      Along OwnFrames manager.log ∧
      ∀ receiver, receivedBy receiver manager.log = (progress receiver manager.log).got := by
  obtain ⟨_, wired, streams⟩ := Streams.of_reachable reachable
  exact ⟨streams.first, streams.told, wired.decoded,
    fun receiver => (streams.tracks.got receiver).symm⟩

/-- A receiver is told between two connections, and loses what comes before the second
one's snapshot. -/
theorem receiver_streams_reconnect :
    let message : MessageType → Message := fun type => ⟨type, 0, 0, 0, "XBT/USD", [], []⟩
    let adapter : Adapter Unit :=
      { name := "kraken", depths := [10], bookChecksum := none, checkSymbol := fun _ => .ok ()
        connectRequests := [], makeBookRequest := fun _ book => book.symbol
        makeDecoder := ()
        decode := fun decoder frame =>
          .emit (message (if frame.json = "snapshot" then .snapshot else .update))
            (.done decoder) }
    let request : SubscribeRequest :=
      ⟨256, ⟨"XBT/USD", 10⟩, .ok ⟨1, 8⟩, fun _ => .ok (), 7⟩
    let frame : String → List Action := fun json =>
      [.network (.read ⟨json, 0⟩), .network .push, .parse, .parse, .parse]
    ∃ manager : L2Manager Unit,
      (system adapter).run
        ([.invoke 0 (.subscribe request), .acquire (.call 0), .run, .fetch 0,
            .acquire (.call 0)] ++ List.replicate 3 .run ++
          [.invoke 1 .connect, .acquire (.call 1)] ++ List.replicate 9 .run ++
          frame "snapshot" ++ frame "update" ++ [.network .fail] ++
          [.invoke 2 .connect, .acquire (.call 2)] ++ List.replicate 4 .run ++ [.parse] ++
            List.replicate 5 .run ++
          frame "update" ++ frame "snapshot") = some manager ∧
      entriesOf 0 manager.log =
        [some (message .snapshot), some (message .update), none, some (message .snapshot)] ∧
      Along ToldBefore manager.log ∧
      (progress 0 manager.log).got =
        [message .snapshot, message .update, message .snapshot] := by
  intro message adapter request frame
  have ran : ((system adapter).run
      (([.invoke 0 (.subscribe request), .acquire (.call 0), .run, .fetch 0,
          .acquire (.call 0)] : List Action) ++ List.replicate 3 Action.run ++
        ([.invoke 1 .connect, .acquire (.call 1)] : List Action) ++ List.replicate 9 Action.run ++
        frame "snapshot" ++ frame "update" ++ [Action.network .fail] ++
        ([.invoke 2 .connect, .acquire (.call 2)] : List Action) ++ List.replicate 4 Action.run ++
          [Action.parse] ++ List.replicate 5 Action.run ++
        frame "update" ++ frame "snapshot")).map (fun manager => entriesOf 0 manager.log) =
      some [some (message .snapshot), some (message .update), none,
        some (message .snapshot)] := by
    decide
  obtain ⟨manager, reached, entries⟩ := Option.map_eq_some_iff.mp ran
  obtain ⟨_, told, _, gets⟩ := receiver_streams ⟨_, reached⟩
  refine ⟨manager, reached, entries, told, ?_⟩
  rw [← gets, ← reduceOption_entriesOf, entries]
  rfl

end L2Manager

end DataFeed.Venue
