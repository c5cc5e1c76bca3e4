import DataFeed.Venue.ManagerStep

/-! # One connection at a time

While a manager is not connected nothing runs that could bring a message: no network
thread, no frame and no decoding (`Wired.down`). The frames of the queue were all read
on the connection that was started last, because a connection starts only then.
-/

namespace DataFeed.Venue

open Foundation L2 Net DataFeed.Core

/-- Events that neither start a connection nor take up a frame. -/
def Calm (events : List Event) : Prop :=
  ∀ event ∈ events, event ≠ .started ∧ ∀ connection, event ≠ .decoded connection

/-- Nothing is calm. -/
theorem calm_nil : Calm [] := fun _ member => (List.not_mem_nil member).elim

/-- One event that is no start and no decoded frame is calm. -/
theorem calm_singleton {event : Event} (started : event ≠ .started)
    (decoded : ∀ connection, event ≠ .decoded connection) : Calm [event] := by
  intro other member
  rw [List.mem_singleton.mp member]
  exact ⟨started, decoded⟩

/-- Several such events are calm. -/
theorem calm_map {Item : Type} (items : List Item) {event : Item → Event}
    (started : ∀ item, event item ≠ .started)
    (decoded : ∀ item connection, event item ≠ .decoded connection) :
    Calm (items.map event) := by
  intro other member
  obtain ⟨item, _, rfl⟩ := List.mem_map.mp member
  exact ⟨started item, decoded item⟩

/-- What the parser emits is calm. -/
theorem calm_emit (parser : L2Parser) (message : Message) : Calm (parser.emit message).2 := by
  intro event member
  rcases parser.emit_cases message with ⟨_, emitted⟩ | ⟨_, _, _, emitted⟩ | ⟨_, _, _, emitted⟩ <;>
  · rw [emitted] at member
    simp only [List.mem_cons, List.not_mem_nil, or_false] at member
    rcases member with rfl | rfl | rfl <;>
      exact ⟨fun same => Event.noConfusion same, fun _ same => Event.noConfusion same⟩

/-- What attaching a pair logs is calm. -/
theorem calm_attach {parser next : L2Parser} {symbol : String} {precision : PairPrecision}
    {depth : UInt32} {receiver : ReceiverId} {events : List Event}
    (attached : parser.attach symbol precision depth receiver = .ok (next, events)) :
    Calm events := by
  obtain ⟨_, _, rfl⟩ := L2Parser.attach_eq_ok_iff.mp attached
  exact calm_singleton (fun same => Event.noConfusion same) fun _ same => Event.noConfusion same

/-- What may be left out is calm if it is calm. -/
theorem calm_if {events : List Event} (up : Bool) (calm : Calm events) :
    Calm (if up then events else []) := by
  cases up with
  | true => exact calm
  | false => exact calm_nil

/-- Requests are calm. -/
theorem calm_sent (request : BookRequest) (books : List BookSpec) :
    Calm (books.map (Event.sent request)) :=
  calm_map books (fun _ same => Event.noConfusion same) fun _ _ same => Event.noConfusion same

/-- The gaps that receivers are told of are calm. -/
theorem calm_gaps (subscriptions : List ReceiverId) :
    Calm (subscriptions.map fun receiver => .gapped receiver .disconnected) :=
  calm_map subscriptions (fun _ same => Event.noConfusion same) fun _ _ same =>
    Event.noConfusion same

/-- Calm events start no connection. -/
theorem connectionNumber_append (log : List Event) {events : List Event} (calm : Calm events) :
    connectionNumber (log ++ events) = connectionNumber log := by
  unfold connectionNumber
  rw [List.countP_append, Nat.add_eq_left, List.countP_eq_zero]
  intro event member
  rw [decide_eq_true_eq]
  exact (calm event member).1

/-- A frame is decoded only until the next connection is started. -/
def OwnFrames (past : List Event) (event : Event) : Prop :=
  ∀ connection, event = .decoded connection → connection = connectionNumber past

namespace L2Manager

variable {Decoder : Type} {adapter : Adapter Decoder} {manager : L2Manager Decoder}

/-- What a section of a disconnect or a connect knows of the threads. -/
def Joined (manager : L2Manager Decoder) : Option Section → Prop
  | some (.stopParser _) | some (.joinParser _) => manager.pipeline.feed.thread = none
  | some (.endConnection _) =>
      manager.pipeline.feed.thread = none ∧ manager.pipeline.parserThread = none
  | some .startParser | some .connectFeed => manager.connected = false
  | _ => True

/-- How the connection, the threads and the queue fit together. -/
structure Wired (manager : L2Manager Decoder) (current : Option Section) : Prop where
  down : manager.connected = false → manager.pipeline.feed.thread = none ∧
    manager.pipeline.frames = [] ∧ manager.pipeline.decoding = false
  numbered : ∀ entry ∈ manager.pipeline.frames, entry.1 = connectionNumber manager.log
  reading : manager.pipeline.feed.thread ≠ none →
    manager.pipeline.feed.number = connectionNumber manager.log
  decoded : Along OwnFrames manager.log
  joined : manager.Joined current

/-- The parser's steps leave the feed joined. -/
theorem Joined.parse {next : L2Manager Decoder} {current : Option Section}
    (joined : manager.Joined current) (running : manager.pipeline.parserThread ≠ none)
    (feed : next.pipeline.feed = manager.pipeline.feed)
    (connected : next.connected = manager.connected) : next.Joined current := by
  cases current with
  | none => trivial
  | some section_ =>
      cases section_ with
      | endConnection => exact (running joined.2).elim
      | stopParser | joinParser => exact (congrArg WebsocketFeed.thread feed).trans joined
      | startParser | connectFeed => exact connected.trans joined
      | _ => trivial

/-- So do the network thread's. -/
theorem Joined.network {next : L2Manager Decoder} {current : Option Section}
    (joined : manager.Joined current) (running : manager.pipeline.feed.thread ≠ none)
    (connected : next.connected = manager.connected) : next.Joined current := by
  cases current with
  | none => trivial
  | some section_ =>
      cases section_ with
      | endConnection => exact (running joined.1).elim
      | stopParser | joinParser => exact (running joined).elim
      | startParser | connectFeed => exact connected.trans joined
      | _ => trivial

namespace Wired

/-- What happens besides the connection's own comings and goings does not matter. -/
theorem log {current : Option Section} {events : List Event} (wired : manager.Wired current)
    (calm : Calm events) :
    Wired { manager with log := manager.log ++ events } current := by
  refine { wired with numbered := ?_, reading := ?_, decoded := ?_ }
  · dsimp only
    rw [connectionNumber_append _ calm]
    exact wired.numbered
  · dsimp only
    rw [connectionNumber_append _ calm]
    exact wired.reading
  · refine wired.decoded.append fun past event future split => ?_
    intro connection same
    rw [split] at calm
    have listed : event ∈ past ++ event :: future :=
      List.mem_append_right past List.mem_cons_self
    exact ((calm event listed).2 connection same).elim

/-- Taking the lock leaves the manager wired. -/
theorem entry {begun : Section} (wired : manager.Wired none) (begins : Entry begun) :
    manager.Wired (some begun) := by
  cases begun with
  | disconnectFeed reconnect =>
      cases reconnect with
      | false => exact { wired with joined := trivial }
      | true => exact begins.elim
  | connect | healthy | resolveFirst | resolveAgain | unsubscribe | list | resubscribe =>
      exact { wired with joined := trivial }
  | _ => exact begins.elim

/-- Frames are decoded only while connected. -/
theorem up_of_decoding {current : Option Section} {rest : Decoding Decoder}
    (wired : manager.Wired current)
    (decoding : manager.pipeline.parserThread = some (.decoding rest)) :
    manager.pipeline.parserThread ≠ none ∧ manager.connected ≠ false := by
  constructor
  · rw [decoding]
    exact Option.some_ne_none _
  · intro down
    have idle := (wired.down down).2.2
    rw [Pipeline.decoding, decoding] at idle
    contradiction

/-- So do the parser's steps. -/
theorem parse {current : Option Section} {next : L2Manager Decoder}
    (wired : manager.Wired current) (moved : ParserStep adapter manager next) :
    next.Wired current := by
  cases moved with
  | decode decoder connection frame rest waiting frames =>
      have running : manager.pipeline.parserThread ≠ none := by
        rw [waiting]
        exact Option.some_ne_none _
      have same : connectionNumber (manager.log ++ [.decoded connection]) =
          connectionNumber manager.log := by
        rw [connectionNumber, List.countP_append]
        rfl
      refine ⟨fun down => ?_, ?_, ?_, ?_, wired.joined.parse running rfl rfl⟩
      · have idle := (wired.down down).2.1
        rw [frames] at idle
        exact (List.cons_ne_nil _ _ idle).elim
      · dsimp only
        rw [same]
        exact wired.numbered
      · dsimp only
        rw [same]
        exact wired.reading
      · refine wired.decoded.concat fun other decoded => ?_
        obtain rfl := Event.decoded.inj decoded
        refine wired.numbered (connection, frame) ?_
        rw [frames]
        exact List.mem_cons_self
  | exit decoder waiting =>
      have running : manager.pipeline.parserThread ≠ none := by
        rw [waiting]
        exact Option.some_ne_none _
      exact
        { wired with
          down := fun down => ⟨(wired.down down).1, (wired.down down).2.1, rfl⟩
          joined := wired.joined.parse running rfl rfl }
  | find symbol type next decoding =>
      obtain ⟨running, up⟩ := wired.up_of_decoding decoding
      exact
        { wired with
          down := fun down => (up down).elim
          joined := wired.joined.parse running rfl rfl }
  | emit message next decoding =>
      obtain ⟨running, up⟩ := wired.up_of_decoding decoding
      exact
        { wired.log (calm_emit manager.parser message) with
          down := fun down => (up down).elim
          joined := wired.joined.parse running rfl rfl }
  | done decoder decoding =>
      obtain ⟨running, up⟩ := wired.up_of_decoding decoding
      exact
        { wired with
          down := fun down => (up down).elim
          numbered := fun entry member => wired.numbered entry (List.mem_of_mem_tail member)
          joined := wired.joined.parse running rfl rfl }
  | fail what decoding =>
      obtain ⟨running, up⟩ := wired.up_of_decoding decoding
      exact
        { wired with
          down := fun down => (up down).elim
          joined := wired.joined.parse running rfl rfl }

/-- So does each section under the lock. -/
theorem step {current : Section} {next : L2Manager Decoder} {after : Next}
    (wired : manager.Wired (some current))
    (moved : SectionStep adapter manager current next after) : next.Wired after.section? := by
  cases moved with
  | healthy | unhealthy | disconnectFeed | checkHealthy | takenFirst | freeFirst
  | takenAgain | unbuilt | built | unattached | unknown | erase | list | gone | stopRefused =>
      exact { wired with joined := trivial }
  | stopParser => exact { wired with joined := wired.joined }
  | joinFeed reconnect ended =>
      exact
        { down := fun down => ⟨rfl, (wired.down down).2⟩
          numbered := wired.numbered
          reading := fun running => (running rfl).elim
          decoded := wired.decoded
          joined := rfl }
  | joinParser =>
      exact
        { wired with
          down := fun down => ⟨(wired.down down).1, (wired.down down).2.1, rfl⟩
          joined := ⟨wired.joined, rfl⟩ }
  | joinRefused =>
      exact
        { wired with
          down := fun down => ⟨(wired.down down).1, (wired.down down).2.1, rfl⟩
          joined := trivial }
  | endConnection reconnect _ goes =>
      obtain ⟨ended, stopped⟩ := wired.joined
      have told := wired.log (calm_if manager.connected
        (calm_gaps (manager.subscriptions.entries.map fun entry => entry.2.receiver)))
      have closes : ∀ current, Joined manager.endConnection current →
          manager.endConnection.Wired current := by
        intro current joined
        refine ⟨fun _ => ⟨ended, rfl, ?_⟩, fun _ member => (List.not_mem_nil member).elim,
          fun running => (running ended).elim, ?_, joined⟩
        · rw [Pipeline.decoding, endConnection, stopped]
        · have decoded := told.decoded
          rw [List.map_map] at decoded
          exact decoded
      rw [goes]
      cases reconnect with
      | false => exact closes none trivial
      | true => exact closes (some .startParser) rfl
  | startParser =>
      obtain ⟨ended, empty, _⟩ := wired.down wired.joined
      refine ⟨fun _ => ⟨ended, empty, rfl⟩, ?_, fun running => (running ended).elim, ?_,
        wired.joined⟩
      · simp only [startParser, empty]
        exact fun _ member => (List.not_mem_nil member).elim
      · exact wired.decoded.concat fun _ same => Event.noConfusion same
  | connectFeed =>
      have empty := (wired.down wired.joined).2.1
      refine ⟨fun down => Bool.noConfusion down, ?_, fun _ => rfl, wired.decoded, trivial⟩
      dsimp only
      rw [empty]
      exact fun _ member => (List.not_mem_nil member).elim
  | sendRequests connection =>
      exact { wired.log (calm_if manager.connected (calm_sent .subscribe _)) with joined := trivial }
  | attached request precision receiver parser events idle done =>
      exact { wired.log (calm_attach done) with joined := trivial }
  | sendSubscribe request connection =>
      exact { wired.log (calm_if manager.connected (calm_sent .subscribe [_])) with joined := trivial }
  | detached id subscription known =>
      have calm : Calm [.detached subscription.book.symbol] :=
        calm_singleton (fun same => Event.noConfusion same) fun _ same => Event.noConfusion same
      exact { wired.log calm with joined := trivial }
  | sendUnsubscribe id book connection =>
      exact
        { wired.log (calm_if manager.connected (calm_sent .unsubscribe [book])) with
          joined := trivial }
  | resubscribe symbol id subscription connection found up =>
      exact { wired.log (calm_sent .unsubscribe [subscription.book]) with joined := trivial }
  | resendSubscribe id book connection =>
      exact
        { wired.log (calm_if manager.connected (calm_sent .subscribe [book])) with
          joined := trivial }

/-- So do the network thread's steps. -/
theorem network {current : Option Section} {thread : NetworkThread} {failed : Bool}
    {frames : List (Nat × RawFrame)} (wired : manager.Wired current)
    (running : manager.pipeline.feed.thread ≠ none)
    (numbered : ∀ entry ∈ frames, entry.1 = manager.pipeline.feed.number) :
    Wired
      { manager with pipeline := { manager.pipeline with
        failed := failed
        frames := manager.pipeline.frames ++ frames
        feed := { manager.pipeline.feed with thread := some thread } } } current := by
  have number := wired.reading running
  refine ⟨fun down => (running (wired.down down).1).elim, ?_, fun _ => number, wired.decoded,
    wired.joined.network running rfl⟩
  intro entry member
  rcases List.mem_append.mp member with old | new
  · exact wired.numbered entry old
  · exact (numbered entry new).trans number

/-- So does a refused connection. -/
theorem refuse (wired : manager.Wired (some .connectFeed)) (what : String) :
    Wired { manager with pipeline := { manager.pipeline with feed := .refused } }
      (some (.stopRefused what)) where
  down down := ⟨rfl, (wired.down down).2⟩
  numbered := wired.numbered
  reading running := (running rfl).elim
  decoded := wired.decoded
  joined := trivial

/-- A new manager is wired. -/
theorem init : (L2Manager.init adapter).Wired none where
  down _ := ⟨rfl, rfl, rfl⟩
  numbered _ member := (List.not_mem_nil member).elim
  reading running := (running rfl).elim
  decoded := Along.nil
  joined := trivial

/-- The connection, the threads and the queue fit together in every reachable state. -/
theorem of_reachable (reachable : (system adapter).Reachable manager) :
    manager.Wired manager.current := by
  apply invariant_of_steps reachable
  · exact init
  · exact fun _ _ _ _ _ _ wired => { wired with }
  · exact fun _ _ begins wired => wired.entry begins
  · exact fun _ _ _ _ wired moved => wired.step moved
  · exact fun _ what wired => wired.refuse what
  · exact fun _ _ _ _ _ wired running numbered => wired.network running numbered
  · exact fun _ _ _ wired moved => wired.parse moved

end Wired

end L2Manager

end DataFeed.Venue
