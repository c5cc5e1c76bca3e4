import DataFeed.Venue.Connections

/-! # Fully connected or fully disconnected

Whoever holds the life cycle lock takes a connection down and brings one up in steps, and
while it does the manager is in between (`Between`). Whenever the lock is free the manager
is up, with a decoder of this connection's own, or down, with nothing running.
-/

namespace DataFeed.Venue

open Foundation L2 Net DataFeed.Core

/-- How many frames were taken up since the last connection was started. -/
def decodedSince (log : List Event) : Nat :=
  log.foldl (fun count event =>
    match event with
    | .started => 0
    | .decoded _ => count + 1
    | _ => count) 0

/-- Calm events change nothing about what is decoded since the last start. -/
theorem decodedSince_append (log : List Event) {events : List Event} (calm : Calm events) :
    decodedSince (log ++ events) = decodedSince log := by
  induction events generalizing log with
  | nil => rw [List.append_nil]
  | cons event rest ih =>
      obtain ⟨started, decoded⟩ := calm event List.mem_cons_self
      rw [List.append_cons, ih _ fun other member => calm other (List.mem_cons_of_mem _ member),
        decodedSince, List.foldl_append]
      cases event with
      | started => exact (started rfl).elim
      | decoded connection => exact (decoded connection rfl).elim
      | _ => rfl

/-- A frame that is decoded is counted. -/
theorem decodedSince_decoded (log : List Event) (connection : Nat) :
    decodedSince (log ++ [.decoded connection]) = decodedSince log + 1 := by
  unfold decodedSince
  rw [List.foldl_append]
  rfl

/-- The count begins again when the parser is started. -/
theorem decodedSince_started (log : List Event) : decodedSince (log ++ [.started]) = 0 := by
  unfold decodedSince
  rw [List.foldl_append]
  rfl

/-- A parser's thread that was started with a new decoder and has taken up so many frames
since. -/
inductive Grown {Decoder : Type} (adapter : Adapter Decoder) :
    Nat → ParserThread Decoder → Prop where
  | new : Grown adapter 0 (.waiting adapter.makeDecoder)
  | decode {count : Nat} {decoder : Decoder} (frame : RawFrame)
      (waiting : Grown adapter count (.waiting decoder)) :
      Grown adapter (count + 1) (.decoding (adapter.decode decoder frame))
  | find {count : Nat} {symbol : String} {type : MessageType}
      {next : Option PairPrecision → Decoding Decoder} (found : Option PairPrecision)
      (decoding : Grown adapter count (.decoding (.find symbol type next))) :
      Grown adapter count (.decoding (next found))
  | emit {count : Nat} {message : Message} {next : Decoding Decoder}
      (decoding : Grown adapter count (.decoding (.emit message next))) :
      Grown adapter count (.decoding next)
  | done {count : Nat} {decoder : Decoder}
      (decoding : Grown adapter count (.decoding (.done decoder))) :
      Grown adapter count (.waiting decoder)
  | ended {count : Nat} {thread : ParserThread Decoder} (running : Grown adapter count thread) :
      Grown adapter count .ended

/-- A parser that waits has not ended. -/
theorem ParserThread.waiting_ne_ended {Decoder : Type} (decoder : Decoder) :
    some (ParserThread.waiting decoder) ≠ some .ended := by
  simp only [ne_eq, Option.some.injEq, reduceCtorEq, not_false_eq_true]

/-- Neither has one that decodes. -/
theorem ParserThread.decoding_ne_ended {Decoder : Type} (rest : Decoding Decoder) :
    some (ParserThread.decoding rest) ≠ some .ended := by
  simp only [ne_eq, Option.some.injEq, reduceCtorEq, not_false_eq_true]

namespace L2Manager

variable {Decoder : Type} {adapter : Adapter Decoder} {manager next : L2Manager Decoder}

/-- A connection of a number, both its threads, and no order to either of them to stop. -/
structure Up (pipeline : Pipeline Decoder) (number : Nat) : Prop where
  connection : pipeline.feed.connection.isSome
  network : pipeline.feed.thread ≠ none
  number : pipeline.feed.number = number
  networkStop : pipeline.feed.stop = false
  parser : pipeline.parserThread ≠ none
  parserStop : pipeline.parserStop = false

/-- No connection, no thread and no frame. -/
structure Down (pipeline : Pipeline Decoder) : Prop where
  connection : pipeline.feed.connection = none
  network : pipeline.feed.thread = none
  parser : pipeline.parserThread = none
  frames : pipeline.frames = []

/-- A thread that has ended was told to stop, or has marked the pipeline failed. -/
structure Accounted (pipeline : Pipeline Decoder) : Prop where
  network : pipeline.feed.thread = some .ended → pipeline.failed = true ∨ pipeline.feed.stop = true
  parser : pipeline.parserThread = some .ended →
    pipeline.failed = true ∨ pipeline.parserStop = true

/-- Fully connected or fully disconnected. -/
def Whole (manager : L2Manager Decoder) : Prop :=
  (manager.connected = true → Up manager.pipeline (connectionNumber manager.log)) ∧
    (manager.connected = false → Down manager.pipeline)

/-- What is up and what is down as the holder of the lock comes to a section. -/
def Between (manager : L2Manager Decoder) : Option Section → Prop
  | some (.joinFeed _) => True
  | some (.stopParser _) | some (.joinParser _) =>
      manager.pipeline.feed.connection = none ∧ manager.pipeline.feed.thread = none
  | some (.endConnection _) =>
      manager.pipeline.feed.connection = none ∧ manager.pipeline.feed.thread = none ∧
        manager.pipeline.parserThread = none
  | some .startParser => manager.connected = false ∧ Down manager.pipeline
  | some .connectFeed =>
      manager.connected = false ∧ manager.pipeline.feed.connection = none ∧
        manager.pipeline.feed.thread = none ∧ manager.pipeline.frames = [] ∧
        manager.pipeline.parserThread ≠ none ∧ manager.pipeline.parserStop = false
  | some (.stopRefused _) | some (.joinRefused _) =>
      manager.connected = false ∧ manager.pipeline.feed.connection = none ∧
        manager.pipeline.feed.thread = none ∧ manager.pipeline.frames = []
  | _ => manager.Whole

/-- How a manager stands, whoever holds the lock. -/
structure Standing (adapter : Adapter Decoder) (manager : L2Manager Decoder)
    (current : Option Section) : Prop where
  between : manager.Between current
  accounted : Accounted manager.pipeline
  grown : ∀ thread, manager.pipeline.parserThread = some thread →
    Grown adapter (decodedSince manager.log) thread

/-- Nothing about the connection changes but what is handed to it. -/
structure Quiet (manager next : L2Manager Decoder) : Prop where
  connected : next.connected = manager.connected
  pipeline : ∃ connection, next.pipeline =
      { manager.pipeline with feed := { manager.pipeline.feed with connection := connection } } ∧
    connection.isSome = manager.pipeline.feed.connection.isSome
  log : ∃ events, Calm events ∧ next.log = manager.log ++ events

namespace Quiet

/-- Nothing has happened. -/
theorem refl (manager : L2Manager Decoder) : Quiet manager manager :=
  ⟨rfl, ⟨_, rfl, rfl⟩, [], calm_nil, (List.append_nil _).symm⟩

/-- A pipeline that is up stays up through what is quiet. -/
theorem up (quiet : Quiet manager next)
    (up : Up manager.pipeline (connectionNumber manager.log)) :
    Up next.pipeline (connectionNumber next.log) := by
  obtain ⟨connection, same, some⟩ := quiet.pipeline
  obtain ⟨events, calm, log⟩ := quiet.log
  refine ⟨?_, ?_, ?_, ?_, ?_, ?_⟩
  · rw [same]
    exact some.trans up.connection
  · rw [same]
    exact up.network
  · rw [same, log, connectionNumber_append _ calm]
    exact up.number
  · rw [same]
    exact up.networkStop
  · rw [same]
    exact up.parser
  · rw [same]
    exact up.parserStop

/-- One that is down stays down. -/
theorem down (quiet : Quiet manager next) (down : Down manager.pipeline) :
    Down next.pipeline := by
  obtain ⟨connection, same, some⟩ := quiet.pipeline
  rw [down.connection] at some
  refine ⟨?_, ?_, ?_, ?_⟩
  · rw [same]
    exact Option.isSome_eq_false_iff.mp some |> Option.isNone_iff_eq_none.mp
  · rw [same]
    exact down.network
  · rw [same]
    exact down.parser
  · rw [same]
    exact down.frames

/-- What is whole stays so. -/
theorem whole (quiet : Quiet manager next) (whole : manager.Whole) : next.Whole := by
  unfold Whole
  rw [quiet.connected]
  exact ⟨fun up => quiet.up (whole.1 up), fun down => quiet.down (whole.2 down)⟩

/-- A request for a book is quiet. -/
theorem send (adapter : Adapter Decoder) (manager : L2Manager Decoder) (request : BookRequest)
    (book : BookSpec) : Quiet manager (manager.send adapter request book) := by
  unfold L2Manager.send
  split
  · refine ⟨rfl, ⟨_, rfl, Option.isSome_map⟩, [.sent request book], ?_, rfl⟩
    exact calm_sent request [book]
  · exact refl manager

/-- Two quiet changes are one. -/
theorem trans {middle : L2Manager Decoder} (first : Quiet manager middle)
    (second : Quiet middle next) : Quiet manager next := by
  obtain ⟨connection, same, some⟩ := first.pipeline
  obtain ⟨later, again, still⟩ := second.pipeline
  obtain ⟨events, calm, log⟩ := first.log
  obtain ⟨more, calmer, longer⟩ := second.log
  refine ⟨second.connected.trans first.connected, ⟨later, ?_, ?_⟩, events ++ more, ?_, ?_⟩
  · rw [again, same]
  · rw [still, same]
    exact some
  · intro event member
    exact (List.mem_append.mp member).elim (calm event) (calmer event)
  · rw [longer, log, List.append_assoc]

/-- Requests for several books are quiet. -/
theorem sendBooks (adapter : Adapter Decoder) (list : List BookSpec)
    (manager : L2Manager Decoder) :
    Quiet manager
      (list.foldl (fun manager book => manager.send adapter .subscribe book) manager) := by
  induction list generalizing manager with
  | nil => exact refl manager
  | cons book rest ih => exact (send adapter manager .subscribe book).trans (ih _)

/-- So are the requests of an adapter's connection. -/
theorem sendTexts (texts : List String) (manager : L2Manager Decoder) :
    Quiet manager { manager with pipeline := { manager.pipeline with
      feed := texts.foldl WebsocketFeed.send manager.pipeline.feed } } := by
  induction texts generalizing manager with
  | nil => exact refl manager
  | cons text rest ih =>
      have first : Quiet manager { manager with pipeline := { manager.pipeline with
          feed := manager.pipeline.feed.send text } } :=
        ⟨rfl, ⟨_, rfl, Option.isSome_map⟩, [], calm_nil, (List.append_nil _).symm⟩
      exact first.trans (ih _)

/-- So is all that is sent on connecting. -/
theorem sendAll (adapter : Adapter Decoder) (manager : L2Manager Decoder) :
    Quiet manager (manager.sendAll adapter) :=
  (sendTexts adapter.connectRequests manager).trans (sendBooks adapter _ _)

end Quiet

/-- The sections in which no connection is brought up or taken down. -/
def Settled : Option Section → Prop
  | some (.joinFeed _) | some (.stopParser _) | some (.joinParser _) | some (.endConnection _)
  | some .startParser | some .connectFeed | some (.stopRefused _) | some (.joinRefused _) => False
  | _ => True

/-- Outside the connecting sections a settled manager is whole. -/
theorem between_of_settled {current : Option Section} (settled : Settled current) :
    manager.Between current = manager.Whole := by
  cases current with
  | none => rfl
  | some current => cases current <;> first | rfl | exact settled.elim

/-- A section that only subscribes, lists or sends. -/
def Light : Section → Prop
  | .disconnectFeed _ => False
  | current => Settled (some current)

/-- A section that neither connects nor disconnects is quiet. -/
theorem quiet_section {current : Section} {after : Next} (light : Light current)
    (stepped : manager.sectionStep adapter current = some (next, after)) :
    Quiet manager next ∧ Settled after.section? := by
  have still : ∀ subscriptions nextReceiver, Quiet manager
      { manager with subscriptions := subscriptions, nextReceiver := nextReceiver } :=
    fun _ _ => ⟨rfl, ⟨_, rfl, rfl⟩, [], calm_nil, (List.append_nil _).symm⟩
  cases sectionStep_cases stepped with
  | healthy | unhealthy | checkHealthy | takenFirst | freeFirst | takenAgain | unbuilt | unknown
  | list | gone => exact ⟨.refl manager, trivial⟩
  | built | unattached | erase => exact ⟨still _ _, trivial⟩
  | attached request precision receiver parser events idle done =>
      exact ⟨⟨rfl, ⟨_, rfl, rfl⟩, events, calm_attach done, rfl⟩, trivial⟩
  | detached id subscription known =>
      have calm : Calm [.detached subscription.book.symbol] :=
        calm_singleton (fun same => Event.noConfusion same) fun _ same => Event.noConfusion same
      exact ⟨⟨rfl, ⟨_, rfl, rfl⟩, _, calm, rfl⟩, trivial⟩
  | sendRequests =>
      obtain ⟨same, _⟩ := Prod.mk.inj (Option.some.inj stepped)
      exact ⟨same ▸ .sendAll adapter manager, trivial⟩
  | sendSubscribe | sendUnsubscribe | resendSubscribe =>
      obtain ⟨same, _⟩ := Prod.mk.inj (Option.some.inj stepped)
      exact ⟨same ▸ .send adapter manager _ _, trivial⟩
  | resubscribe symbol id subscription connection found up =>
      simp only [sectionStep, found] at stepped
      rw [if_pos up] at stepped
      obtain ⟨same, _⟩ := Prod.mk.inj (Option.some.inj stepped)
      exact ⟨same ▸ .send adapter manager _ _, trivial⟩
  | _ => exact light.elim

namespace Standing

variable {current : Option Section}

/-- What is quiet leaves the manager standing. -/
theorem quiet (standing : Standing adapter manager current) (before : Settled current)
    (quiet : Quiet manager next) {later : Option Section} (settled : Settled later) :
    Standing adapter next later := by
  have between := quiet.whole (between_of_settled before ▸ standing.between)
  obtain ⟨connection, same, _⟩ := quiet.pipeline
  obtain ⟨events, calm, log⟩ := quiet.log
  refine ⟨between_of_settled settled ▸ between, ?_, ?_⟩
  · rw [same]
    exact ⟨standing.accounted.network, standing.accounted.parser⟩
  · rw [same, log, decodedSince_append _ calm]
    exact standing.grown

/-- The feed is told to stop. -/
theorem disconnectFeed {reconnect : Bool}
    (standing : Standing adapter manager (some (.disconnectFeed reconnect))) :
    Standing adapter
      { manager with pipeline := { manager.pipeline with
        feed := manager.pipeline.feed.requestStop } } (some (.joinFeed reconnect)) where
  between := trivial
  accounted := ⟨fun _ => .inr rfl, standing.accounted.parser⟩
  grown := standing.grown

/-- The network thread has ended. -/
theorem joinFeed {reconnect : Bool}
    (standing : Standing adapter manager (some (.joinFeed reconnect))) {feed : WebsocketFeed}
    (joined : manager.pipeline.feed.join = some feed) :
    Standing adapter { manager with pipeline := { manager.pipeline with feed := feed } }
      (some (.stopParser reconnect)) := by
  obtain rfl := WebsocketFeed.join_eq joined
  exact ⟨⟨rfl, rfl⟩, ⟨fun ended => (Option.some_ne_none _ ended.symm).elim,
    standing.accounted.parser⟩, standing.grown⟩

/-- The parser's thread is told to stop. -/
theorem stopParser {reconnect : Bool}
    (standing : Standing adapter manager (some (.stopParser reconnect))) :
    Standing adapter { manager with pipeline := manager.pipeline.requestStop }
      (some (.joinParser reconnect)) where
  between := standing.between
  accounted := ⟨standing.accounted.network, fun _ => .inr rfl⟩
  grown := standing.grown

/-- The parser's thread has ended. -/
theorem joinParser {reconnect : Bool}
    (standing : Standing adapter manager (some (.joinParser reconnect)))
    {pipeline : Pipeline Decoder} (joined : manager.pipeline.joinParser = some pipeline) :
    Standing adapter { manager with pipeline := pipeline } (some (.endConnection reconnect)) := by
  obtain ⟨_, rfl⟩ := joinParser_eq joined
  exact ⟨⟨standing.between.1, standing.between.2, rfl⟩,
    ⟨standing.accounted.network, fun ended => (Option.some_ne_none _ ended.symm).elim⟩,
    fun _ running => (Option.some_ne_none _ running.symm).elim⟩

/-- The old connection is over: every receiver is told, and a reconnect goes on. -/
theorem endConnection {reconnect : Bool}
    (standing : Standing adapter manager (some (.endConnection reconnect))) :
    Standing adapter manager.endConnection (if reconnect then some .startParser else none) := by
  obtain ⟨connection, network, parser⟩ := standing.between
  have down : Down manager.endConnection.pipeline := ⟨connection, network, parser, rfl⟩
  have between : manager.endConnection.Between (if reconnect then some .startParser else none) := by
    cases reconnect with
    | false => exact ⟨fun up => (Bool.false_ne_true up).elim, fun _ => down⟩
    | true => exact ⟨rfl, down⟩
  refine ⟨between, ⟨standing.accounted.network, standing.accounted.parser⟩, ?_⟩
  intro thread running
  exact (Option.some_ne_none thread (running.symm.trans parser)).elim

/-- The parser's thread is started, before the connection. -/
theorem startParser (standing : Standing adapter manager (some .startParser)) :
    Standing adapter (manager.startParser adapter) (some .connectFeed) := by
  obtain ⟨down, connection, network, _, frames⟩ := standing.between
  refine ⟨⟨down, connection, network, frames, Option.some_ne_none _, rfl⟩, ⟨?_, ?_⟩, ?_⟩
  · exact fun ended => (Option.some_ne_none _ (ended.symm.trans network)).elim
  · exact fun ended => (ParserThread.waiting_ne_ended adapter.makeDecoder ended).elim
  · intro thread running
    obtain rfl := Option.some.inj running
    rw [show (manager.startParser adapter).log = manager.log ++ [.started] from rfl,
      decodedSince_started]
    exact .new

/-- The connection is made. -/
theorem connectFeed (standing : Standing adapter manager (some .connectFeed)) :
    Standing adapter
      { manager with
        connected := true
        pipeline := { manager.pipeline with
          feed := .connect (connectionNumber manager.log) } } (some .sendRequests) := by
  obtain ⟨_, _, _, _, parser, parserStop⟩ := standing.between
  refine ⟨⟨fun _ => ⟨rfl, Option.some_ne_none _, rfl, rfl, parser, parserStop⟩,
    fun down => (Bool.false_ne_true down.symm).elim⟩,
    ⟨fun ended => NetworkThread.noConfusion (Option.some.inj ended), standing.accounted.parser⟩,
    standing.grown⟩

/-- The connection is refused. -/
theorem refuse (standing : Standing adapter manager (some .connectFeed)) (what : String) :
    Standing adapter { manager with pipeline := { manager.pipeline with feed := .refused } }
      (some (.stopRefused what)) := by
  obtain ⟨down, _, _, frames, _⟩ := standing.between
  exact ⟨⟨down, rfl, rfl, frames⟩,
    ⟨fun ended => (Option.some_ne_none _ ended.symm).elim, standing.accounted.parser⟩,
    standing.grown⟩

/-- After a refused connection the parser's thread is told to stop. -/
theorem stopRefused {what : String}
    (standing : Standing adapter manager (some (.stopRefused what))) :
    Standing adapter { manager with pipeline := manager.pipeline.requestStop }
      (some (.joinRefused what)) where
  between := standing.between
  accounted := ⟨standing.accounted.network, fun _ => .inr rfl⟩
  grown := standing.grown

/-- After a refused connection the parser's thread has ended. -/
theorem joinRefused {what : String}
    (standing : Standing adapter manager (some (.joinRefused what)))
    {pipeline : Pipeline Decoder} (joined : manager.pipeline.joinParser = some pipeline) :
    Standing adapter { manager with pipeline := pipeline } none := by
  obtain ⟨down, connection, network, frames⟩ := standing.between
  obtain ⟨_, rfl⟩ := joinParser_eq joined
  refine ⟨⟨fun up => (Bool.false_ne_true (down.symm.trans up)).elim,
    fun _ => ⟨connection, network, rfl, frames⟩⟩,
    ⟨standing.accounted.network, fun ended => (Option.some_ne_none _ ended.symm).elim⟩,
    fun _ running => (Option.some_ne_none _ running.symm).elim⟩

/-- What the holder of the lock does. -/
theorem step {current : Section} {after : Next}
    (standing : Standing adapter manager (some current))
    (stepped : manager.sectionStep adapter current = some (next, after)) :
    Standing adapter next after.section? := by
  have light (light : Light current) (settled : Settled (some current)) :
      Standing adapter next after.section? := by
    obtain ⟨quiet, later⟩ := quiet_section light stepped
    exact standing.quiet settled quiet later
  cases current with
  | disconnectFeed reconnect =>
      obtain ⟨rfl, rfl⟩ := Prod.mk.inj (Option.some.inj stepped)
      exact standing.disconnectFeed
  | joinFeed reconnect =>
      obtain ⟨feed, joined, same⟩ := Option.map_eq_some_iff.mp stepped
      obtain ⟨rfl, rfl⟩ := Prod.mk.inj same
      exact standing.joinFeed joined
  | stopParser reconnect =>
      obtain ⟨rfl, rfl⟩ := Prod.mk.inj (Option.some.inj stepped)
      exact standing.stopParser
  | joinParser reconnect =>
      obtain ⟨pipeline, joined, same⟩ := Option.map_eq_some_iff.mp stepped
      obtain ⟨rfl, rfl⟩ := Prod.mk.inj same
      exact standing.joinParser joined
  | endConnection reconnect =>
      obtain ⟨rfl, rfl⟩ := Prod.mk.inj (Option.some.inj stepped)
      cases reconnect <;> exact standing.endConnection
  | startParser =>
      obtain ⟨rfl, rfl⟩ := Prod.mk.inj (Option.some.inj stepped)
      exact standing.startParser
  | connectFeed =>
      obtain ⟨rfl, rfl⟩ := Prod.mk.inj (Option.some.inj stepped)
      exact standing.connectFeed
  | stopRefused what =>
      obtain ⟨rfl, rfl⟩ := Prod.mk.inj (Option.some.inj stepped)
      exact standing.stopRefused
  | joinRefused what =>
      obtain ⟨pipeline, joined, same⟩ := Option.map_eq_some_iff.mp stepped
      obtain ⟨rfl, rfl⟩ := Prod.mk.inj same
      exact standing.joinRefused joined
  | _ => exact light trivial trivial

end Standing

/-- What a step of the network thread keeps. -/
structure NetworkMoves (pipeline next : Pipeline Decoder) : Prop where
  running : pipeline.feed.thread ≠ none
  feed : ∃ thread, next.feed = { pipeline.feed with thread := some thread } ∧
    (thread = .ended → next.failed = true ∨ pipeline.feed.stop = true)
  failed : pipeline.failed = true → next.failed = true
  parser : next.parserThread = pipeline.parserThread ∧ next.parserStop = pipeline.parserStop

/-- What a step of the network thread does, by cases. -/
theorem networkStep_moves {pipeline next : Pipeline Decoder} {action : NetworkStep}
    (moved : pipeline.networkStep action = some next) : NetworkMoves pipeline next := by
  have running {thread : NetworkThread} (stands : pipeline.feed.thread = some thread) :
      pipeline.feed.thread ≠ none := stands ▸ Option.some_ne_none thread
  cases action with
  | read frame =>
      simp only [Pipeline.networkStep] at moved
      split at moved
      · rename_i reading
        obtain rfl := Option.some.inj moved
        exact ⟨running reading, ⟨_, rfl, NetworkThread.noConfusion⟩, fun failed => failed, rfl, rfl⟩
      · contradiction
  | push =>
      simp only [Pipeline.networkStep] at moved
      split at moved
      · rename_i frame pushing
        split at moved
        · obtain rfl := Option.some.inj moved
          exact ⟨running pushing, ⟨_, rfl, NetworkThread.noConfusion⟩, fun failed => failed, rfl,
            rfl⟩
        · contradiction
      · contradiction
  | giveUp =>
      simp only [Pipeline.networkStep] at moved
      split at moved
      · rename_i frame pushing
        split at moved
        · obtain rfl := Option.some.inj moved
          exact ⟨running pushing, ⟨_, rfl, NetworkThread.noConfusion⟩, fun failed => failed, rfl,
            rfl⟩
        · contradiction
      · contradiction
  | stop =>
      simp only [Pipeline.networkStep] at moved
      split at moved
      · rename_i reading
        split at moved
        · rename_i told
          obtain rfl := Option.some.inj moved
          exact ⟨running reading, ⟨_, rfl, fun _ => .inr told⟩, fun failed => failed, rfl, rfl⟩
        · contradiction
      · contradiction
  | fail =>
      simp only [Pipeline.networkStep] at moved
      split at moved
      · rename_i reading
        obtain rfl := Option.some.inj moved
        exact ⟨running reading, ⟨_, rfl, fun _ => .inl rfl⟩, fun _ => rfl, rfl, rfl⟩
      · contradiction

/-- What a step of the parser's thread keeps. -/
structure ParserMoves (adapter : Adapter Decoder) (manager next : L2Manager Decoder) : Prop where
  connected : next.connected = manager.connected
  feed : next.pipeline.feed = manager.pipeline.feed
  stop : next.pipeline.parserStop = manager.pipeline.parserStop
  running : manager.pipeline.parserThread ≠ none
  runs : next.pipeline.parserThread ≠ none
  frames : manager.pipeline.frames = [] → next.pipeline.frames = []
  number : connectionNumber next.log = connectionNumber manager.log
  failed : manager.pipeline.failed = true → next.pipeline.failed = true
  ended : next.pipeline.parserThread = some .ended →
    next.pipeline.failed = true ∨ next.pipeline.parserStop = true
  grown : (∀ thread, manager.pipeline.parserThread = some thread →
      Grown adapter (decodedSince manager.log) thread) →
    ∀ thread, next.pipeline.parserThread = some thread →
      Grown adapter (decodedSince next.log) thread

/-- What a step of the parser's thread does, by cases. -/
theorem parserStep_moves (moved : manager.parserStep adapter = some next) :
    ParserMoves adapter manager next := by
  have running {thread : ParserThread Decoder}
      (stands : manager.pipeline.parserThread = some thread) :
      manager.pipeline.parserThread ≠ none := stands ▸ Option.some_ne_none thread
  cases parserStep_cases moved with
  | decode decoder connection frame rest waiting frames =>
      refine ⟨rfl, rfl, rfl, running waiting, Option.some_ne_none _, fun empty => empty, ?_,
        fun failed => failed, fun ended => (ParserThread.decoding_ne_ended _ ended).elim, ?_⟩
      · rw [connectionNumber, List.countP_append]
        rfl
      · intro grown thread stands
        obtain rfl := Option.some.inj stands
        rw [decodedSince_decoded]
        exact .decode frame (grown _ waiting)
  | exit decoder waiting =>
      refine ⟨rfl, rfl, rfl, running waiting, Option.some_ne_none _, fun empty => empty, rfl,
        fun failed => failed, fun _ => .inr ?_, ?_⟩
      · simp only [parserStep, waiting] at moved
        split at moved
        · have changed := congrArg (fun next => next.pipeline.parserThread) (Option.some.inj moved)
          exact (ParserThread.decoding_ne_ended _ changed).elim
        · split at moved
          · assumption
          · contradiction
      · intro grown thread stands
        obtain rfl := Option.some.inj stands
        exact .ended (grown _ waiting)
  | find symbol type rest decoding =>
      refine ⟨rfl, rfl, rfl, running decoding, Option.some_ne_none _, fun empty => empty, rfl,
        fun failed => failed, fun ended => (ParserThread.decoding_ne_ended _ ended).elim, ?_⟩
      intro grown thread stands
      obtain rfl := Option.some.inj stands
      exact .find _ (grown _ decoding)
  | emit message rest decoding =>
      refine ⟨rfl, rfl, rfl, running decoding, Option.some_ne_none _, fun empty => empty,
        connectionNumber_append _ (calm_emit manager.parser message), fun failed => failed,
        fun ended => (ParserThread.decoding_ne_ended _ ended).elim, ?_⟩
      intro grown thread stands
      obtain rfl := Option.some.inj stands
      rw [decodedSince_append _ (calm_emit manager.parser message)]
      exact .emit (grown _ decoding)
  | done decoder decoding =>
      refine ⟨rfl, rfl, rfl, running decoding, Option.some_ne_none _, ?_, rfl,
        fun failed => failed, fun ended => (ParserThread.waiting_ne_ended _ ended).elim, ?_⟩
      · exact fun empty => congrArg List.tail empty
      · intro grown thread stands
        obtain rfl := Option.some.inj stands
        exact .done (grown _ decoding)
  | fail what decoding =>
      refine ⟨rfl, rfl, rfl, running decoding, Option.some_ne_none _, fun empty => empty, rfl,
        fun _ => rfl, fun _ => .inl rfl, ?_⟩
      intro grown thread stands
      obtain rfl := Option.some.inj stands
      exact .ended (grown _ decoding)

namespace Standing

variable {current : Option Section}

/-- The network thread's steps leave the manager standing. -/
theorem network {pipeline : Pipeline Decoder} (standing : Standing adapter manager current)
    (moves : NetworkMoves manager.pipeline pipeline) :
    Standing adapter { manager with pipeline := pipeline } current := by
  obtain ⟨running, ⟨thread, feed, ended⟩, failed, parser, parserStop⟩ := moves
  refine ⟨?_, ⟨?_, ?_⟩, ?_⟩
  · have settled (stands : manager.Whole) : Whole { manager with pipeline := pipeline } := by
      refine ⟨fun up => ?_, fun down => (running (stands.2 down).network).elim⟩
      have up := stands.1 up
      refine ⟨?_, ?_, ?_, ?_, parser.symm ▸ up.parser, parserStop.trans up.parserStop⟩
      · exact (congrArg (Option.isSome ·.connection) feed).trans up.connection
      · exact (congrArg WebsocketFeed.thread feed).trans_ne (Option.some_ne_none thread)
      · exact (congrArg WebsocketFeed.number feed).trans up.number
      · exact (congrArg WebsocketFeed.stop feed).trans up.networkStop
    have between := standing.between
    cases current with
    | none => exact settled between
    | some current =>
        cases current with
        | joinFeed => trivial
        | stopParser | joinParser => exact (running between.2).elim
        | endConnection => exact (running between.2.1).elim
        | startParser => exact (running between.2.network).elim
        | connectFeed | stopRefused | joinRefused => exact (running between.2.2.1).elim
        | _ => exact settled between
  · intro stands
    rw [feed] at stands ⊢
    exact ended (Option.some.inj stands)
  · intro stands
    rw [parser] at stands
    rw [parserStop]
    exact (standing.accounted.parser stands).imp failed id
  · exact fun stands running => standing.grown stands (parser.symm.trans running)

/-- So do the parser's. -/
theorem parse (standing : Standing adapter manager current)
    (moves : ParserMoves adapter manager next) : Standing adapter next current := by
  have running := moves.running
  refine ⟨?_, ⟨?_, moves.ended⟩, moves.grown standing.grown⟩
  · have settled (stands : manager.Whole) : next.Whole := by
      unfold Whole
      rw [moves.connected]
      refine ⟨fun up => ?_, fun down => (running (stands.2 down).parser).elim⟩
      have up := stands.1 up
      refine ⟨?_, ?_, ?_, ?_, moves.runs, moves.stop.trans up.parserStop⟩
      · exact moves.feed.symm ▸ up.connection
      · exact moves.feed.symm ▸ up.network
      · rw [moves.number, moves.feed]
        exact up.number
      · exact moves.feed.symm ▸ up.networkStop
    have between := standing.between
    cases current with
    | none => exact settled between
    | some current =>
        cases current with
        | joinFeed => trivial
        | stopParser | joinParser =>
            unfold Between
            rw [moves.feed]
            exact between
        | endConnection => exact (running between.2.2).elim
        | startParser => exact (running between.2.parser).elim
        | connectFeed =>
            obtain ⟨down, connection, network, frames, _, parserStop⟩ := between
            unfold Between
            rw [moves.connected, moves.feed, moves.stop]
            exact ⟨down, connection, network, moves.frames frames, moves.runs, parserStop⟩
        | stopRefused | joinRefused =>
            obtain ⟨down, connection, network, frames⟩ := between
            unfold Between
            rw [moves.connected, moves.feed]
            exact ⟨down, connection, network, moves.frames frames⟩
        | _ => exact settled between
  · intro stands
    rw [moves.feed] at stands ⊢
    exact (standing.accounted.network stands).imp moves.failed id

/-- A new manager stands, with nothing connected. -/
theorem init : Standing adapter (L2Manager.init adapter) none := by
  refine ⟨⟨fun up => (Bool.false_ne_true up).elim, fun _ => ⟨rfl, rfl, rfl, rfl⟩⟩, ⟨?_, ?_⟩, ?_⟩
  · exact fun ended => (Option.some_ne_none _ ended.symm).elim
  · exact fun ended => (Option.some_ne_none _ ended.symm).elim
  · exact fun _ running => (Option.some_ne_none _ running.symm).elim

/-- Taking the lock leaves the manager standing. -/
theorem entry {begun : Section} (standing : Standing adapter manager none) (begins : Entry begun) :
    Standing adapter manager (some begun) := by
  have settled : Settled (some begun) := by
    cases begun <;> trivial
  exact ⟨between_of_settled settled ▸ standing.between, standing.accounted, standing.grown⟩

/-- The manager stands in every reachable state. -/
theorem of_reachable (reachable : (system adapter).Reachable manager) :
    Standing adapter manager manager.current := by
  apply invariant_of_actions reachable init
  · exact fun manager current lock calls history resubscriber standing =>
      ⟨standing.between, standing.accounted, standing.grown⟩
  · exact fun manager begun begins standing => standing.entry begins
  · exact fun manager current next after standing stepped => standing.step stepped
  · exact fun manager what standing => standing.refuse what
  · exact fun manager current action pipeline standing moved =>
      standing.network (networkStep_moves moved)
  · exact fun manager current next standing moved => standing.parse (parserStep_moves moved)

end Standing

/-- The sections of `Connect`. -/
def Connecting : Section → Prop
  | .connect | .disconnectFeed true | .joinFeed true | .stopParser true | .joinParser true
  | .endConnection true | .startParser | .connectFeed | .stopRefused _ | .joinRefused _
  | .sendRequests => True
  | _ => False

/-- A call of `Connect` since it has taken the lock. -/
structure Connects (call : Nat) (start manager : L2Manager Decoder) : Prop where
  kept : manager.subscriptions = start.subscriptions
  held : ∀ holder current, manager.lock = some (holder, current) →
    holder = .call call ∧ Connecting current ∧ manager.calls call = some .inside
  thrown : ∀ what, manager.calls call = some (.ending (.thrown what)) →
    manager.lock = none ∧ manager.connected = false

/-- What a step of `Connect` does besides the connection. -/
structure ConnectMoves (manager : L2Manager Decoder) (current : Section)
    (next : L2Manager Decoder) (after : Next) : Prop where
  kept : next.subscriptions = manager.subscriptions
  calls : next.calls = manager.calls
  goes : ∀ further, after = .goOn further → Connecting further
  throws : ∀ state, after = .release state → ∀ what, state = .ending (.thrown what) →
    current = .joinRefused what ∧ next.connected = manager.connected

/-- What a connecting section does, by cases. -/
theorem connectMoves {current : Section} {after : Next} (connecting : Connecting current)
    (stepped : SectionStep adapter manager current next after) :
    ConnectMoves manager current next after := by
  have goOn {further : Section} (within : Connecting further) :
      ∀ other, Next.goOn further = .goOn other → Connecting other :=
    fun _ same => Next.goOn.inj same ▸ within
  have stays {further : Section} : ∀ state, Next.goOn further = .release state →
      ∀ what, state = .ending (.thrown what) →
        current = .joinRefused what ∧ next.connected = manager.connected :=
    fun _ same => Next.noConfusion same
  have ends {state : CallState} : ∀ further, Next.release state = .goOn further →
      Connecting further := fun _ same => Next.noConfusion same
  have done : ∀ state, Next.release (.ending .done) = .release state →
      ∀ what, state = .ending (.thrown what) →
        current = .joinRefused what ∧ next.connected = manager.connected := by
    intro state same what thrown
    obtain rfl := Next.release.inj same
    exact Outcome.noConfusion (CallState.ending.inj thrown)
  cases stepped with
  | healthy => exact ⟨rfl, rfl, ends, done⟩
  | unhealthy => exact ⟨rfl, rfl, goOn trivial, stays⟩
  | disconnectFeed reconnect | joinFeed reconnect | stopParser reconnect | joinParser reconnect =>
      cases reconnect with
      | true => exact ⟨rfl, rfl, goOn trivial, stays⟩
      | false => exact connecting.elim
  | endConnection reconnect _ _ goes =>
      cases reconnect with
      | true =>
          obtain rfl := goes
          exact ⟨rfl, rfl, goOn trivial, stays⟩
      | false => exact connecting.elim
  | startParser | connectFeed | stopRefused => exact ⟨rfl, rfl, goOn trivial, stays⟩
  | joinRefused what =>
      refine ⟨rfl, rfl, ends, ?_⟩
      intro state same other thrown
      obtain rfl := Next.release.inj same
      obtain rfl := Outcome.thrown.inj (CallState.ending.inj thrown)
      exact ⟨rfl, rfl⟩
  | sendRequests => exact ⟨rfl, rfl, ends, done⟩
  | _ => exact connecting.elim

/-- No call ends in an exception before it takes the lock. -/
theorem begin_ne_thrown (adapter : Adapter Decoder) (operation : Operation) (what : String) :
    begin adapter operation ≠ .ending (.thrown what) := by
  intro thrown
  cases operation with
  | subscribe request =>
      simp only [begin] at thrown
      split at thrown
      · exact Outcome.noConfusion (CallState.ending.inj thrown)
      · exact CallState.noConfusion thrown
  | _ => exact CallState.noConfusion thrown

namespace Connects

variable {call : Nat} {start : L2Manager Decoder}

/-- What is no part of the call, and what happens to other calls. -/
theorem beside (connects : Connects call start manager)
    (subscriptions : next.subscriptions = manager.subscriptions)
    (connected : next.connected = manager.connected) (lock : next.lock = manager.lock)
    (calls : next.calls call = manager.calls call) : Connects call start next where
  kept := subscriptions.trans connects.kept
  held := by
    rw [lock, calls]
    exact connects.held
  thrown := by
    rw [lock, calls, connected]
    exact connects.thrown

/-- What happens to the call while it does not hold the lock. -/
theorem outside (connects : Connects call start manager) {after : CallState}
    (apart : manager.calls call ≠ some .inside)
    (quiet : ∀ what, after ≠ .ending (.thrown what))
    (history : List (CallEvent Operation Outcome)) :
    Connects call start
      { manager with
        calls := Function.update manager.calls call (some after)
        history := history } where
  kept := connects.kept
  held holder current held := (apart (connects.held holder current held).2.2).elim
  thrown what thrown := by
    dsimp only at thrown
    rw [Function.update_self] at thrown
    exact (quiet what (Option.some.inj thrown)).elim

/-- A section of the connecting call keeps what is known of it. -/
theorem run {holder : Holder} {current : Section} {after : Next}
    (connects : Connects call start manager)
    (standing : Standing adapter manager (some current))
    (holds : manager.lock = some (holder, current))
    (stepped : SectionStep adapter manager current next after) :
    Connects call start (next.settle holder after) := by
  obtain ⟨rfl, connecting, inside⟩ := connects.held holder current holds
  have moves := connectMoves connecting stepped
  cases after with
  | goOn further =>
      refine ⟨moves.kept.trans connects.kept, ?_, ?_⟩
      · intro holder section_ held
        obtain ⟨rfl, rfl⟩ := Prod.mk.inj (Option.some.inj held)
        exact ⟨rfl, moves.goes _ rfl, (congrFun moves.calls call).trans inside⟩
      · intro what thrown
        have still : next.calls call = some (.ending (.thrown what)) := thrown
        rw [moves.calls, inside] at still
        exact CallState.noConfusion (Option.some.inj still)
  | release state =>
      refine ⟨moves.kept.trans connects.kept, ?_, ?_⟩
      · exact fun _ _ held => (Option.some_ne_none _ held.symm).elim
      · intro what thrown
        simp only [settle, Function.update_self] at thrown
        obtain ⟨rfl, connected⟩ := moves.throws state rfl what (Option.some.inj thrown)
        exact ⟨rfl, connected.trans standing.between.1⟩

/-- So does any step as long as nobody else takes the lock. -/
theorem step {action : Action} (connects : Connects call start manager)
    (standing : Standing adapter manager manager.current)
    (within : ∀ holder, action ≠ .acquire holder)
    (stepped : L2Manager.step adapter manager action = some next) :
    Connects call start next := by
  cases action with
  | acquire holder => exact (within holder rfl).elim
  | invoke other operation =>
      simp only [L2Manager.step] at stepped
      split at stepped
      · contradiction
      · rename_i fresh
        obtain rfl := Option.some.inj stepped
        by_cases same : call = other
        · subst same
          refine connects.outside ?_ (begin_ne_thrown adapter operation) _
          exact fun inside => Option.some_ne_none _ (inside.symm.trans fresh)
        · exact connects.beside rfl rfl rfl (Function.update_of_ne same _ _)
  | run =>
      simp only [L2Manager.step] at stepped
      split at stepped
      · contradiction
      · rename_i holder current holds
        obtain ⟨⟨middle, after⟩, moved, rfl⟩ := Option.map_eq_some_iff.mp stepped
        unfold L2Manager.current at standing
        rw [holds] at standing
        exact connects.run standing holds (sectionStep_cases moved)
  | refuse what =>
      simp only [L2Manager.step] at stepped
      split at stepped
      · rename_i holder holds
        obtain rfl := Option.some.inj stepped
        obtain ⟨rfl, _, inside⟩ := connects.held _ _ holds
        refine ⟨connects.kept, ?_, ?_⟩
        · intro holder section_ held
          obtain ⟨rfl, rfl⟩ := Prod.mk.inj (Option.some.inj held)
          exact ⟨rfl, trivial, inside⟩
        · intro other thrown
          exact CallState.noConfusion (Option.some.inj (inside.symm.trans thrown))
      · contradiction
  | fetch other =>
      simp only [L2Manager.step] at stepped
      split at stepped
      · rename_i request fetching
        obtain rfl := Option.some.inj stepped
        by_cases same : call = other
        · subst same
          refine connects.outside ?_ ?_ _
          · exact fun inside =>
              CallState.noConfusion (Option.some.inj (fetching.symm.trans inside))
          · intro what thrown
            split at thrown
            · exact Outcome.noConfusion (CallState.ending.inj thrown)
            · exact CallState.noConfusion thrown
        · exact connects.beside rfl rfl rfl (Function.update_of_ne same _ _)
      · contradiction
  | respond other =>
      simp only [L2Manager.step] at stepped
      split at stepped
      · rename_i outcome ending
        obtain rfl := Option.some.inj stepped
        by_cases same : call = other
        · subst same
          refine connects.outside ?_ (fun _ => CallState.noConfusion) _
          exact fun inside => CallState.noConfusion (Option.some.inj (ending.symm.trans inside))
        · exact connects.beside rfl rfl rfl (Function.update_of_ne same _ _)
      · contradiction
  | network moved =>
      obtain ⟨pipeline, _, rfl⟩ := Option.map_eq_some_iff.mp stepped
      exact connects.beside rfl rfl rfl rfl
  | parse =>
      cases parserStep_cases stepped <;> exact connects.beside rfl rfl rfl rfl
  | resubscribe =>
      obtain ⟨resubscriber, _, rfl⟩ := Option.map_eq_some_iff.mp stepped
      exact connects.beside rfl rfl rfl rfl
  | tick elapsed =>
      obtain rfl := Option.some.inj stepped
      exact connects.beside rfl rfl rfl rfl

end Connects

/-- A `Connect` that throws leaves the manager disconnected with its subscriptions. -/
theorem thrown_disconnected (reachable : (system adapter).Reachable manager) {call : Nat}
    {actions : List Action} {what : String}
    (begun : manager.lock = some (.call call, .connect))
    (within : ∀ holder, Action.acquire holder ∉ actions)
    (reached : (system adapter).runFrom manager actions = some next)
    (thrown : next.calls call = some (.ending (.thrown what))) :
    next.lock = none ∧ next.connected = false ∧ Down next.pipeline ∧
      next.subscriptions = manager.subscriptions := by
  have initial : Connects call manager manager := by
    have inside := inside_of_held reachable begun
    refine ⟨rfl, ?_, ?_⟩
    · intro holder current held
      obtain ⟨rfl, rfl⟩ := Prod.mk.inj (Option.some.inj (begun.symm.trans held))
      exact ⟨rfl, trivial, inside⟩
    · intro what thrown
      exact CallState.noConfusion (Option.some.inj (inside.symm.trans thrown))
  have step : ∀ state action after, (∀ holder, action ≠ Action.acquire holder) →
      (system adapter).Reachable state ∧ Connects call manager state →
        (system adapter).step state action = some after →
          (system adapter).Reachable after ∧ Connects call manager after := by
    intro state action after apart ⟨reachable, connects⟩ stepped
    exact ⟨reachable.step stepped,
      connects.step (Standing.of_reachable reachable) apart stepped⟩
  obtain ⟨still, connects⟩ := System.runFrom_invariant step ⟨reachable, initial⟩
    (fun action member holder same => within holder (same ▸ member)) reached
  obtain ⟨free, down⟩ := connects.thrown what thrown
  have standing := Standing.of_reachable still
  rw [current, free] at standing
  exact ⟨free, down, standing.between.2 down, connects.kept⟩

/-- **A manager is always fully connected or fully disconnected.** Whenever the lock is
free a connected manager has a connection, its parser runs with a decoder made for it, both
threads were started, and one that ended by itself has marked the pipeline failed; a
disconnected one has no connection, no thread and no frame. The parser is started and the
status reset only while neither thread exists, and the feed connects only while
disconnected. `Connect` changes nothing of a healthy manager, and leaves the manager
disconnected with every subscription when it throws. -/
theorem connected_or_disconnected (reachable : (system adapter).Reachable manager) :
    (manager.lock = none →
      (manager.connected = true →
        Up manager.pipeline (connectionNumber manager.log) ∧
          (∀ thread, manager.pipeline.parserThread = some thread →
            Grown adapter (decodedSince manager.log) thread) ∧
          (manager.pipeline.feed.thread = some .ended → manager.pipeline.failed = true) ∧
          (manager.pipeline.parserThread = some .ended → manager.pipeline.failed = true)) ∧
      (manager.connected = false → Down manager.pipeline)) ∧
    (∀ holder, manager.lock = some (holder, .startParser) →
      manager.pipeline.parserThread = none ∧ manager.pipeline.feed.thread = none) ∧
    (∀ holder, manager.lock = some (holder, .connectFeed) →
      manager.pipeline.feed.connection = none ∧ manager.pipeline.feed.thread = none) ∧
    (∀ call, manager.lock = some (.call call, .connect) → manager.connected = true →
      manager.pipeline.failed = false →
        step adapter manager .run = some { manager with
          lock := none
          calls := Function.update manager.calls call (some (.ending .done)) }) ∧
    (∀ call actions next what, manager.lock = some (.call call, .connect) →
      (∀ holder, Action.acquire holder ∉ actions) →
        (system adapter).runFrom manager actions = some next →
          next.calls call = some (.ending (.thrown what)) →
            next.lock = none ∧ next.connected = false ∧ Down next.pipeline ∧
              next.subscriptions = manager.subscriptions) := by
  have standing := Standing.of_reachable reachable
  refine ⟨?_, ?_, ?_, ?_, ?_⟩
  · intro free
    rw [current, free] at standing
    obtain ⟨⟨up, down⟩, accounted, grown⟩ := standing
    refine ⟨fun connected => ⟨up connected, grown, ?_, ?_⟩, down⟩
    · intro ended
      refine (accounted.network ended).resolve_right fun told => ?_
      exact Bool.false_ne_true ((up connected).networkStop.symm.trans told)
    · intro ended
      refine (accounted.parser ended).resolve_right fun told => ?_
      exact Bool.false_ne_true ((up connected).parserStop.symm.trans told)
  · intro holder held
    rw [current, held] at standing
    exact ⟨standing.between.2.parser, standing.between.2.network⟩
  · intro holder held
    rw [current, held] at standing
    exact ⟨standing.between.2.1, standing.between.2.2.1⟩
  · intro call held connected healthy
    simp only [step, held, sectionStep, connected, healthy, Bool.false_eq_true, not_false_eq_true,
      and_self, ↓reduceIte, Option.map_some, settle]
  · exact fun call actions next what begun within reached thrown =>
      thrown_disconnected reachable begun within reached thrown

/-- A `Connect` whose feed throws, and the one that is tried next. -/
theorem connected_or_disconnected_retried :
    let adapter : Adapter Unit :=
      { name := "kraken", depths := [10], bookChecksum := none
        checkSymbol := fun _ => .ok (), connectRequests := []
        makeBookRequest := fun _ book => book.symbol, makeDecoder := ()
        decode := fun decoder _ => .done decoder }
    let fails : List Action :=
      List.replicate 7 .run ++ [.refuse "no route to host", .run, .parse, .run]
    ∃ begun thrown up : L2Manager Unit,
      (system adapter).run [.invoke 0 .connect, .acquire (.call 0)] = some begun ∧
      (system adapter).runFrom begun fails = some thrown ∧
      thrown.lock = none ∧ thrown.connected = false ∧ Down thrown.pipeline ∧
      (system adapter).runFrom thrown
        ([.respond 0, .invoke 1 .connect, .acquire (.call 1)] ++ List.replicate 9 .run) =
        some up ∧
      up.connected = true ∧ Up up.pipeline 2 := by
  intro adapter fails
  have ran : ((system adapter).run [.invoke 0 .connect, .acquire (.call 0)]).bind
      (fun begun => ((system adapter).runFrom begun fails).bind fun thrown =>
        ((system adapter).runFrom thrown
          ([.respond 0, .invoke 1 .connect, .acquire (.call 1)] ++ List.replicate 9 .run)).map
        fun up => (up.lock.isNone, up.connected, connectionNumber up.log)) =
      some (true, true, 2) := by
    decide
  obtain ⟨begun, began, rest⟩ := Option.bind_eq_some_iff.mp ran
  obtain ⟨thrown, failed, rest⟩ := Option.bind_eq_some_iff.mp rest
  obtain ⟨up, again, seen⟩ := Option.map_eq_some_iff.mp rest
  obtain ⟨free, connected, number⟩ : up.lock.isNone = true ∧ up.connected = true ∧
      connectionNumber up.log = 2 := by
    simpa only [Prod.mk.injEq] using seen
  have reachable : (system adapter).Reachable begun := ⟨_, began⟩
  have inside : begun.lock = some (.call 0, .connect) := by
    obtain rfl := Option.some.inj began
    rfl
  have threw : thrown.calls 0 = some (.ending (.thrown "no route to host")) := by
    obtain rfl := Option.some.inj began
    obtain rfl := Option.some.inj failed
    rfl
  have unlocked : ∀ holder, Action.acquire holder ∉ fails := by
    intro holder member
    simp only [fails, List.mem_append, List.mem_replicate, List.mem_cons, List.not_mem_nil,
      reduceCtorEq, or_false, and_false] at member
  obtain ⟨_, _, _, _, throws⟩ := connected_or_disconnected reachable
  obtain ⟨released, down, nothing, _⟩ := throws 0 fails thrown _ inside unlocked failed threw
  obtain ⟨whole, _⟩ := connected_or_disconnected ((reachable.runFrom failed).runFrom again)
  refine ⟨begun, thrown, up, began, failed, released, down, nothing, again, connected, ?_⟩
  exact number ▸ ((whole (Option.isNone_iff_eq_none.mp free)).1 connected).1

end L2Manager

end DataFeed.Venue
