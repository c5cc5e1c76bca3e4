import DataFeed.Venue.FeedContract
import DataFeed.Venue.LifeCycle

/-! # The manager keeps its side of the contract with its feed

A feed must be disconnected when it is connected, and its calls must not run alongside one
another: a manager's callers and its resubscriber take the life cycle lock for that, and
the feed's queue and status are begun anew while no thread uses them. So whatever the
callers, the threads and the venue do, what a manager does with its feed is allowed.
-/

namespace DataFeed.Venue

open Foundation L2 Net DataFeed.Core

namespace L2Manager

variable {Decoder : Type} (adapter : Adapter Decoder) (manager : L2Manager Decoder)

/-- What a request for a book is to the feed. -/
def sends (request : BookRequest) (book : BookSpec) : List FeedPart.Move :=
  if manager.connected then [.send (adapter.makeBookRequest request book)] else []

/-- What a locked section does with the feed. -/
def sectionShows : Section → List FeedPart.Move
  | .disconnectFeed _ => [.requestStop]
  | .joinFeed _ => [.join]
  | .endConnection _ => [.discard]
  | .startParser => [.reset]
  | .connectFeed => [.connect (connectionNumber manager.log)]
  | .sendRequests =>
      adapter.connectRequests.map .send ++
        (manager.subscriptions.entries.map fun entry => entry.2.book).flatMap
          (manager.sends adapter .subscribe)
  | .sendSubscribe request => manager.sends adapter .subscribe request.book
  | .sendUnsubscribe _ book => manager.sends adapter .unsubscribe book
  | .resubscribe symbol =>
      match findSymbol manager.subscriptions symbol with
      | none => []
      | some (_, subscription) => manager.sends adapter .unsubscribe subscription.book
  | .resendSubscribe _ book => manager.sends adapter .subscribe book
  | .connect | .stopParser _ | .joinParser _ | .stopRefused _ | .joinRefused _ | .healthy
  | .resolveFirst _ | .resolveAgain _ _ | .attach _ _ _ | .unsubscribe _ | .erase _ | .list => []

/-- What a step does with the feed. -/
def shows : Action → List FeedPart.Move
  | .run => (manager.current.map (manager.sectionShows adapter)).getD []
  | .refuse _ => [.refuse]
  | .network step => [.network step]
  | .parse =>
      match manager.pipeline.parserThread with
      | some (.decoding (.done _)) => [.consume]
      | some (.decoding (.fail _)) => [.fail]
      | _ => []
  | .invoke _ _ | .acquire _ | .fetch _ | .respond _ | .resubscribe | .tick _ => []

variable {adapter manager} {next : L2Manager Decoder} {current : Option Section}

/-! ## What the threads leave to one another -/

/-- The frame that is decoded is in the queue, and a thread that is waited for was told to
stop. -/
structure Owned (manager : L2Manager Decoder) (current : Option Section) : Prop where
  busy : manager.pipeline.decoding = true → manager.pipeline.frames ≠ []
  stopping : ∀ reconnect, current = some (.joinFeed reconnect) → manager.pipeline.feed.stop = true

namespace Owned

theorem init : Owned (L2Manager.init adapter) none :=
  ⟨fun decoding => Bool.noConfusion decoding, fun _ none => (Option.some_ne_none _ none.symm).elim⟩

/-- A section that leaves the queue and the parser's thread alone, and waits for no thread. -/
theorem same (owned : Owned manager current) {after : Option Section}
    (parser : next.pipeline.parserThread = manager.pipeline.parserThread)
    (frames : next.pipeline.frames = manager.pipeline.frames)
    (apart : ∀ reconnect, after ≠ some (.joinFeed reconnect)) : Owned next after := by
  refine ⟨fun decoding => ?_, fun reconnect waits => (apart reconnect waits).elim⟩
  rw [frames]
  apply owned.busy
  unfold Pipeline.decoding at decoding ⊢
  rwa [← parser]

/-- No frame is decoded without a parser's thread that has begun one. -/
theorem idle {after : Option Section} (still : next.pipeline.decoding = false)
    (apart : ∀ reconnect, after ≠ some (.joinFeed reconnect)) : Owned next after :=
  ⟨fun decoding => Bool.noConfusion (still.symm.trans decoding),
    fun reconnect waits => (apart reconnect waits).elim⟩

theorem locked {section_ : Section} {after : Next}
    (standing : Standing adapter manager (some section_)) (owned : Owned manager (some section_))
    (moved : SectionStep adapter manager section_ next after) : Owned next after.section? := by
  cases moved with
  | disconnectFeed reconnect => exact ⟨owned.busy, fun _ _ => rfl⟩
  | joinParser reconnect idle => exact .idle rfl (by simp [Next.section?])
  | joinRefused what idle => exact .idle rfl (by simp [Next.section?])
  | endConnection reconnect next goes same =>
      have none : manager.pipeline.parserThread = none := standing.between.2.2
      apply Owned.idle
      · simp only [L2Manager.endConnection, Pipeline.decoding, none]
      · intro again waits
        rw [goes] at waits
        cases reconnect <;> simp at waits
  | startParser => exact .idle rfl (by simp [Next.section?])
  | _ => exact owned.same rfl rfl (by simp [Next.section?])

theorem of_reachable (reachable : (system adapter).Reachable manager) :
    Owned manager manager.current := by
  have both : Standing adapter manager manager.current ∧ Owned manager manager.current := by
    refine @invariant_of_actions Decoder adapter manager
      (fun manager current => Standing adapter manager current ∧ Owned manager current) reachable
      ⟨Standing.init, init⟩ ?_ ?_ ?_ ?_ ?_ ?_
    · intro manager current lock calls history resubscriber held
      obtain ⟨standing, owned⟩ := held
      exact ⟨⟨standing.between, standing.accounted, standing.grown⟩, owned.busy, owned.stopping⟩
    · intro manager begun begins held
      obtain ⟨standing, owned⟩ := held
      refine ⟨standing.entry begins, owned.same rfl rfl fun reconnect waits => ?_⟩
      rw [Option.some.inj waits] at begins
      exact begins
    · intro manager current next after held stepped
      obtain ⟨standing, owned⟩ := held
      exact ⟨standing.step stepped, owned.locked standing (sectionStep_cases stepped)⟩
    · intro manager what held
      obtain ⟨standing, owned⟩ := held
      exact ⟨standing.refuse what, owned.same rfl rfl (by simp)⟩
    · intro manager current action pipeline held moved
      obtain ⟨standing, owned⟩ := held
      refine ⟨standing.network (networkStep_moves moved), ?_⟩
      obtain ⟨thread, failed, frames, running, rfl, _⟩ := networkStep_cases moved
      refine ⟨fun decoding => ?_, owned.stopping⟩
      exact List.append_ne_nil_of_left_ne_nil (owned.busy decoding) _
    · intro manager current next held moved
      obtain ⟨standing, owned⟩ := held
      refine ⟨standing.parse (parserStep_moves moved), ?_⟩
      cases parserStep_cases moved with
      | decode decoder connection frame rest waiting frames =>
          refine ⟨fun _ => ?_, owned.stopping⟩
          rw [frames]
          exact List.cons_ne_nil _ _
      | exit decoder waiting => exact ⟨fun decoding => Bool.noConfusion decoding, owned.stopping⟩
      | find symbol type next decoding =>
          refine ⟨fun _ => owned.busy ?_, owned.stopping⟩
          rw [Pipeline.decoding, decoding]
      | emit message next decoding =>
          refine ⟨fun _ => owned.busy ?_, owned.stopping⟩
          rw [Pipeline.decoding, decoding]
      | done decoder decoding => exact ⟨fun decoding => Bool.noConfusion decoding, owned.stopping⟩
      | fail what decoding => exact ⟨fun decoding => Bool.noConfusion decoding, owned.stopping⟩
  exact both.2

end Owned

/-! ## What a manager does with its feed -/

/-- A feed that is up, or that is not there, may be sent to. -/
theorem Whole.may_send (whole : manager.Whole) :
    ¬ (manager.pipeline.feedPart.feed.connection.isSome = true ∧
      manager.pipeline.feedPart.feed.stop = true) := by
  intro refused
  obtain ⟨open_, stop⟩ := refused
  cases connected : manager.connected with
  | true => exact Bool.false_ne_true ((whole.1 connected).networkStop.symm.trans stop)
  | false =>
      have closed : manager.pipeline.feedPart.feed.connection = none :=
        (whole.2 connected).connection
      rw [closed] at open_
      contradiction

/-- A request is sent if it may be. -/
theorem send_follows (whole : manager.Whole) (request : BookRequest) (book : BookSpec) :
    FeedPart.contract.runFrom manager.pipeline.feedPart (manager.sends adapter request book) =
      some (manager.send adapter request book).pipeline.feedPart := by
  unfold sends send
  split
  · apply FeedPart.runFrom_single
    exact if_neg whole.may_send
  · rfl

/-- One request after another. -/
theorem sendBooks_follows (list : List BookSpec) (whole : manager.Whole) :
    FeedPart.contract.runFrom manager.pipeline.feedPart
        (list.flatMap (manager.sends adapter .subscribe)) =
      some (list.foldl (fun manager book => manager.send adapter .subscribe book)
        manager).pipeline.feedPart := by
  induction list generalizing manager with
  | nil => rfl
  | cons book rest ih =>
      have quiet := Quiet.send adapter manager .subscribe book
      have same : rest.flatMap (manager.sends adapter .subscribe) =
          rest.flatMap ((manager.send adapter .subscribe book).sends adapter .subscribe) := by
        apply List.flatMap_congr
        intro other _
        simp only [sends, quiet.connected]
      rw [List.flatMap_cons, System.runFrom_append, send_follows whole, Option.bind_some,
        List.foldl_cons, same]
      exact ih (quiet.whole whole)

/-- The texts of a new connection. -/
theorem sendTexts_follows (texts : List String) {part : FeedPart}
    (may : ¬ (part.feed.connection.isSome = true ∧ part.feed.stop = true)) :
    FeedPart.contract.runFrom part (texts.map .send) =
      some { part with feed := texts.foldl WebsocketFeed.send part.feed } := by
  induction texts generalizing part with
  | nil => rfl
  | cons text rest ih =>
      have sent : part.step (.send text) = some { part with feed := part.feed.send text } :=
        if_neg may
      have still : ¬ ((part.feed.send text).connection.isSome = true ∧
          (part.feed.send text).stop = true) := by
        simpa only [WebsocketFeed.send, Option.isSome_map] using may
      rw [List.map_cons, System.runFrom, show FeedPart.contract.step part (.send text) = _ from sent,
        Option.bind_some, ih still, List.foldl_cons]

/-- What a section does with the feed is allowed. -/
theorem section_follows {section_ : Section} {after : Next}
    (standing : Standing adapter manager (some section_)) (owned : Owned manager (some section_))
    (stepped : manager.sectionStep adapter section_ = some (next, after)) :
    FeedPart.contract.runFrom manager.pipeline.feedPart (manager.sectionShows adapter section_) =
      some next.pipeline.feedPart := by
  have between := standing.between
  cases section_ with
  | disconnectFeed reconnect =>
      obtain ⟨rfl, rfl⟩ := Prod.mk.inj (Option.some.inj stepped)
      exact FeedPart.runFrom_single rfl
  | joinFeed reconnect =>
      obtain ⟨feed, joined, same⟩ := Option.map_eq_some_iff.mp stepped
      obtain ⟨rfl, rfl⟩ := Prod.mk.inj same
      have stop : manager.pipeline.feedPart.feed.stop = true := owned.stopping reconnect rfl
      apply FeedPart.runFrom_single
      rw [FeedPart.step, if_pos stop]
      exact congrArg (Option.map _) joined
  | endConnection reconnect =>
      obtain ⟨rfl, rfl⟩ := Prod.mk.inj (Option.some.inj stepped)
      apply FeedPart.runFrom_single
      exact if_pos ⟨between.1, between.2.1⟩
  | startParser =>
      obtain ⟨rfl, rfl⟩ := Prod.mk.inj (Option.some.inj stepped)
      apply FeedPart.runFrom_single
      exact if_pos ⟨between.2.connection, between.2.network⟩
  | connectFeed =>
      obtain ⟨rfl, rfl⟩ := Prod.mk.inj (Option.some.inj stepped)
      apply FeedPart.runFrom_single
      exact if_pos ⟨between.2.1, between.2.2.1⟩
  | sendRequests =>
      obtain ⟨rfl, rfl⟩ := Prod.mk.inj (Option.some.inj stepped)
      have whole : manager.Whole := between
      have texts := Quiet.sendTexts adapter.connectRequests manager
      rw [sectionShows, System.runFrom_append, sendTexts_follows _ whole.may_send,
        Option.bind_some]
      exact sendBooks_follows _ (texts.whole whole)
  | sendSubscribe request =>
      obtain ⟨rfl, rfl⟩ := Prod.mk.inj (Option.some.inj stepped)
      exact send_follows between _ _
  | sendUnsubscribe id book =>
      obtain ⟨rfl, rfl⟩ := Prod.mk.inj (Option.some.inj stepped)
      exact send_follows between _ _
  | resendSubscribe id book =>
      obtain ⟨rfl, rfl⟩ := Prod.mk.inj (Option.some.inj stepped)
      exact send_follows between _ _
  | resubscribe symbol =>
      rw [sectionStep] at stepped
      rw [sectionShows]
      cases found : findSymbol manager.subscriptions symbol with
      | none =>
          rw [found] at stepped
          obtain ⟨rfl, rfl⟩ := Prod.mk.inj (Option.some.inj stepped)
          rfl
      | some entry =>
          rw [found] at stepped
          dsimp only at stepped ⊢
          split at stepped
          · obtain ⟨rfl, rfl⟩ := Prod.mk.inj (Option.some.inj stepped)
            exact send_follows between _ _
          · rename_i down
            obtain ⟨rfl, rfl⟩ := Prod.mk.inj (Option.some.inj stepped)
            rw [sends, if_neg down]
            rfl
  | connect | stopParser | joinParser | stopRefused | joinRefused | healthy | resolveFirst
  | resolveAgain | attach | unsubscribe | erase | list =>
      have moved := sectionStep_cases stepped
      cases moved <;> rfl

/-- What the parser's thread does with the feed is allowed. -/
theorem parse_follows (owned : Owned manager current)
    (moved : ParserStep adapter manager next) :
    FeedPart.contract.runFrom manager.pipeline.feedPart (manager.shows adapter .parse) =
      some next.pipeline.feedPart := by
  cases moved with
  | decode decoder connection frame rest waiting frames =>
      rw [shows, waiting]
      rfl
  | exit decoder waiting =>
      rw [shows, waiting]
      rfl
  | find symbol type next decoding =>
      rw [shows, decoding]
      rfl
  | emit message next decoding =>
      rw [shows, decoding]
      rfl
  | done decoder decoding =>
      have some_frames : manager.pipeline.frames ≠ [] := by
        apply owned.busy
        rw [Pipeline.decoding, decoding]
      obtain ⟨frame, rest, queued⟩ := List.exists_cons_of_ne_nil some_frames
      rw [shows, decoding]
      apply FeedPart.runFrom_single
      simp only [FeedPart.step, Pipeline.feedPart, queued, List.tail_cons]
  | fail what decoding =>
      rw [shows, decoding]
      exact FeedPart.runFrom_single rfl

/-- **One step.** What a manager does with its feed is allowed. -/
theorem follows {action : Action} (reachable : (system adapter).Reachable manager)
    (stepped : step adapter manager action = some next) :
    FeedPart.contract.runFrom manager.pipeline.feedPart (manager.shows adapter action) =
      some next.pipeline.feedPart := by
  have standing := Standing.of_reachable reachable
  have owned := Owned.of_reachable reachable
  cases action with
  | run =>
      simp only [step] at stepped
      split at stepped
      · contradiction
      · rename_i holder section_ held
        obtain ⟨⟨middle, after⟩, moved, rfl⟩ := Option.map_eq_some_iff.mp stepped
        have here : manager.current = some section_ := by rw [L2Manager.current, held]; rfl
        rw [here] at standing owned
        obtain ⟨lock, calls, resubscriber, same, _⟩ := settle_eq middle holder after
        have followed := section_follows standing owned moved
        rw [shows, here, same]
        exact followed
  | refuse what =>
      simp only [step] at stepped
      split at stepped
      · rename_i holder held
        obtain rfl := Option.some.inj stepped
        have here : manager.current = some .connectFeed := by rw [L2Manager.current, held]; rfl
        rw [here] at standing
        obtain ⟨_, connection, thread, _⟩ := standing.between
        apply FeedPart.runFrom_single
        exact if_pos ⟨connection, thread⟩
      · contradiction
  | network action =>
      obtain ⟨pipeline, moved, rfl⟩ := Option.map_eq_some_iff.mp stepped
      apply FeedPart.runFrom_single
      exact FeedPart.network_of_step moved
  | parse => exact parse_follows owned (parserStep_cases stepped)
  | invoke | fetch | respond =>
      simp only [step] at stepped
      split at stepped
      all_goals first
        | contradiction
        | (obtain rfl := Option.some.inj stepped
           rfl)
  | acquire holder =>
      cases holder <;> simp only [step] at stepped <;> split at stepped
      all_goals first
        | contradiction
        | (obtain rfl := Option.some.inj stepped
           rfl)
  | resubscribe =>
      obtain ⟨resubscriber, _, rfl⟩ := Option.map_eq_some_iff.mp stepped
      rfl
  | tick elapsed =>
      obtain rfl := Option.some.inj stepped
      rfl

variable (adapter) in
/-- A manager's feed is one that is used as the contract has it. -/
def simulation : Simulation (system adapter) FeedPart.contract where
  view manager := manager.pipeline.feedPart
  kept := (system adapter).Reachable
  shows := shows adapter
  init := rfl
  kept_init := .init
  kept_step _ _ _ reachable stepped := reachable.step stepped
  follows _ _ _ reachable stepped := follows reachable stepped

/-- **A manager uses its feed as it may.** Whatever its callers, its threads and the venue
do, what a manager does with its feed is a run of the contract: it connects the feed only
while it is disconnected, never sends while it disconnects, joins the network thread only
after it told it to stop, and empties the queue and resets the status only between
connections; and the parser takes only frames that are in the queue. -/
theorem feed_used_as_allowed {actions : List Action}
    (reached : (system adapter).run actions = some manager) :
    FeedPart.contract.run ((simulation adapter).moves (init adapter) actions) =
      some manager.pipeline.feedPart :=
  (simulation adapter).run reached

/-- A venue that asks for a greeting. -/
def greeted : Adapter Unit where
  name := "kraken"
  depths := [10]
  bookChecksum := none
  checkSymbol _ := .ok ()
  connectRequests := ["hello"]
  makeBookRequest _ book := book.symbol
  makeDecoder := ()
  decode decoder _ := .done decoder

/-- A connection with one frame, which is ended. -/
def visit : List Action :=
  [.invoke 0 .connect, .acquire (.call 0)] ++ List.replicate 9 .run ++
    [.network (.read ⟨"welcome", 7⟩), .network .push, .parse, .parse, .respond 0,
      .invoke 1 .disconnect, .acquire (.call 1), .run, .network .stop, .run]

/-- What is seen of it at the feed. -/
theorem feed_used_as_allowed_visit :
    ∃ manager, (system greeted).run visit = some manager ∧
      (simulation greeted).moves (init greeted) visit =
        [.requestStop, .join, .discard, .reset, .connect 1, .send "hello",
          .network (.read ⟨"welcome", 7⟩), .network .push, .consume, .requestStop,
          .network .stop, .join] ∧
      FeedPart.contract.run ((simulation greeted).moves (init greeted) visit) =
        some manager.pipeline.feedPart := by
  have ends : ((system greeted).run visit).isSome = true := by decide +kernel
  obtain ⟨manager, reached⟩ := Option.isSome_iff_exists.mp ends
  exact ⟨manager, reached, by decide +kernel, feed_used_as_allowed reached⟩

end L2Manager

end DataFeed.Venue
