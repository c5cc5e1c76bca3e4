import DataFeed.Foundation.Simulation
import DataFeed.Net.Transcript
import DataFeed.Venue.L2Manager

/-! # What a feed and its owner promise each other

The manager's steps know of a feed only which connection it has, what was handed to it,
whether its thread reads, pushes or has ended, and the queue and the status. The owner
connects only while disconnected, sends nothing while it disconnects, joins the thread only
after it told it to stop, and empties the queue and resets the status only between
connections. A connection with its handlers, its raw log and its polling of the flags is
a feed of this kind, step by step.
-/

namespace DataFeed.Venue

open Foundation Net

/-- A feed as its owner knows it, with what it shares with the parser. -/
structure FeedPart where
  feed : WebsocketFeed
  frames : List (Nat × RawFrame)
  failed : Bool
  deriving DecidableEq

/-- The feed, the queue and the status of a pipeline. -/
def Pipeline.feedPart {Decoder : Type} (pipeline : Pipeline Decoder) : FeedPart :=
  ⟨pipeline.feed, pipeline.frames, pipeline.failed⟩

namespace FeedPart

/-- What a feed, its owner and the parser do. -/
inductive Move where
  | network (step : NetworkStep)
  | connect (number : Nat)
  | refuse
  | send (text : String)
  | requestStop
  | join
  | consume
  | fail
  | discard
  | reset
  deriving DecidableEq

variable (part : FeedPart)

/-- The feed is disconnected. -/
def Disconnected : Prop := part.feed.connection = none ∧ part.feed.thread = none

instance instDecidableDisconnected : Decidable part.Disconnected :=
  inferInstanceAs (Decidable (_ ∧ _))

/-- A step of the network thread, as the manager has it. -/
def network (step : NetworkStep) : Option FeedPart :=
  ((⟨part.failed, part.frames, part.feed, none, false⟩ : Pipeline Unit).networkStep step).map
    Pipeline.feedPart

/-- A move, if it is one that is allowed. -/
def step : Move → Option FeedPart
  | .network step => part.network step
  | .connect number =>
      if part.Disconnected then some { part with feed := .connect number } else none
  | .refuse => if part.Disconnected then some { part with feed := .refused } else none
  | .send text =>
      if part.feed.connection.isSome ∧ part.feed.stop then none
      else some { part with feed := part.feed.send text }
  | .requestStop => some { part with feed := part.feed.requestStop }
  | .join =>
      if part.feed.stop then part.feed.join.map fun feed => { part with feed := feed } else none
  | .consume =>
      match part.frames with
      | [] => none
      | _ :: rest => some { part with frames := rest }
  | .fail => some { part with failed := true }
  | .discard => if part.Disconnected then some { part with frames := [] } else none
  | .reset => if part.Disconnected then some { part with failed := false } else none

/-- A feed that has not connected yet, and all that is allowed. -/
def contract : System FeedPart Move where
  init := ⟨.init, [], false⟩
  step := step

/-- One move. -/
theorem runFrom_single {part next : FeedPart} {move : Move}
    (stepped : part.step move = some next) : contract.runFrom part [move] = some next :=
  System.runFrom_single stepped

/-- The manager's network thread takes the steps that are allowed. -/
theorem network_of_step {Decoder : Type} {pipeline next : Pipeline Decoder} {step : NetworkStep}
    (stepped : pipeline.networkStep step = some next) :
    pipeline.feedPart.network step = some next.feedPart := by
  unfold network
  cases step with
  | read | fail =>
      unfold Pipeline.networkStep at stepped ⊢
      dsimp only [Pipeline.feedPart] at stepped ⊢
      split at stepped
      · obtain rfl := Option.some.inj stepped
        rfl
      · contradiction
  | push | giveUp | stop =>
      unfold Pipeline.networkStep at stepped ⊢
      dsimp only [Pipeline.feedPart] at stepped ⊢
      split at stepped
      · split at stepped
        · rename_i allowed
          obtain rfl := Option.some.inj stepped
          simp only [allowed, ↓reduceIte, Option.map_some, Pipeline.feedPart,
            Pipeline.setNetworkThread]
        · contradiction
      · contradiction

end FeedPart

end DataFeed.Venue

namespace DataFeed.Net

open Foundation Venue

/-- Where the network thread is, as far as the feed's owner can tell. -/
def Place.network : Place → NetworkThread
  | .next | .polling | .running | .completed _ | .closing | .thrown => .reading
  | .stamped frame | .pushing frame | .refused frame => .pushing frame
  | .stopped | .failed => .ended

namespace Feed

/-- What its owner knows of a feed. -/
def view (feed : Feed) : FeedPart where
  feed :=
    { connection := feed.connection.map Connection.sent
      number := feed.number
      stop := feed.stop
      thread := feed.thread.map Place.network }
  frames := feed.frames
  failed := feed.failed

/-- The steps of the network thread that its owner can tell. -/
def networkShows (feed : Feed) (place : Place) : Move → List FeedPart.Move
  | .stamp nowNs =>
      match place with
      | .completed (some json) => [.network (.read ⟨json, nowNs⟩)]
      | _ => []
  | .go =>
      match place with
      | .pushing _ => if feed.frames.length < maxQueuedFrames then [.network .push] else []
      | .refused _ => if feed.failed then [.network .giveUp] else []
      | .closing => [.network .stop]
      | .thrown => [.network .fail]
      | _ => []
  | .timeout | .posted | .wrote _ | .read _ => []

/-- What its owner can tell of a step. -/
def shows (feed : Feed) : Action → List FeedPart.Move
  | .connect number => [.connect number]
  | .refuse _ => [.refuse]
  | .send text => [.send text]
  | .requestStop => [.requestStop]
  | .join => [.join]
  | .network move => (feed.thread.map fun place => feed.networkShows place move).getD []
  | .consume => [.consume]
  | .fail => [.fail]
  | .discard => [.discard]
  | .reset => [.reset]

variable {feed next : Feed} {place : Place}

theorem Sound.disconnected (sound : feed.Sound) (closed : feed.connection = none) :
    feed.view.Disconnected := by
  obtain ⟨gone, _⟩ := sound.apart closed
  constructor
  · simp only [view, closed, Option.map_none]
  · simp only [view, gone, Option.map_none]

/-- Where the thread is matters to its owner only as far as it can tell. -/
theorem view_moved {connection later : Connection} (found : feed.connection = some connection)
    (here : feed.thread = some place) (sent : later.sent = connection.sent) {after : Place}
    (same : after.network = place.network) :
    view { feed with connection := some later, thread := some after } = feed.view := by
  simp only [view, found, here, Option.map_some, sent, same]

theorem view_goTo (here : feed.thread = some place) {after : Place}
    (same : after.network = place.network) : (feed.goTo after).view = feed.view := by
  simp only [view, goTo, here, Option.map_some, same]

/-- A step of the network thread that its owner can tell. -/
theorem network_shows {step : NetworkStep}
    (stepped : feed.view.network step = some next.view) :
    FeedPart.contract.runFrom feed.view [.network step] = some next.view :=
  FeedPart.runFrom_single stepped

/-- The frame that has been logged is pushed. -/
theorem view_push {frame : RawFrame} (here : feed.thread = some (.pushing frame))
    (room : feed.frames.length < maxQueuedFrames) :
    feed.view.network .push = some (view { feed with
      frames := feed.frames ++ [(feed.number, frame)]
      thread := some .next }) := by
  simp only [FeedPart.network, Pipeline.networkStep, view, here, Option.map_some, Place.network,
    room, ↓reduceIte, Pipeline.feedPart, Pipeline.setNetworkThread]

/-- What the thread does of its own shows as what its owner knows of it. -/
theorem Sound.go_follows (sound : feed.Sound) (here : feed.thread = some place)
    (went : feed.go place = some next) :
    FeedPart.contract.runFrom feed.view (feed.networkShows place .go) = some next.view := by
  obtain ⟨connection, found, _, _⟩ := sound.serving here
  cases place with
  | next =>
      rw [Feed.go, found] at went
      obtain rfl := Option.some.inj went
      exact congrArg some (view_moved found here rfl rfl).symm
  | polling =>
      obtain rfl := Option.some.inj went
      refine congrArg some (view_goTo here ?_).symm
      split <;> rfl
  | completed frame =>
      cases frame with
      | some json => contradiction
      | none =>
          obtain rfl := Option.some.inj went
          exact congrArg some (view_goTo here rfl).symm
  | closing =>
      have stop : feed.stop = true := sound.flagged .closing here
      rw [Feed.go, found, Option.bind_some] at went
      split at went
      · obtain rfl := Option.some.inj went
        apply network_shows
        simp only [FeedPart.network, Pipeline.networkStep, view, here, Feed.goTo, Option.map_some,
          Place.network, stop, ↓reduceIte, Pipeline.feedPart, Pipeline.setNetworkThread]
      · contradiction
  | stamped frame =>
      obtain rfl := Option.some.inj went
      simp only [networkShows, System.runFrom, view, here, Option.map_some, Place.network]
  | pushing frame =>
      rw [Feed.go] at went
      rw [networkShows]
      split at went
      · rename_i room
        obtain rfl := Option.some.inj went
        rw [if_pos room]
        exact network_shows (view_push here room)
      · rename_i full
        obtain rfl := Option.some.inj went
        rw [if_neg full]
        exact congrArg some (view_goTo here rfl).symm
  | refused frame =>
      rw [Feed.go] at went
      rw [networkShows]
      split at went
      · rename_i failed
        obtain rfl := Option.some.inj went
        rw [if_pos failed]
        apply network_shows
        simp only [FeedPart.network, Pipeline.networkStep, view, here, Option.map_some,
          Place.network, failed, ↓reduceIte, Pipeline.feedPart, Pipeline.setNetworkThread]
      · rename_i fine
        obtain rfl := Option.some.inj went
        rw [if_neg fine]
        exact congrArg some (view_goTo here rfl).symm
  | thrown =>
      obtain rfl := Option.some.inj went
      apply network_shows
      simp only [FeedPart.network, Pipeline.networkStep, view, here, Option.map_some,
        Place.network, Pipeline.feedPart, Pipeline.setNetworkThread]
  | running | stopped | failed => contradiction

/-- A handler that runs does not show. -/
theorem view_handle {connection : Connection} (found : feed.connection = some connection)
    (here : feed.thread = some place) {after : Place} (reading : after.network = .reading)
    {handler : Connection → Option Connection}
    (sent : ∀ later, handler connection = some later → later.sent = connection.sent)
    (handled : feed.handle place after (feed.connection.bind handler) = some next) :
    next.view = feed.view := by
  rw [found, Option.bind_some] at handled
  cases place with
  | running =>
      obtain ⟨later, ran, rfl⟩ := Option.map_eq_some_iff.mp handled
      refine view_moved found here (sent later ran) ?_
      split
      · rfl
      · exact reading
  | closing =>
      obtain ⟨later, ran, rfl⟩ := Option.map_eq_some_iff.mp handled
      simp only [view, drained, found, here, Option.map_some, sent later ran]
  | _ => contradiction

/-- What the thread does shows as what its owner knows of it. -/
theorem Sound.network_follows (sound : feed.Sound) (here : feed.thread = some place)
    {move : Move} (moved : feed.move place move = some next) :
    FeedPart.contract.runFrom feed.view (feed.networkShows place move) = some next.view := by
  obtain ⟨connection, found, _, _⟩ := sound.serving here
  have silent (none : feed.networkShows place move = []) (same : next.view = feed.view) :
      FeedPart.contract.runFrom feed.view (feed.networkShows place move) = some next.view := by
    rw [none, same]
    rfl
  cases move with
  | go => exact sound.go_follows here moved
  | timeout =>
      cases place with
      | running =>
          obtain rfl := Option.some.inj moved
          exact silent rfl (view_goTo here rfl)
      | _ => contradiction
  | posted =>
      apply silent rfl
      refine view_handle found here rfl (fun later ran => ?_) moved
      unfold Connection.runPosted at ran
      split at ran
      · contradiction
      · obtain rfl := Option.some.inj ran
        split <;> rfl
  | wrote success =>
      apply silent rfl
      refine view_handle found here rfl (fun later ran => ?_) moved
      unfold Connection.wrote at ran
      split at ran
      · contradiction
      · split at ran
        · obtain rfl := Option.some.inj ran
          split <;> rfl
        · obtain rfl := Option.some.inj ran
          rfl
  | read frame =>
      apply silent rfl
      refine view_handle found here rfl (fun later ran => ?_) moved
      unfold Connection.readEnded at ran
      split at ran
      · contradiction
      · obtain rfl := Option.some.inj ran
        rfl
  | stamp nowNs =>
      cases place with
      | completed frame =>
          cases frame with
          | none => contradiction
          | some json =>
              obtain rfl := Option.some.inj moved
              apply network_shows
              simp only [FeedPart.network, Pipeline.networkStep, view, here, Feed.goTo,
                Option.map_some, Place.network, Pipeline.feedPart, Pipeline.setNetworkThread]
      | _ => contradiction

/-- **One step.** What its owner can tell of a step is allowed. -/
theorem Sound.follows (sound : feed.Sound) {action : Action}
    (stepped : feed.step action = some next) :
    FeedPart.contract.runFrom feed.view (feed.shows action) = some next.view := by
  cases action with
  | network move =>
      obtain ⟨place, here, moved⟩ := Option.bind_eq_some_iff.mp stepped
      rw [shows, here]
      exact sound.network_follows here moved
  | connect number =>
      rw [Feed.step] at stepped
      split at stepped
      · rename_i closed
        obtain rfl := Option.some.inj stepped
        apply FeedPart.runFrom_single
        exact if_pos (sound.disconnected (Option.isNone_iff_eq_none.mp closed))
      · contradiction
  | refuse logOpen =>
      rw [Feed.step] at stepped
      split at stepped
      · rename_i closed
        obtain rfl := Option.some.inj stepped
        have closed := Option.isNone_iff_eq_none.mp closed
        apply FeedPart.runFrom_single
        rw [FeedPart.step, if_pos (sound.disconnected closed)]
        simp only [view, closed, (sound.apart closed).1, Option.map_none, WebsocketFeed.refused]
      · contradiction
  | send text =>
      rw [Feed.step] at stepped
      split at stepped
      · contradiction
      · rename_i allowed
        obtain rfl := Option.some.inj stepped
        apply FeedPart.runFrom_single
        have also : ¬ (feed.view.feed.connection.isSome = true ∧ feed.view.feed.stop = true) := by
          simpa only [view, Option.isSome_map] using allowed
        rw [FeedPart.step, if_neg also]
        simp only [view, WebsocketFeed.send, Option.map_map, Function.comp_def, Connection.send]
  | requestStop =>
      obtain rfl := Option.some.inj stepped
      exact FeedPart.runFrom_single rfl
  | join =>
      rw [Feed.step] at stepped
      split at stepped
      · rename_i allowed
        obtain rfl := Option.some.inj stepped
        obtain ⟨stop, ended⟩ := allowed
        apply FeedPart.runFrom_single
        have joined : feed.view.feed.join =
            some { feed.view.feed with connection := none, thread := none } := by
          unfold WebsocketFeed.join
          cases here : feed.thread with
          | none => simp only [view, here, Option.map_none]
          | some place =>
              rw [here] at ended
              cases place with
              | stopped | failed => simp only [view, here, Option.map_some, Place.network]
              | _ => contradiction
        rw [FeedPart.step, if_pos (show feed.view.feed.stop = true from stop), joined]
        simp only [view, Option.map_some, Option.map_none]
      · contradiction
  | consume =>
      rw [Feed.step] at stepped
      split at stepped
      · contradiction
      · rename_i number frame rest queued
        obtain rfl := Option.some.inj stepped
        apply FeedPart.runFrom_single
        simp only [FeedPart.step, view, queued]
  | fail =>
      obtain rfl := Option.some.inj stepped
      exact FeedPart.runFrom_single rfl
  | discard | reset =>
      rw [Feed.step] at stepped
      split at stepped
      · rename_i closed
        obtain rfl := Option.some.inj stepped
        apply FeedPart.runFrom_single
        exact if_pos (sound.disconnected (Option.isNone_iff_eq_none.mp closed))
      · contradiction

/-- A connection with its handlers is a feed as the manager knows it. -/
def simulation : Simulation system FeedPart.contract where
  view := view
  kept := Sound
  shows := shows
  init := rfl
  kept_init := Sound.init
  kept_step _ _ _ sound stepped := sound.step stepped
  follows _ _ _ sound stepped := sound.follows stepped

/-- **A feed is what its owner takes it for.** Every run of a feed, with the handlers on its
connections, its raw logs and its polling of the flags, shows to its owner as a run of the
feed in the manager's model: frames are read, pushed and given up there in the same order,
the thread ends there when it ends, and the texts handed to it are the same. -/
theorem feed_refines {actions : List Action} (reached : system.run actions = some feed) :
    FeedPart.contract.run (simulation.moves Feed.init actions) = some feed.view :=
  simulation.run reached

/-- A conversation shows as two texts, a frame that is read and pushed, and one that is
taken. -/
theorem feed_refines_conversation :
    ∃ feed, system.run conversation = some feed ∧
      simulation.moves Feed.init conversation =
        [.connect 1, .send "ping", .send "subscribe", .network (.read ⟨"pong", 5⟩),
          .network .push, .consume] ∧
      FeedPart.contract.run (simulation.moves Feed.init conversation) = some feed.view := by
  have ends : (system.run conversation).isSome = true := by decide +kernel
  obtain ⟨feed, reached⟩ := Option.isSome_iff_exists.mp ends
  exact ⟨feed, reached, by decide +kernel, feed_refines reached⟩

end Feed

end DataFeed.Net
