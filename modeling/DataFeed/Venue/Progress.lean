import DataFeed.Venue.Changing
import DataFeed.Venue.LifeCycle

/-! # The life cycle lock comes free

Whoever holds the lock of a manager and changes no subscription can go on: it waits for the
network thread or the parser's thread only after telling it to stop, and each of them can
get there. The network thread may have to wait for a slot, which the parser frees, unless
the pipeline has failed; and the parser finishes what it has begun.
-/

namespace DataFeed.Venue

open Foundation L2 Net DataFeed.Core

namespace L2Manager

variable {Decoder : Type} {adapter : Adapter Decoder} {manager next : L2Manager Decoder}

/-- A step of a thread that is running already. -/
def Driving : Action → Prop
  | .run | .parse | .network .push | .network .giveUp | .network .stop => True
  | _ => False

/-- The lock and the feed are as they were, and the parser is told no more than it was. -/
structure Beside (manager next : L2Manager Decoder) : Prop where
  lock : next.lock = manager.lock
  feed : next.pipeline.feed = manager.pipeline.feed
  parserStop : next.pipeline.parserStop = manager.pipeline.parserStop

namespace Beside

/-- Nothing has happened. -/
theorem refl (manager : L2Manager Decoder) : Beside manager manager := ⟨rfl, rfl, rfl⟩

/-- Steps beside the lock's holder add up. -/
theorem trans {middle : L2Manager Decoder} (first : Beside manager middle)
    (second : Beside middle next) : Beside manager next :=
  ⟨second.lock.trans first.lock, second.feed.trans first.feed,
    second.parserStop.trans first.parserStop⟩

end Beside

/-- The parser takes a step on the way. -/
theorem leads_parse {goal : L2Manager Decoder → Prop}
    (parsed : manager.parserStep adapter = some next) (beside : Beside manager next)
    (leads : (system adapter).Leads (· = .parse) next fun final =>
      Beside next final ∧ goal final) :
    (system adapter).Leads (· = .parse) manager fun final => Beside manager final ∧ goal final := by
  have stepped : (system adapter).step manager .parse = some next := parsed
  exact .after stepped rfl (leads.mono (fun _ parses => parses)
    fun _ ⟨later, met⟩ => ⟨beside.trans later, met⟩)

/-- The parser's thread runs already. -/
theorem driving_of_parse {goal : L2Manager Decoder → Prop}
    (leads : (system adapter).Leads (· = .parse) manager goal) :
    (system adapter).Leads Driving manager goal := by
  refine leads.mono ?_ fun _ met => met
  rintro _ rfl
  trivial

/-- How the parser's thread is left by a frame. -/
def FrameDone (frames : List (Nat × RawFrame)) (next : L2Manager Decoder) : Prop :=
  (∃ decoder, next.pipeline.parserThread = some (.waiting decoder) ∧
      next.pipeline.frames = frames.tail) ∨
    next.pipeline.parserThread = some .ended ∧ next.pipeline.failed = true

/-- The parser finishes the frame it has begun. -/
theorem leads_decoded (rest : Decoding Decoder)
    (decoding : manager.pipeline.parserThread = some (.decoding rest)) :
    (system adapter).Leads (· = .parse) manager fun next =>
      Beside manager next ∧ FrameDone manager.pipeline.frames next := by
  induction rest generalizing manager with
  | find symbol type next ih =>
      have parsed : manager.parserStep adapter = some
          { manager with
            pipeline := { manager.pipeline with
              parserThread := some (.decoding (next (manager.parser.find symbol type))) } } := by
        simp only [parserStep, decoding]
      exact leads_parse parsed ⟨rfl, rfl, rfl⟩ (ih _ rfl)
  | emit message next ih =>
      have parsed : manager.parserStep adapter = some
          { manager with
            parser := (manager.parser.emit message).1
            pipeline := { manager.pipeline with parserThread := some (.decoding next) }
            resubscriber :=
              (mismatches (manager.parser.emit message).2).foldl Resubscriber.request
                manager.resubscriber
            log := manager.log ++ (manager.parser.emit message).2 } := by
        simp only [parserStep, decoding]
      exact leads_parse parsed ⟨rfl, rfl, rfl⟩ (ih rfl)
  | done decoder =>
      have parsed : manager.parserStep adapter = some
          { manager with
            pipeline := { manager.pipeline with
              frames := manager.pipeline.frames.tail
              parserThread := some (.waiting decoder) } } := by
        simp only [parserStep, decoding]
      exact leads_parse parsed ⟨rfl, rfl, rfl⟩ (.here ⟨.refl _, .inl ⟨decoder, rfl, rfl⟩⟩)
  | fail what =>
      have parsed : manager.parserStep adapter = some
          { manager with
            pipeline := { manager.pipeline with failed := true, parserThread := some .ended } } := by
        simp only [parserStep, decoding]
      exact leads_parse parsed ⟨rfl, rfl, rfl⟩ (.here ⟨.refl _, .inr ⟨rfl, rfl⟩⟩)

/-- The parser takes up a frame that waits, and finishes it. -/
theorem leads_takes (decoder : Decoder) (frame : Nat × RawFrame) (rest : List (Nat × RawFrame))
    (waiting : manager.pipeline.parserThread = some (.waiting decoder))
    (frames : manager.pipeline.frames = frame :: rest) :
    (system adapter).Leads (· = .parse) manager fun next =>
      Beside manager next ∧ FrameDone manager.pipeline.frames next := by
  have parsed : manager.parserStep adapter = some
      { manager with
        pipeline := { manager.pipeline with
          parserThread := some (.decoding (adapter.decode decoder frame.2)) }
        log := manager.log ++ [.decoded frame.1] } := by
    simp only [parserStep, waiting, frames]
  exact leads_parse parsed ⟨rfl, rfl, rfl⟩ (leads_decoded _ rfl)

/-- A parser that is not decoding can be reached without anybody else. -/
theorem leads_undecoding :
    (system adapter).Leads (· = .parse) manager fun next =>
      Beside manager next ∧ next.pipeline.decoding = false := by
  cases thread : manager.pipeline.parserThread with
  | none => exact .here ⟨.refl manager, by rw [Pipeline.decoding, thread]⟩
  | some stands =>
      cases stands with
      | waiting decoder => exact .here ⟨.refl manager, by rw [Pipeline.decoding, thread]⟩
      | ended => exact .here ⟨.refl manager, by rw [Pipeline.decoding, thread]⟩
      | decoding rest =>
          refine (leads_decoded rest thread).mono (fun _ parses => parses) ?_
          rintro next ⟨beside, ⟨decoder, waits, _⟩ | ⟨ended, _⟩⟩
          · exact ⟨beside, by rw [Pipeline.decoding, waits]⟩
          · exact ⟨beside, by rw [Pipeline.decoding, ended]⟩

/-- The parser's thread has returned, or there is none. -/
def ParserGone (pipeline : Pipeline Decoder) : Prop :=
  pipeline.parserThread = none ∨ pipeline.parserThread = some .ended

/-- A parser that waits for frames and is told to stop gets there. -/
theorem leads_parserGone_waiting (decoder : Decoder)
    (waiting : manager.pipeline.parserThread = some (.waiting decoder))
    (told : manager.pipeline.parserStop = true) :
    (system adapter).Leads (· = .parse) manager fun next =>
      Beside manager next ∧ ParserGone next.pipeline := by
  generalize count : manager.pipeline.frames.length = length
  induction length generalizing manager decoder with
  | zero =>
      have empty : manager.pipeline.frames = [] := List.length_eq_zero_iff.mp count
      have parsed : manager.parserStep adapter = some
          { manager with
            pipeline := { manager.pipeline with parserThread := some .ended } } := by
        simp only [parserStep, waiting, empty, told, if_true]
      exact leads_parse parsed ⟨rfl, rfl, rfl⟩ (.here ⟨.refl _, .inr rfl⟩)
  | succ length ih =>
      obtain ⟨frame, rest, frames⟩ := List.exists_cons_of_length_eq_add_one count
      refine (leads_takes decoder frame rest waiting frames).trans ?_
      rintro next ⟨beside, ⟨further, waits, left⟩ | ⟨ended, _⟩⟩
      · have fewer : next.pipeline.frames.length = length := by
          rw [left, List.length_tail, count]
          rfl
        refine (ih further waits (beside.parserStop.trans told) fewer).mono
          (fun _ parses => parses) fun final goes => ?_
        exact ⟨beside.trans goes.1, goes.2⟩
      · exact .here ⟨beside, .inr ended⟩

/-- A parser that is told to stop gets there. -/
theorem leads_parserGone (told : manager.pipeline.parserStop = true) :
    (system adapter).Leads (· = .parse) manager fun next =>
      Beside manager next ∧ ParserGone next.pipeline := by
  cases thread : manager.pipeline.parserThread with
  | none => exact .here ⟨.refl manager, .inl thread⟩
  | some stands =>
      cases stands with
      | waiting decoder => exact leads_parserGone_waiting decoder thread told
      | ended => exact .here ⟨.refl manager, .inr thread⟩
      | decoding rest =>
          refine (leads_decoded rest thread).trans ?_
          rintro next ⟨beside, ⟨further, waits, _⟩ | ⟨ended, _⟩⟩
          · exact (leads_parserGone_waiting further waits (beside.parserStop.trans told)).mono
              (fun _ parses => parses) fun _ ⟨later, gone⟩ => ⟨beside.trans later, gone⟩
          · exact .here ⟨beside, .inr ended⟩

/-- What was told to stop, and what a network thread to be joined can count on. -/
def Warned (manager : L2Manager Decoder) : Option Section → Prop
  | some (.joinFeed _) =>
      manager.pipeline.feed.stop = true ∧
        (manager.pipeline.feed.thread ≠ none →
          manager.pipeline.parserThread ≠ none ∧ manager.pipeline.parserStop = false)
  | some (.joinParser _) | some (.joinRefused _) => manager.pipeline.parserStop = true
  | _ => True

/-- The network thread's steps warn nobody less. -/
theorem Warned.network {current : Option Section} {pipeline : Pipeline Decoder}
    (told : manager.Warned current) (moves : NetworkMoves manager.pipeline pipeline) :
    Warned { manager with pipeline := pipeline } current := by
  obtain ⟨running, ⟨thread, feed, _⟩, _, parser, parserStop⟩ := moves
  unfold Warned at told ⊢
  split at told
  · obtain ⟨stop, served⟩ := told
    dsimp only
    rw [parser, parserStop]
    exact ⟨(congrArg WebsocketFeed.stop feed).trans stop, fun _ => served running⟩
  · exact parserStop.trans told
  · exact parserStop.trans told
  · trivial

/-- Neither do the parser's. -/
theorem Warned.parse {current : Option Section} (told : manager.Warned current)
    (moves : ParserMoves adapter manager next) : next.Warned current := by
  unfold Warned at told ⊢
  split at told
  · rw [moves.feed, moves.stop]
    exact ⟨told.1, fun running => ⟨moves.runs, (told.2 running).2⟩⟩
  · exact moves.stop.trans told
  · exact moves.stop.trans told
  · trivial

/-- The steps of the lock's holder keep the warning ahead of the wait. -/
theorem Warned.step {current : Section} {after : Next}
    (standing : Standing adapter manager (some current))
    (stepped : manager.sectionStep adapter current = some (next, after)) :
    next.Warned after.section? := by
  cases sectionStep_cases stepped with
  | disconnectFeed reconnect =>
      refine ⟨rfl, fun running => ?_⟩
      obtain ⟨up, down⟩ : manager.Whole := standing.between
      cases connected : manager.connected with
      | false => exact (running (down connected).network).elim
      | true => exact ⟨(up connected).parser, (up connected).parserStop⟩
  | stopParser | stopRefused => exact rfl
  | endConnection reconnect after _ same =>
      rw [same]
      cases reconnect <;> trivial
  | _ => trivial

/-- Whoever is waited for has been told to stop, in every reachable state. -/
theorem warned_of_reachable (reachable : (system adapter).Reachable manager) :
    manager.Warned manager.current := by
  refine (@invariant_of_actions _ adapter manager
    (fun manager current => Standing adapter manager current ∧ manager.Warned current)
    reachable ⟨.init, trivial⟩ ?_ ?_ ?_ ?_ ?_ ?_).2
  · exact fun manager current lock calls history resubscriber ⟨standing, told⟩ =>
      ⟨⟨standing.between, standing.accounted, standing.grown⟩, told⟩
  · intro manager begun begins ⟨standing, _⟩
    refine ⟨standing.entry begins, ?_⟩
    cases begun with
    | joinFeed | joinParser | joinRefused => exact begins.elim
    | _ => trivial
  · exact fun manager current next after ⟨standing, _⟩ stepped =>
      ⟨standing.step stepped, Warned.step standing stepped⟩
  · exact fun manager what ⟨standing, _⟩ => ⟨standing.refuse what, trivial⟩
  · exact fun manager current action pipeline ⟨standing, told⟩ moved =>
      ⟨standing.network (networkStep_moves moved), told.network (networkStep_moves moved)⟩
  · exact fun manager current next ⟨standing, told⟩ moved =>
      ⟨standing.parse (parserStep_moves moved), told.parse (parserStep_moves moved)⟩

/-- The network thread has returned, or there is none. -/
def FeedGone (pipeline : Pipeline Decoder) : Prop :=
  pipeline.feed.thread = none ∨ pipeline.feed.thread = some .ended

/-- A network thread that reads and is told to stop gets there. -/
theorem leads_feedGone_reading (reading : manager.pipeline.feed.thread = some .reading)
    (told : manager.pipeline.feed.stop = true) :
    (system adapter).Leads Driving manager fun next =>
      next.lock = manager.lock ∧ FeedGone next.pipeline := by
  have stepped : (system adapter).step manager (.network .stop) =
      some { manager with pipeline := manager.pipeline.setNetworkThread .ended } := by
    simp only [system, step, Pipeline.networkStep, reading, told, if_true, Option.map_some]
  exact .after stepped trivial (.here ⟨rfl, .inr rfl⟩)

/-- A network thread in a pipeline that has failed waits for no slot. -/
theorem leads_feedGone_failed {frame : RawFrame}
    (pushing : manager.pipeline.feed.thread = some (.pushing frame))
    (told : manager.pipeline.feed.stop = true) (failed : manager.pipeline.failed = true) :
    (system adapter).Leads Driving manager fun next =>
      next.lock = manager.lock ∧ FeedGone next.pipeline := by
  have stepped : (system adapter).step manager (.network .giveUp) =
      some { manager with pipeline := manager.pipeline.setNetworkThread .reading } := by
    simp only [system, step, Pipeline.networkStep, pushing, failed, if_true, Option.map_some]
  exact .after stepped trivial (leads_feedGone_reading rfl told)

/-- A network thread that waits for a slot goes on as a frame is finished. -/
theorem leads_feedGone_decoded {frame : RawFrame} {frames : List (Nat × RawFrame)}
    (pushing : manager.pipeline.feed.thread = some (.pushing frame))
    (told : manager.pipeline.feed.stop = true) (beside : Beside manager next)
    (decoded : FrameDone frames next)
    (more : ∀ decoder, next.pipeline.feed.thread = some (.pushing frame) →
      next.pipeline.feed.stop = true → next.pipeline.parserThread = some (.waiting decoder) →
        next.pipeline.frames = frames.tail →
          (system adapter).Leads Driving next fun final =>
            final.lock = next.lock ∧ FeedGone final.pipeline) :
    (system adapter).Leads Driving next fun final =>
      final.lock = manager.lock ∧ FeedGone final.pipeline := by
  have pushes : next.pipeline.feed.thread = some (.pushing frame) := by rw [beside.feed, pushing]
  have tells : next.pipeline.feed.stop = true := by rw [beside.feed, told]
  rw [← beside.lock]
  obtain ⟨decoder, waits, left⟩ | ⟨_, failed⟩ := decoded
  · exact more decoder pushes tells waits left
  · exact leads_feedGone_failed pushes tells failed

/-- A network thread that waits for a slot gets one from a parser that waits for frames. -/
theorem leads_feedGone_pushing {frame : RawFrame} (decoder : Decoder)
    (pushing : manager.pipeline.feed.thread = some (.pushing frame))
    (told : manager.pipeline.feed.stop = true)
    (waiting : manager.pipeline.parserThread = some (.waiting decoder)) :
    (system adapter).Leads Driving manager fun next =>
      next.lock = manager.lock ∧ FeedGone next.pipeline := by
  generalize count : manager.pipeline.frames.length = length
  induction length generalizing manager decoder with
  | zero =>
      have stepped : (system adapter).step manager (.network .push) =
          some { manager with pipeline := { manager.pipeline.setNetworkThread .reading with
            frames := manager.pipeline.frames ++ [(manager.pipeline.feed.number, frame)] } } := by
        simp only [system, step, Pipeline.networkStep, pushing, count, maxQueuedFrames,
          Nat.zero_lt_succ, if_true, Option.map_some]
      exact .after stepped trivial (leads_feedGone_reading rfl told)
  | succ length ih =>
      obtain ⟨taken, rest, frames⟩ := List.exists_cons_of_length_eq_add_one count
      refine (driving_of_parse (leads_takes decoder taken rest waiting frames)).trans ?_
      rintro next ⟨beside, decoded⟩
      refine leads_feedGone_decoded pushing told beside decoded ?_
      intro further pushes tells waits left
      refine ih further pushes tells waits ?_
      rw [left, List.length_tail, count]
      rfl

/-- A network thread that is to be joined gets there. -/
theorem leads_feedGone (reachable : (system adapter).Reachable manager) {holder : Holder}
    {reconnect : Bool} (held : manager.lock = some (holder, .joinFeed reconnect)) :
    (system adapter).Leads Driving manager fun next =>
      next.lock = manager.lock ∧ FeedGone next.pipeline := by
  have told := warned_of_reachable reachable
  have accounted := (Standing.of_reachable reachable).accounted.parser
  rw [current, held] at told
  obtain ⟨stop, served⟩ := told
  cases network : manager.pipeline.feed.thread with
  | none => exact .here ⟨rfl, .inl network⟩
  | some stands =>
      obtain ⟨runs, unstopped⟩ := served (network ▸ Option.some_ne_none stands)
      cases stands with
      | reading => exact leads_feedGone_reading network stop
      | ended => exact .here ⟨rfl, .inr network⟩
      | pushing frame =>
          cases parser : manager.pipeline.parserThread with
          | none => exact (runs parser).elim
          | some thread =>
              cases thread with
              | waiting decoder => exact leads_feedGone_pushing decoder network stop parser
              | ended =>
                  refine leads_feedGone_failed network stop ((accounted parser).resolve_right ?_)
                  exact fun stopped => Bool.false_ne_true (unstopped.symm.trans stopped)
              | decoding rest =>
                  refine (driving_of_parse (leads_decoded rest parser)).trans ?_
                  rintro next ⟨beside, decoded⟩
                  exact leads_feedGone_decoded network stop beside decoded
                    fun further pushes tells waits _ =>
                      leads_feedGone_pushing further pushes tells waits

/-- Where a reachable manager leads is reachable. -/
theorem leads_reachable {allowed : Action → Prop} {goal : L2Manager Decoder → Prop}
    (reachable : (system adapter).Reachable manager)
    (leads : (system adapter).Leads allowed manager goal) :
    (system adapter).Leads allowed manager fun next =>
      goal next ∧ (system adapter).Reachable next :=
  leads.invariant (fun _ _ _ _ held stepped => held.step stepped) reachable

variable (adapter) in
/-- Whoever is in the section can go on until the lock is free. -/
def Frees (current : Section) : Prop :=
  ∀ manager holder, (system adapter).Reachable manager → manager.lock = some (holder, current) →
    (system adapter).Leads Driving manager fun next => next.lock = none

/-- A section that takes a step, after which it lets go or another one goes on. -/
theorem frees_run {holder : Holder} {current : Section} {after : Next}
    (reachable : (system adapter).Reachable manager)
    (held : manager.lock = some (holder, current))
    (moved : manager.sectionStep adapter current = some (next, after))
    (later : ∀ further, after = .goOn further → Frees adapter further) :
    (system adapter).Leads Driving manager fun next => next.lock = none := by
  have stepped : (system adapter).step manager .run = some (next.settle holder after) := by
    simp only [system, step, held, moved, Option.map_some]
  refine .after stepped trivial ?_
  cases after with
  | goOn further => exact later further rfl _ holder (reachable.step stepped) rfl
  | release state =>
      refine .here ?_
      cases holder <;> rfl

/-- Once all requests are sent the lock is free. -/
theorem frees_sendRequests : Frees adapter .sendRequests :=
  fun _ _ reachable held => frees_run reachable held rfl fun _ goes => by cases goes

/-- The lock is freed from the connection on, whether it is made or refused. -/
theorem frees_connectFeed : Frees adapter .connectFeed := by
  intro manager holder reachable held
  refine frees_run reachable held rfl ?_
  rintro _ ⟨⟩
  exact frees_sendRequests

/-- The lock is freed from the start of the parser on. -/
theorem frees_startParser : Frees adapter .startParser := by
  intro manager holder reachable held
  refine frees_run reachable held rfl ?_
  rintro _ ⟨⟩
  exact frees_connectFeed

/-- The lock is freed from the end of the old connection on. -/
theorem frees_endConnection (reconnect : Bool) : Frees adapter (.endConnection reconnect) := by
  intro manager holder reachable held
  refine frees_run reachable held rfl fun further goes => ?_
  cases reconnect with
  | false => contradiction
  | true =>
      cases goes
      exact frees_startParser

/-- A section that waits for the parser's thread, which was told to stop. -/
theorem frees_joinsParser {current : Section} {after : Next}
    (joins : ∀ manager : L2Manager Decoder, manager.sectionStep adapter current =
      manager.pipeline.joinParser.map fun pipeline => ({ manager with pipeline := pipeline }, after))
    (told : ∀ manager : L2Manager Decoder, manager.Warned (some current) →
      manager.pipeline.parserStop = true)
    (later : ∀ further, after = .goOn further → Frees adapter further) : Frees adapter current := by
  intro manager holder reachable held
  have stop := warned_of_reachable reachable
  rw [L2Manager.current, held] at stop
  have gone := driving_of_parse (@leads_parserGone _ adapter _ (told manager stop))
  refine (leads_reachable reachable gone).trans ?_
  rintro next ⟨⟨beside, gone⟩, reached⟩
  have moved : next.sectionStep adapter current =
      some ({ next with pipeline := { next.pipeline with parserThread := none } }, after) := by
    obtain none | ended := gone
    · rw [joins, Pipeline.joinParser, none, Option.map_some]
    · rw [joins, Pipeline.joinParser, ended, Option.map_some]
  exact frees_run reached (beside.lock.trans held) moved later

/-- The lock is freed from the wait for the parser on. -/
theorem frees_joinParser (reconnect : Bool) : Frees adapter (.joinParser reconnect) := by
  refine frees_joinsParser (fun _ => rfl) (fun _ told => told) ?_
  rintro _ ⟨⟩
  exact frees_endConnection reconnect

/-- The lock is freed from the parser's stop on. -/
theorem frees_stopParser (reconnect : Bool) : Frees adapter (.stopParser reconnect) := by
  intro manager holder reachable held
  refine frees_run reachable held rfl ?_
  rintro _ ⟨⟩
  exact frees_joinParser reconnect

/-- The lock is freed from the wait for the parser after a refused connection on. -/
theorem frees_joinRefused (what : String) : Frees adapter (.joinRefused what) :=
  frees_joinsParser (fun _ => rfl) (fun _ told => told) fun _ goes => by cases goes

/-- The lock is freed from the parser's stop after a refused connection on. -/
theorem frees_stopRefused (what : String) : Frees adapter (.stopRefused what) := by
  intro manager holder reachable held
  refine frees_run reachable held rfl ?_
  rintro _ ⟨⟩
  exact frees_joinRefused what

/-- The lock is freed from the wait for the network thread on. -/
theorem frees_joinFeed (reconnect : Bool) : Frees adapter (.joinFeed reconnect) := by
  intro manager holder reachable held
  refine (leads_reachable reachable (leads_feedGone reachable held)).trans ?_
  rintro next ⟨⟨lock, gone⟩, reached⟩
  have joined : next.pipeline.feed.join =
      some { next.pipeline.feed with connection := none, thread := none } := by
    obtain none | ended := gone
    · rw [WebsocketFeed.join, none]
    · rw [WebsocketFeed.join, ended]
  have moved : next.sectionStep adapter (.joinFeed reconnect) =
      some ({ next with pipeline := { next.pipeline with
        feed := { next.pipeline.feed with connection := none, thread := none } } },
          .goOn (.stopParser reconnect)) := by
    rw [sectionStep, joined, Option.map_some]
  refine frees_run reached (lock.trans held) moved ?_
  rintro _ ⟨⟩
  exact frees_stopParser reconnect

/-- The lock is freed from the feed's stop on. -/
theorem frees_disconnectFeed (reconnect : Bool) : Frees adapter (.disconnectFeed reconnect) := by
  intro manager holder reachable held
  refine frees_run reachable held rfl ?_
  rintro _ ⟨⟩
  exact frees_joinFeed reconnect

/-- A connect frees the lock in the end. -/
theorem frees_connect : Frees adapter .connect := by
  intro manager holder reachable held
  by_cases healthy : manager.connected ∧ ¬ manager.pipeline.failed
  · exact frees_run reachable held (if_pos healthy) fun _ goes => by cases goes
  · refine frees_run reachable held (if_neg healthy) ?_
    rintro _ ⟨⟩
    exact frees_disconnectFeed true

/-- So does the second half of a resubscription. -/
theorem frees_resendSubscribe (id : SubscriptionId) (book : BookSpec) :
    Frees adapter (.resendSubscribe id book) :=
  fun _ _ reachable held => frees_run reachable held rfl fun _ goes => by cases goes

/-- So does a resubscription. -/
theorem frees_resubscribe (symbol : String) : Frees adapter (.resubscribe symbol) := by
  intro manager holder reachable held
  cases moved : manager.sectionStep adapter (.resubscribe symbol) with
  | none =>
      simp only [sectionStep] at moved
      split at moved
      · contradiction
      · split at moved <;> contradiction
  | some stepped =>
      refine frees_run reachable held moved fun further goes => ?_
      simp only [sectionStep] at moved
      split at moved
      · cases moved
        cases goes
      · split at moved
        · cases moved
          cases goes
          exact frees_resendSubscribe _ _
        · cases moved
          cases goes

/-- **Whoever changes no subscription lets go of the lock.** -/
theorem frees_of_apart {current : Section} (apart : current.change? = none) :
    Frees adapter current := by
  cases current with
  | connect => exact frees_connect
  | disconnectFeed reconnect => exact frees_disconnectFeed reconnect
  | joinFeed reconnect => exact frees_joinFeed reconnect
  | stopParser reconnect => exact frees_stopParser reconnect
  | joinParser reconnect => exact frees_joinParser reconnect
  | endConnection reconnect => exact frees_endConnection reconnect
  | startParser => exact frees_startParser
  | connectFeed => exact frees_connectFeed
  | stopRefused what => exact frees_stopRefused what
  | joinRefused what => exact frees_joinRefused what
  | sendRequests => exact frees_sendRequests
  | healthy | list =>
      exact fun _ _ reachable held => frees_run reachable held rfl fun _ goes => by cases goes
  | resubscribe symbol => exact frees_resubscribe symbol
  | resendSubscribe id book => exact frees_resendSubscribe id book
  | resolveFirst | resolveAgain | attach | sendSubscribe | unsubscribe | sendUnsubscribe | erase =>
      exact (Option.some_ne_none _ apart).elim

/-- A call that waits goes on waiting while others hold the lock. -/
theorem waits_step {action : Action} {call : Nat} {operation : Operation}
    (reachable : (system adapter).Reachable manager) (drives : Driving action)
    (waits : manager.calls call = some (.waiting operation))
    (stepped : step adapter manager action = some next) :
    next.calls call = some (.waiting operation) := by
  cases callStep_cases stepped with
  | run holder current middle after held moved =>
      have calls : middle.calls call = some (.waiting operation) := by
        rw [sectionStep_calls moved, waits]
      cases after with
      | goOn further => exact calls
      | release state =>
          cases holder with
          | resubscriber => exact calls
          | call other =>
              have apart : call ≠ other := by
                rintro rfl
                have inside := inside_of_held reachable held
                exact CallState.noConfusion (Option.some.inj (inside.symm.trans waits))
              exact (Function.update_of_ne apart _ _).trans calls
  | aside _ _ _ calls _ _ => rw [calls, waits]
  | invoke | acquire | resume | refuse | fetch | respond => exact drives.elim

variable (adapter) in
/-- The call in the section can go on until it is about to return, with an outcome of a
kind. -/
def Finishes (current : Section) (kind : Outcome → Prop) : Prop :=
  ∀ manager call, manager.lock = some (.call call, current) →
    (system adapter).Leads Driving manager fun next =>
      ∃ outcome, next.calls call = some (.ending outcome) ∧ kind outcome

/-- A section that takes a step, after which the call ends or another one goes on. -/
theorem finishes_run {call : Nat} {current : Section} {after : Next} {kind : Outcome → Prop}
    (held : manager.lock = some (.call call, current))
    (moved : manager.sectionStep adapter current = some (next, after))
    (goes : (∃ outcome, after = .release (.ending outcome) ∧ kind outcome) ∨
      ∃ further, after = .goOn further ∧ Finishes adapter further kind) :
    (system adapter).Leads Driving manager fun next =>
      ∃ outcome, next.calls call = some (.ending outcome) ∧ kind outcome := by
  have stepped : (system adapter).step manager .run = some (next.settle (.call call) after) := by
    simp only [system, step, held, moved, Option.map_some]
  refine .after stepped trivial ?_
  obtain ⟨outcome, rfl, met⟩ | ⟨further, rfl, later⟩ := goes
  · exact .here ⟨outcome, Function.update_self _ _ _, met⟩
  · exact later _ call rfl

/-- A List comes to its end. -/
theorem finishes_list : Finishes adapter .list fun outcome => ∃ listed, outcome = .listed listed :=
  fun _ _ held => finishes_run held rfl (.inl ⟨_, rfl, _, rfl⟩)

/-- An Unsubscribe comes to its end. -/
theorem finishes_unsubscribe (id : SubscriptionId) :
    Finishes adapter (.unsubscribe id) fun _ => True := by
  intro manager call held
  have erases : Finishes adapter (.erase id) fun _ => True :=
    fun _ _ held => finishes_run held rfl (.inl ⟨_, rfl, trivial⟩)
  have sends : ∀ book, Finishes adapter (.sendUnsubscribe id book) fun _ => True :=
    fun _ _ _ held => finishes_run held rfl (.inr ⟨_, rfl, erases⟩)
  refine (driving_of_parse (@leads_undecoding _ adapter manager)).trans ?_
  rintro next ⟨beside, undecoding⟩
  have held : next.lock = some (.call call, .unsubscribe id) := beside.lock.trans held
  cases found : next.subscriptions.find? id with
  | none =>
      have moved : next.sectionStep adapter (.unsubscribe id) =
          some (next, .release (.ending (.failed
            { code := .unknownId, detail := "No subscription " ++ toString id }))) := by
        simp only [sectionStep, found]
      exact finishes_run held moved (.inl ⟨_, rfl, trivial⟩)
  | some subscription =>
      have moved : next.sectionStep adapter (.unsubscribe id) =
          some ({ next with
            parser := (next.parser.detach subscription.book.symbol).1
            log := next.log ++ (next.parser.detach subscription.book.symbol).2 },
              .goOn (.sendUnsubscribe id subscription.book)) := by
        simp only [sectionStep, found, undecoding, Bool.false_eq_true, if_false]
      exact finishes_run held moved (.inr ⟨_, rfl, sends subscription.book⟩)

/-- What brings a call to its end. -/
def Serves (call : Nat) (action : Action) : Prop :=
  Driving action ∨ action = .acquire (.call call)

/-- **A call that waits can be served.** If no change of the subscriptions holds the lock,
the call gets it, and comes to its end. -/
theorem leads_ending (reachable : (system adapter).Reachable manager)
    (apart : ∀ holder current, manager.lock = some (holder, current) → current.change? = none)
    {call : Nat} {operation : Operation} (waits : manager.calls call = some (.waiting operation))
    {kind : Outcome → Prop} (finishes : Finishes adapter operation.entry kind) :
    (system adapter).Leads (Serves call) manager fun next =>
      ∃ outcome, next.calls call = some (.ending outcome) ∧ kind outcome := by
  have frees : (system adapter).Leads Driving manager fun next => next.lock = none := by
    cases lock : manager.lock with
    | none => exact .here lock
    | some held => exact frees_of_apart (apart held.1 held.2 lock) manager held.1 reachable lock
  have keeps : ∀ state action next, Driving action →
      (system adapter).Reachable state ∧ state.calls call = some (.waiting operation) →
        (system adapter).step state action = some next →
          (system adapter).Reachable next ∧ next.calls call = some (.waiting operation) :=
    fun _ _ _ drives ⟨reachable, waits⟩ stepped =>
      ⟨reachable.step stepped, waits_step reachable drives waits stepped⟩
  have kept := frees.invariant keeps ⟨reachable, waits⟩
  refine (kept.mono (fun _ => .inl) fun _ met => met).trans ?_
  rintro next ⟨free, _, waits⟩
  have stepped : (system adapter).step next (.acquire (.call call)) =
      some { next with
        lock := some (.call call, operation.entry)
        calls := Function.update next.calls call (some .inside) } := by
    simp only [system, step, free, waits, Option.bind_some, CallState.entry?]
  exact .after stepped (.inr rfl) ((finishes _ call rfl).mono (fun _ => .inl) fun _ met => met)

end L2Manager

end DataFeed.Venue
