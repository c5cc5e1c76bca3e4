import DataFeed.Foundation.Gate
import DataFeed.Venue.Exchange

/-! # Whose answers a receiver gets

A pair's route drops updates until a snapshot comes, whoever that was sent for. So what a
receiver gets was sent for its own subscription as long as no snapshot of an earlier one is
still to come when the pair is attached (`Settled`). `Serves` carries that along: what gets
through the route's gate of all that is to come for the pair is the receiver's own.
-/

namespace DataFeed.Venue

open Foundation L2 Net DataFeed.Core

variable {Decoder : Type} {adapter : Adapter Decoder}

namespace L2Manager

variable {manager next : L2Manager Decoder}

/-- The frame that a network thread waits to push. -/
def pushed : Option NetworkThread → Option RawFrame
  | some (.pushing frame) => some frame
  | some .reading | some .ended | none => none

/-- Whether a section drops what is left in the queue. -/
def drops : Section → Bool
  | .endConnection _ => true
  | _ => false

/-- A step moves no frame, and begins no decoding. -/
structure Still (manager next : L2Manager Decoder) : Prop where
  frames : next.pipeline.frames = manager.pipeline.frames
  pushed : pushed next.pipeline.feed.thread = pushed manager.pipeline.feed.thread
  decoding : ∀ rest, next.pipeline.parserThread = some (.decoding rest) →
    manager.pipeline.parserThread = some (.decoding rest)

/-- A manager whose pipeline is as it was stands still. -/
theorem Still.of_pipeline (same : next.pipeline = manager.pipeline) : manager.Still next := by
  constructor
  · rw [same]
  · rw [same]
  · rw [same]
    exact fun _ => id

/-- The holder of the lock moves no frame, but drops what an ended connection left. -/
theorem still_section {current : Section} {after : Next} (wired : manager.Wired (some current))
    (moved : SectionStep adapter manager current next after) :
    drops current = false ∧ manager.Still next ∨
      drops current = true ∧ next.pipeline.frames = [] ∧
        pushed next.pipeline.feed.thread = pushed manager.pipeline.feed.thread ∧
        next.pipeline.parserThread = none := by
  cases moved with
  | joinFeed reconnect ended =>
      refine .inl ⟨rfl, rfl, ?_, fun _ => id⟩
      rcases ended with none | ended
      · rw [none]
      · rw [ended]
        rfl
  | joinParser | joinRefused =>
      exact .inl ⟨rfl, rfl, rfl, fun _ absent => (Option.some_ne_none _ absent.symm).elim⟩
  | endConnection reconnect _ _ => exact .inr ⟨rfl, rfl, rfl, wired.joined.2⟩
  | startParser =>
      refine .inl ⟨rfl, rfl, rfl, fun _ waiting => ?_⟩
      cases Option.some.inj waiting
  | connectFeed =>
      refine .inl ⟨rfl, rfl, ?_, fun _ => id⟩
      rw [(wired.down wired.joined).1]
      rfl
  | _ => exact .inl ⟨rfl, rfl, rfl, fun _ => id⟩

/-- A route after a step of the lock's holder: it was there, gated no more, or it is that of
a pair that was attached. -/
theorem route_section {current : Section} {after : Next} {symbol : String} {route : Route}
    (moved : SectionStep adapter manager current next after)
    (routed : next.parser.routes.find? symbol = some route) :
    (∃ old, manager.parser.routes.find? symbol = some old ∧ old.receiver = route.receiver ∧
      (old.awaitingSnapshot = true → route.awaitingSnapshot = true)) ∨
    ∃ request precision, current = .attach request precision route.receiver ∧
      request.book.symbol = symbol ∧ route.awaitingSnapshot = true := by
  cases moved with
  | startParser =>
      rw [startParser, L2Parser.find?_start] at routed
      obtain ⟨old, was, rfl⟩ := Option.map_eq_some_iff.mp routed
      exact .inl ⟨old, was, rfl, fun _ => rfl⟩
  | attached request precision receiver parser events _ done =>
      obtain ⟨_, rfl, _⟩ := L2Parser.attach_eq_ok_iff.mp done
      rw [L2Parser.find?_setRoute] at routed
      split at routed
      · rename_i same
        obtain rfl := Option.some.inj routed
        exact .inr ⟨request, precision, rfl, same.symm, rfl⟩
      · exact .inl ⟨route, routed, rfl, id⟩
  | detached ending subscription _ _ =>
      rw [L2Parser.find?_detach] at routed
      split at routed
      · contradiction
      · exact .inl ⟨route, routed, rfl, id⟩
  | _ => exact .inl ⟨route, routed, rfl, id⟩

/-- A step of neither the lock's holder, nor the network thread, nor the parser. -/
def Outside : Action → Prop
  | .run | .network _ | .parse => False
  | _ => True

/-- Such a step leaves the routes and the frames alone. -/
theorem still_outside {action : Action} (wired : manager.Wired manager.current)
    (stepped : step adapter manager action = some next) (outside : Outside action) :
    next.parser = manager.parser ∧ manager.Still next := by
  cases action with
  | run | network | parse => exact outside.elim
  | invoke call operation =>
      simp only [step] at stepped
      split at stepped
      · contradiction
      · obtain rfl := Option.some.inj stepped
        exact ⟨rfl, .of_pipeline rfl⟩
  | acquire holder =>
      cases holder <;>
      · simp only [step] at stepped
        split at stepped
        · obtain rfl := Option.some.inj stepped
          exact ⟨rfl, .of_pipeline rfl⟩
        · contradiction
  | refuse what =>
      simp only [step] at stepped
      split at stepped
      · rename_i holder held
        obtain rfl := Option.some.inj stepped
        rw [current, held] at wired
        refine ⟨rfl, rfl, ?_, fun _ => id⟩
        rw [(wired.down wired.joined).1]
        rfl
      · contradiction
  | fetch call | respond call =>
      simp only [step] at stepped
      split at stepped
      · obtain rfl := Option.some.inj stepped
        exact ⟨rfl, .of_pipeline rfl⟩
      · contradiction
  | resubscribe =>
      obtain ⟨resubscriber, _, rfl⟩ := Option.map_eq_some_iff.mp stepped
      exact ⟨rfl, .of_pipeline rfl⟩
  | tick elapsed =>
      obtain rfl := Option.some.inj stepped
      exact ⟨rfl, .of_pipeline rfl⟩

/-- The subscription of a pair that is routed is the route's. -/
theorem askerOf_of_routed (reachable : (system adapter).Reachable manager) {symbol : String}
    {route : Route} (routed : manager.parser.routes.find? symbol = some route) :
    Exchange.askerOf manager.subscriptions symbol = some route.receiver := by
  have tabled := Tabled.of_reachable reachable
  have served : manager.parser.served symbol = some (route.receiver, route.book.depth) := by
    rw [L2Parser.served, routed]
    rfl
  obtain ⟨id, subscription, present, pair, same, _⟩ := (tabled.routed _ _).mp served
  unfold Exchange.askerOf
  cases found : findSymbol manager.subscriptions symbol with
  | none => exact (findSymbol_eq_none found present pair).elim
  | some entry =>
      obtain ⟨other, row⟩ := entry
      obtain ⟨listed, named⟩ := findSymbol_eq_some found
      obtain rfl := tabled.keyed other id row subscription listed present (named.trans pair.symm)
      obtain rfl := Option.some.inj (listed.symm.trans present)
      exact congrArg some (Prod.mk.inj same).1

end L2Manager

namespace Exchange

variable {exchange next : Exchange adapter}

/-- The frames of the manager are those of the exchange, and what is decoded carries what
its frame does. -/
structure Aligned (exchange : Exchange adapter) : Prop where
  reachable : (L2Manager.system adapter).Reachable exchange.manager
  queued : exchange.queued.map (fun reply => reply.frame.raw) =
    exchange.manager.pipeline.frames.map Prod.snd
  pushing : exchange.pushing.map (fun reply => reply.frame.raw) =
    L2Manager.pushed exchange.manager.pipeline.feed.thread
  decoding : ∀ rest, exchange.manager.pipeline.parserThread = some (.decoding rest) →
    ∃ reply ∈ exchange.queued.head?, rest.Carries reply.frame.subject

/-- The book changes that are to come for a pair, with whom they are sent for. -/
def toCome (exchange : Exchange adapter) (symbol : String) : List (Asker × MessageType) :=
  (exchange.queued ++ exchange.pushing.toList ++ exchange.sent).filterMap
      (Reply.change? symbol) ++
    (exchange.streams symbol).toList.map fun asker => (asker, .update)

/-- A snapshot opens a route's gate. -/
def opens (change : Asker × MessageType) : Bool := change.2 = .snapshot

/-- What is asked for a pair, and what gets through its gate, is for a receiver. -/
structure Serves (exchange : Exchange adapter) (symbol : String) (receiver : ReceiverId)
    (awaiting : Bool) : Prop where
  asked : ∀ one ∈ exchange.asked, one.symbol = symbol → one.request = .subscribe →
    one.asker = some receiver
  toCome : ∀ change ∈ passing opens awaiting (exchange.toCome symbol), change.1 = some receiver

/-- Every route serves its receiver, and every receiver got its own. -/
structure Own (exchange : Exchange adapter) : Prop where
  serves : ∀ symbol route, exchange.manager.parser.routes.find? symbol = some route →
    exchange.Serves symbol route.receiver route.awaitingSnapshot
  delivered : ∀ delivery ∈ exchange.delivered, delivery.asker = some delivery.receiver

/-- No snapshot of a pair is to come, and none is asked for. -/
def Settled (exchange : Exchange adapter) (symbol : String) : Prop :=
  (∀ one ∈ exchange.asked, one.symbol = symbol → one.request ≠ .subscribe) ∧
    ∀ reply ∈ exchange.queued ++ exchange.pushing.toList ++ exchange.sent,
      reply.frame.subject ≠ some (symbol, .snapshot)

instance (symbol : String) : Decidable (exchange.Settled symbol) :=
  inferInstanceAs (Decidable ((∀ one ∈ exchange.asked, one.symbol = symbol →
      one.request ≠ .subscribe) ∧
    ∀ reply ∈ exchange.queued ++ exchange.pushing.toList ++ exchange.sent,
      reply.frame.subject ≠ some (symbol, .snapshot)))

/-- The pair that a step attaches. -/
def attaching (exchange : Exchange adapter) : Action adapter → Option String
  | .manager .run =>
      match exchange.manager.lock with
      | some (_, .attach request _ _) => some request.book.symbol
      | _ => none
  | _ => none

/-- A pair is attached only if it is settled. -/
def AttachesSettled (exchange : Exchange adapter) (action : Action adapter) : Prop :=
  ∀ symbol ∈ exchange.attaching action, exchange.Settled symbol

instance (action : Action adapter) : Decidable (exchange.AttachesSettled action) :=
  inferInstanceAs (Decidable (∀ symbol ∈ exchange.attaching action, exchange.Settled symbol))

/-- An answer changes the stream of the symbol its frame is about. -/
theorem change?_eq_some_iff {symbol : String} {reply : Reply adapter} {asker : Asker}
    {type : MessageType} :
    reply.change? symbol = some (asker, type) ↔
      reply.frame.subject = some (symbol, type) ∧ reply.asker = asker := by
  unfold Reply.change?
  constructor
  · intro change
    split at change
    · rename_i pair stored subject
      split at change
      · rename_i same
        obtain ⟨rfl, rfl⟩ := Prod.mk.inj (Option.some.inj change)
        exact ⟨same ▸ subject, rfl⟩
      · contradiction
    · contradiction
  · rintro ⟨subject, rfl⟩
    rw [subject]
    exact if_pos rfl

/-- A settled pair may be attached to anyone. -/
theorem Settled.serves {symbol : String} (settled : exchange.Settled symbol)
    (receiver : ReceiverId) : exchange.Serves symbol receiver true := by
  obtain ⟨unasked, unsent⟩ := settled
  refine ⟨fun one listed pair subscribes => (unasked one listed pair subscribes).elim, ?_⟩
  intro change passes
  refine (not_mem_passing ?_ passes).elim
  intro other member
  rcases List.mem_append.mp member with frame | streamed
  · obtain ⟨reply, listed, change⟩ := List.mem_filterMap.mp frame
    obtain ⟨asker, type⟩ := other
    refine decide_eq_false fun snapshot => ?_
    obtain rfl : type = .snapshot := snapshot
    exact unsent reply listed (change?_eq_some_iff.mp change).1
  · obtain ⟨asker, _, rfl⟩ := List.mem_map.mp streamed
    rfl

/-- Where less is to come, less gets through. -/
theorem Serves.shrink {symbol : String} {receiver : ReceiverId} {awaiting waits : Bool}
    (serves : exchange.Serves symbol receiver awaiting) (gated : awaiting = true → waits = true)
    (asked : ∀ one ∈ next.asked, one ∈ exchange.asked ∨
      (one.symbol = symbol → one.asker = some receiver))
    (toCome : (next.toCome symbol).Sublist (exchange.toCome symbol)) :
    next.Serves symbol receiver waits := by
  refine ⟨fun one listed pair subscribes => ?_, fun change passes => serves.toCome change ?_⟩
  · rcases asked one listed with before | own
    · exact serves.asked one before pair subscribes
    · exact own pair
  · have passes := mem_passing_of_sublist toCome passes
    cases awaiting with
    | false => exact mem_of_mem_passing passes
    | true =>
        rw [gated rfl] at passes
        exact passes

/-- What is still to come is a part of what was, if each of its places is. -/
theorem toCome_sublist {symbol : String} (queued : next.queued.Sublist exchange.queued)
    (pushing : next.pushing.toList.Sublist exchange.pushing.toList)
    (sent : next.sent.Sublist exchange.sent)
    (streams : (next.streams symbol).toList.Sublist (exchange.streams symbol).toList) :
    (next.toCome symbol).Sublist (exchange.toCome symbol) :=
  (((queued.append pushing).append sent).filterMap _).append (streams.map _)

/-- Where less is to come, and the routes are those that were there, gated no more. -/
theorem Own.shrink (own : exchange.Own)
    (reachable : (L2Manager.system adapter).Reachable next.manager)
    (routes : ∀ symbol route, next.manager.parser.routes.find? symbol = some route →
      ∃ awaiting, exchange.Serves symbol route.receiver awaiting ∧
        (awaiting = true → route.awaitingSnapshot = true))
    (asked : ∀ one ∈ next.asked, one ∈ exchange.asked ∨
      one.asker = askerOf next.manager.subscriptions one.symbol)
    (toCome : ∀ symbol, (next.toCome symbol).Sublist (exchange.toCome symbol))
    (delivered : next.delivered = exchange.delivered) : next.Own := by
  refine ⟨fun symbol route routed => ?_, delivered ▸ own.delivered⟩
  obtain ⟨awaiting, serves, gated⟩ := routes symbol route routed
  refine serves.shrink gated (fun one listed => ?_) (toCome symbol)
  refine (asked one listed).imp_right fun asker pair => ?_
  rw [asker, pair]
  exact L2Manager.askerOf_of_routed reachable routed

/-- A step that leaves the routes as they are. -/
theorem Own.same (own : exchange.Own)
    (reachable : (L2Manager.system adapter).Reachable next.manager)
    (parser : next.manager.parser = exchange.manager.parser)
    (asked : ∀ one ∈ next.asked, one ∈ exchange.asked)
    (toCome : ∀ symbol, (next.toCome symbol).Sublist (exchange.toCome symbol))
    (delivered : next.delivered = exchange.delivered) : next.Own := by
  refine own.shrink reachable (fun symbol route routed => ?_)
    (fun one listed => .inl (asked one listed)) toCome delivered
  rw [parser] at routed
  exact ⟨_, own.serves symbol route routed, id⟩

/-- What does not move the pipeline leaves the exchange aligned. -/
theorem Aligned.still (aligned : exchange.Aligned)
    (reachable : (L2Manager.system adapter).Reachable next.manager)
    (still : exchange.manager.Still next.manager) (queued : next.queued = exchange.queued)
    (pushing : next.pushing = exchange.pushing) : next.Aligned := by
  refine ⟨reachable, ?_, ?_, fun rest decoding => ?_⟩
  · rw [queued, still.frames]
    exact aligned.queued
  · rw [pushing, still.pushed]
    exact aligned.pushing
  · rw [queued]
    exact aligned.decoding rest (still.decoding rest decoding)

/-- What the next step of the lock's holder does to what is on its way. -/
theorem follow_run {manager : L2Manager Decoder} {holder : Holder} {current : Section}
    (held : exchange.manager.lock = some (holder, current)) :
    ∃ asked streams sent, exchange.follow manager .run =
      ⟨manager, asked, streams, sent, exchange.pushing,
        if L2Manager.drops current then [] else exchange.queued, exchange.delivered⟩ ∧
      (∀ one ∈ asked, one ∈ exchange.asked ∨
        one.asker = askerOf manager.subscriptions one.symbol) ∧
      (∀ symbol, (streams symbol).toList.Sublist (exchange.streams symbol).toList) ∧
      sent.Sublist exchange.sent := by
  have new : ∀ events, ∀ one ∈ asks manager.subscriptions events,
      one.asker = askerOf manager.subscriptions one.symbol := by
    intro events one listed
    obtain ⟨event, _, asks⟩ := List.mem_filterMap.mp listed
    split at asks
    · obtain rfl := Option.some.inj asks
      rfl
    · contradiction
  unfold follow
  rw [held]
  cases current with
  | joinFeed reconnect =>
      exact ⟨_, _, _, rfl, fun _ none => (List.not_mem_nil none).elim,
        fun _ => List.nil_sublist _, List.nil_sublist _⟩
  | endConnection reconnect =>
      exact ⟨_, _, _, rfl, fun _ listed => .inl listed, fun _ => List.Sublist.refl _,
        List.Sublist.refl _⟩
  | _ =>
      refine ⟨_, _, _, rfl, fun one listed => ?_, fun _ => List.Sublist.refl _,
        List.Sublist.refl _⟩
      exact (List.mem_append.mp listed).imp_right (new _ one)

/-- The lock's holder keeps the frames aligned, and the routes' gates. -/
theorem run_own {manager : L2Manager Decoder} (aligned : exchange.Aligned) (own : exchange.Own)
    (attaches : exchange.AttachesSettled (.manager .run))
    (stepped : L2Manager.step adapter exchange.manager .run = some manager) :
    (exchange.follow manager .run).Aligned ∧ (exchange.follow manager .run).Own := by
  have reachable := aligned.reachable.step
    (show (L2Manager.system adapter).step exchange.manager .run = some manager from stepped)
  have wired := L2Manager.Wired.of_reachable aligned.reachable
  simp only [L2Manager.step] at stepped
  split at stepped
  · contradiction
  · rename_i holder current held
    obtain ⟨⟨middle, after⟩, moved, rfl⟩ := Option.map_eq_some_iff.mp stepped
    have moved := L2Manager.sectionStep_cases moved
    rw [L2Manager.current, held] at wired
    obtain ⟨asked, streams, sent, follows, asks, streamed, left⟩ := follow_run held
    obtain ⟨lock, calls, resubscriber, same, _⟩ := L2Manager.settle_eq middle holder after
    rw [follows]
    rw [same] at reachable asks ⊢
    constructor
    · rcases L2Manager.still_section wired moved with
        ⟨keeps, still⟩ | ⟨drops, none, pushed, stopped⟩
      · rw [keeps]
        exact aligned.still reachable ⟨still.frames, still.pushed, still.decoding⟩ rfl rfl
      · rw [drops]
        refine ⟨reachable, ?_, aligned.pushing.trans pushed.symm, fun rest decoding => ?_⟩
        · exact (congrArg (List.map Prod.snd) none).symm
        · exact (Option.some_ne_none _ (decoding.symm.trans stopped)).elim
    · refine own.shrink reachable (fun symbol route routed => ?_) asks (fun symbol => ?_) rfl
      · rcases L2Manager.route_section moved routed with
          ⟨old, was, receiver, gated⟩ | ⟨request, precision, rfl, rfl, gated⟩
        · exact ⟨_, receiver ▸ own.serves symbol old was, gated⟩
        · have settled : exchange.Settled request.book.symbol := by
            apply attaches
            unfold attaching
            rw [held]
            exact Option.mem_some_self _
          exact ⟨true, settled.serves _, fun _ => gated⟩
      · refine toCome_sublist ?_ (List.Sublist.refl _) left (streamed symbol)
        dsimp only
        split
        · exact List.nil_sublist _
        · exact List.Sublist.refl _

/-- A frame that is read is the next one, and there was none to push. -/
theorem read_own {manager : L2Manager Decoder} {reply : Reply adapter}
    {rest : List (Reply adapter)} (aligned : exchange.Aligned) (own : exchange.Own)
    (sent : exchange.sent = reply :: rest)
    (stepped : L2Manager.step adapter exchange.manager (.network (.read reply.frame.raw)) =
      some manager) :
    ({ exchange with manager := manager, sent := rest, pushing := some reply } :
        Exchange adapter).Aligned ∧
      ({ exchange with manager := manager, sent := rest, pushing := some reply } :
        Exchange adapter).Own := by
  have reachable := aligned.reachable.step
    (show (L2Manager.system adapter).step exchange.manager (.network (.read reply.frame.raw)) =
      some manager from stepped)
  obtain ⟨pipeline, moved, rfl⟩ := Option.map_eq_some_iff.mp stepped
  simp only [Pipeline.networkStep] at moved
  split at moved
  · rename_i reading
    obtain rfl := Option.some.inj moved
    have idle : exchange.pushing = none := by
      have pushing := aligned.pushing
      rw [reading] at pushing
      exact Option.map_eq_none_iff.mp pushing
    refine ⟨⟨reachable, aligned.queued, rfl, aligned.decoding⟩, ?_⟩
    refine own.same reachable rfl (fun _ => id) (fun symbol => ?_) rfl
    unfold toCome
    rw [idle, sent, Option.toList_none, List.append_nil, Option.toList_some, List.append_assoc,
      List.singleton_append]
  · contradiction

/-- A network step that reads nothing keeps answers with the askers that caused them. -/
theorem network_own {manager : L2Manager Decoder} {step : NetworkStep} (aligned : exchange.Aligned)
    (own : exchange.Own) (other : ∀ frame, step ≠ .read frame)
    (stepped : L2Manager.step adapter exchange.manager (.network step) = some manager) :
    (exchange.follow manager (.network step)).Aligned ∧
      (exchange.follow manager (.network step)).Own := by
  have reachable := aligned.reachable.step
    (show (L2Manager.system adapter).step exchange.manager (.network step) = some manager
      from stepped)
  obtain ⟨pipeline, moved, rfl⟩ := Option.map_eq_some_iff.mp stepped
  cases step with
  | read frame => exact (other frame rfl).elim
  | push =>
      simp only [Pipeline.networkStep] at moved
      split at moved
      · rename_i frame pushing
        split at moved
        · obtain rfl := Option.some.inj moved
          have pushed := aligned.pushing
          rw [pushing] at pushed
          obtain ⟨reply, held, raw⟩ := Option.map_eq_some_iff.mp pushed
          refine ⟨⟨reachable, ?_, rfl, fun rest decoding => ?_⟩, ?_⟩
          · simp only [follow, held, Option.toList_some, List.map_append, List.map_cons,
              List.map_nil, aligned.queued, raw]
          · obtain ⟨first, head, carries⟩ := aligned.decoding rest decoding
            refine ⟨first, ?_, carries⟩
            simp only [follow, List.head?_append, Option.mem_def.mp head, Option.some_or,
              Option.mem_some]
          · refine own.same reachable rfl (fun _ => id) (fun symbol => ?_) rfl
            unfold toCome
            simp only [follow, Option.toList_none, List.append_nil]
            exact List.Sublist.refl _
        · contradiction
      · contradiction
  | giveUp =>
      simp only [Pipeline.networkStep] at moved
      split at moved
      · split at moved
        · obtain rfl := Option.some.inj moved
          refine ⟨⟨reachable, aligned.queued, rfl, aligned.decoding⟩, ?_⟩
          exact own.same reachable rfl (fun _ => id)
            (fun symbol => toCome_sublist (List.Sublist.refl _) (List.nil_sublist _)
              (List.Sublist.refl _) (List.Sublist.refl _)) rfl
        · contradiction
      · contradiction
  | stop =>
      simp only [Pipeline.networkStep] at moved
      split at moved
      · rename_i reading
        split at moved
        · obtain rfl := Option.some.inj moved
          refine ⟨aligned.still reachable ⟨rfl, ?_, fun _ => id⟩ rfl rfl, ?_⟩
          · rw [reading]
            rfl
          · exact own.same reachable rfl (fun _ => id) (fun _ => List.Sublist.refl _) rfl
        · contradiction
      · contradiction
  | fail =>
      simp only [Pipeline.networkStep] at moved
      split at moved
      · rename_i reading
        obtain rfl := Option.some.inj moved
        refine ⟨aligned.still reachable ⟨rfl, ?_, fun _ => id⟩ rfl rfl, ?_⟩
        · rw [reading]
          rfl
        · exact own.same reachable rfl (fun _ => id) (fun _ => List.Sublist.refl _) rfl
      · contradiction

/-- What the parser's thread does to the frames, and what is delivered. -/
theorem follow_parse {manager : L2Manager Decoder} {events : List Event}
    (log : manager.log = exchange.manager.log ++ events)
    (unfinished : ∀ decoder,
      exchange.manager.pipeline.parserThread ≠ some (.decoding (.done decoder))) :
    exchange.follow manager .parse =
      { exchange with
        manager := manager
        delivered := exchange.delivered ++
          deliveries (exchange.queued.head?.bind Reply.asker) events } := by
  unfold follow
  dsimp only
  rw [log, List.drop_left]
  split
  · rename_i decoder done
    exact (unfinished decoder done).elim
  · rfl

/-- A parse that finishes no frame moves no answer. -/
theorem follow_silent {manager : L2Manager Decoder}
    (unfinished : ∀ decoder,
      exchange.manager.pipeline.parserThread ≠ some (.decoding (.done decoder)))
    (log : manager.log = exchange.manager.log) :
    exchange.follow manager .parse =
      { exchange with
        manager := manager
        delivered := exchange.delivered ++
          deliveries (exchange.queued.head?.bind Reply.asker) [] } :=
  follow_parse (log.trans (List.append_nil _).symm) unfinished

/-- A change that is emitted is the next one to come, so it gets through the gate only if it
is the receiver's own. -/
theorem emit_own {message : Message} {reply : Reply adapter} {manager : L2Manager Decoder}
    (own : exchange.Own) (reachable : (L2Manager.system adapter).Reachable manager)
    (head : reply ∈ exchange.queued.head?)
    (subject : reply.frame.subject = some (message.symbol, message.type))
    (parser : manager.parser = (exchange.manager.parser.emit message).1) :
    ({ exchange with
        manager := manager
        delivered := exchange.delivered ++
          deliveries (exchange.queued.head?.bind Reply.asker)
            (exchange.manager.parser.emit message).2 } : Exchange adapter).Own := by
  obtain ⟨rest, queued⟩ : ∃ rest, exchange.queued = reply :: rest :=
    List.head?_eq_some_iff.mp head
  have coming : ∃ later, exchange.toCome message.symbol =
      (reply.asker, message.type) :: later := by
    unfold toCome
    rw [queued, List.cons_append, List.cons_append,
      List.filterMap_cons_some (change?_eq_some_iff.mpr ⟨subject, rfl⟩), List.cons_append]
    exact ⟨_, rfl⟩
  obtain ⟨later, coming⟩ := coming
  have asker : exchange.queued.head?.bind Reply.asker = reply.asker := by
    rw [Option.mem_def.mp head]
    rfl
  rcases exchange.manager.parser.emit_cases message with
    ⟨_, emitted⟩ | ⟨route, found, _, emitted⟩ | ⟨route, found, _, emitted⟩
  · rw [emitted] at parser ⊢
    exact own.same reachable parser (fun _ => id) (fun _ => List.Sublist.refl _)
      (List.append_nil _)
  · rw [emitted] at parser ⊢
    refine own.shrink reachable (fun symbol later routed => ?_) (fun _ => .inl)
      (fun _ => List.Sublist.refl _) (List.append_nil _)
    have was := (L2Parser.findRoute_eq_some_iff.mp found).1
    rw [parser, L2Parser.find?_setRoute] at routed
    split at routed
    · rename_i same
      obtain rfl := Option.some.inj routed
      rw [same]
      exact ⟨_, own.serves message.symbol route was, fun _ => rfl⟩
    · exact ⟨_, own.serves symbol later routed, id⟩
  · obtain ⟨was, open_⟩ := L2Parser.findRoute_eq_some_iff.mp found
    have serves := own.serves message.symbol route was
    have passes : passing opens route.awaitingSnapshot (exchange.toCome message.symbol) =
        exchange.toCome message.symbol := by
      rcases open_ with snapshot | streaming
      · rw [coming, snapshot]
        exact passing_cons_of_opens rfl
      · rw [streaming]
        rfl
    have serves : exchange.Serves message.symbol route.receiver false := by
      refine ⟨serves.asked, fun change member => serves.toCome change ?_⟩
      rw [passes]
      exact member
    have own_message : reply.asker = some route.receiver := by
      apply serves.toCome (reply.asker, message.type)
      rw [coming]
      exact List.mem_cons_self
    rw [emitted] at parser ⊢
    refine ⟨fun symbol other routed => ?_, fun delivery member => ?_⟩
    · rw [parser, L2Parser.find?_setRoute] at routed
      split at routed
      · rename_i same
        obtain rfl := Option.some.inj routed
        rw [same]
        exact ⟨serves.asked, serves.toCome⟩
      · have serves := own.serves symbol other routed
        exact ⟨serves.asked, serves.toCome⟩
    · rcases List.mem_append.mp member with before | new
      · exact own.delivered delivery before
      · rw [asker] at new
        obtain rfl := List.mem_singleton.mp new
        exact own_message

/-- A step of the parser's thread that delivers nothing. -/
theorem Own.undelivered {manager : L2Manager Decoder} {asker : Asker} {events : List Event}
    (own : exchange.Own) (reachable : (L2Manager.system adapter).Reachable manager)
    (parser : manager.parser = exchange.manager.parser)
    (none : ∀ asker, deliveries asker events = []) :
    ({ exchange with
        manager := manager
        delivered := exchange.delivered ++ deliveries asker events } : Exchange adapter).Own := by
  refine own.same reachable parser (fun _ => id) (fun _ => List.Sublist.refl _) ?_
  dsimp only
  rw [none, List.append_nil]

/-- A parse keeps answers with the askers that caused them. -/
theorem parse_own {manager : L2Manager Decoder} (aligned : exchange.Aligned) (own : exchange.Own)
    (stepped : L2Manager.step adapter exchange.manager .parse = some manager) :
    (exchange.follow manager .parse).Aligned ∧ (exchange.follow manager .parse).Own := by
  have reachable := aligned.reachable.step
    (show (L2Manager.system adapter).step exchange.manager .parse = some manager from stepped)
  have unfinished {thread} (there : exchange.manager.pipeline.parserThread = some thread)
      (not_done : ∀ decoder, thread ≠ .decoding (.done decoder)) (decoder : Decoder) :
      exchange.manager.pipeline.parserThread ≠ some (.decoding (.done decoder)) := by
    rw [there]
    exact fun same => not_done decoder (Option.some.inj same)
  cases L2Manager.parserStep_cases stepped with
  | decode decoder connection frame rest waiting frames =>
      rw [follow_parse rfl (unfinished waiting fun _ same => by cases same)]
      refine ⟨⟨reachable, aligned.queued, aligned.pushing, fun rest' decoding => ?_⟩,
        own.undelivered reachable rfl fun _ => rfl⟩
      obtain rfl := ParserThread.decoding.inj (Option.some.inj decoding)
      have queued := aligned.queued
      rw [frames] at queued
      obtain ⟨reply, later, split, raw, _⟩ := List.map_eq_cons_iff.mp queued
      refine ⟨reply, ?_, ?_⟩
      · dsimp only
        rw [split]
        rfl
      · rw [← show reply.frame.raw = frame from raw]
        exact reply.frame.carries decoder
  | exit decoder waiting =>
      rw [follow_silent (unfinished waiting fun _ same => by cases same)]
      · refine ⟨aligned.still reachable ⟨rfl, rfl, fun rest ended => ?_⟩ rfl rfl,
          own.undelivered reachable rfl fun _ => rfl⟩
        cases Option.some.inj ended
      · rfl
  | find symbol type after decoding =>
      rw [follow_silent (unfinished decoding fun _ same => by cases same)]
      · refine ⟨⟨reachable, aligned.queued, aligned.pushing, fun rest going => ?_⟩,
          own.undelivered reachable rfl fun _ => rfl⟩
        obtain rfl := ParserThread.decoding.inj (Option.some.inj going)
        obtain ⟨reply, head, carries⟩ := aligned.decoding _ decoding
        exact ⟨reply, head, carries _⟩
      · rfl
  | emit message after decoding =>
      rw [follow_parse rfl (unfinished decoding fun _ same => by cases same)]
      obtain ⟨reply, head, subject, carries⟩ := aligned.decoding _ decoding
      refine ⟨⟨reachable, aligned.queued, aligned.pushing, fun rest going => ?_⟩,
        emit_own own reachable head subject rfl⟩
      obtain rfl := ParserThread.decoding.inj (Option.some.inj going)
      exact ⟨reply, head, carries⟩
  | done decoder decoding =>
      have follows : exchange.follow
          { exchange.manager with pipeline := { exchange.manager.pipeline with
            frames := exchange.manager.pipeline.frames.tail
            parserThread := some (.waiting decoder) } } .parse =
          { exchange with
            manager := { exchange.manager with pipeline := { exchange.manager.pipeline with
              frames := exchange.manager.pipeline.frames.tail
              parserThread := some (.waiting decoder) } }
            queued := exchange.queued.tail } := by
        unfold follow
        dsimp only
        rw [decoding, List.drop_length]
        exact congrArg _ (List.append_nil _)
      rw [follows]
      refine ⟨⟨reachable, ?_, aligned.pushing, fun rest going => ?_⟩, ?_⟩
      · dsimp only
        rw [List.map_tail, aligned.queued, List.map_tail]
      · cases Option.some.inj going
      · exact own.same reachable rfl (fun _ => id)
          (fun symbol => toCome_sublist (List.tail_sublist _) (List.Sublist.refl _)
            (List.Sublist.refl _) (List.Sublist.refl _)) rfl
  | fail what decoding =>
      rw [follow_silent (unfinished decoding fun _ same => by cases same)]
      · refine ⟨aligned.still reachable ⟨rfl, rfl, fun rest ended => ?_⟩ rfl rfl,
          own.undelivered reachable rfl fun _ => rfl⟩
        cases Option.some.inj ended
      · rfl

/-- A step outside the pipeline keeps answers with the askers that caused them. -/
theorem outside_own {manager : L2Manager Decoder} {action : L2Manager.Action}
    (aligned : exchange.Aligned) (own : exchange.Own) (outside : L2Manager.Outside action)
    (stepped : L2Manager.step adapter exchange.manager action = some manager) :
    (exchange.follow manager action).Aligned ∧ (exchange.follow manager action).Own := by
  have reachable := aligned.reachable.step
    (show (L2Manager.system adapter).step exchange.manager action = some manager from stepped)
  have wired := L2Manager.Wired.of_reachable aligned.reachable
  obtain ⟨parser, still⟩ := L2Manager.still_outside wired stepped outside
  have follows : exchange.follow manager action = { exchange with manager := manager } := by
    cases action with
    | run | network | parse => exact outside.elim
    | _ => rfl
  rw [follows]
  exact ⟨aligned.still reachable still rfl rfl,
    own.same reachable parser (fun _ => id) (fun _ => List.Sublist.refl _) rfl⟩

/-- What is to come once the venue has sent a frame. -/
theorem toCome_sent (symbol : String) (reply : Reply adapter) (asked : List Asked)
    (streams : String → Option Asker) :
    ({ exchange with asked := asked, streams := streams, sent := exchange.sent ++ [reply] } :
        Exchange adapter).toCome symbol =
      (exchange.queued ++ exchange.pushing.toList ++ exchange.sent).filterMap
          (Reply.change? symbol) ++
        (reply.change? symbol).toList ++
          (streams symbol).toList.map fun asker => (asker, .update) := by
  unfold toCome
  dsimp only
  rw [← List.append_assoc, List.filterMap_append]
  cases change : reply.change? symbol with
  | none => rw [List.filterMap_cons_none change]; rfl
  | some entry => rw [List.filterMap_cons_some change]; rfl

/-- A frame that is not about a symbol does not change its stream. -/
theorem change?_eq_none {symbol : String} {reply : Reply adapter}
    (other : ∀ type, reply.frame.subject ≠ some (symbol, type)) :
    reply.change? symbol = none := by
  cases change : reply.change? symbol with
  | none => rfl
  | some entry => exact (other _ (change?_eq_some_iff.mp change).1).elim

/-- The venue answers a subscribe with a snapshot for whoever asked. -/
theorem Own.subscribed {frame : VenueFrame adapter} {symbol : String} {asker : Asker}
    {rest : List Asked} (own : exchange.Own)
    (asked : exchange.asked = ⟨.subscribe, symbol, asker⟩ :: rest)
    (subject : frame.subject = some (symbol, .snapshot)) :
    ({ exchange with
        asked := rest
        streams := Function.update exchange.streams symbol (some asker)
        sent := exchange.sent ++ [⟨frame, asker⟩] } : Exchange adapter).Own := by
  refine ⟨fun pair route routed => ?_, own.delivered⟩
  have serves := own.serves pair route routed
  have still : ∀ one ∈ rest, one ∈ exchange.asked := fun one listed => by
    rw [asked]
    exact List.mem_cons_of_mem _ listed
  refine ⟨fun one listed => serves.asked one (still one listed), fun change passes => ?_⟩
  rw [toCome_sent] at passes
  by_cases same : pair = symbol
  · subst same
    have receiver : asker = some route.receiver := by
      refine serves.asked ⟨.subscribe, pair, asker⟩ ?_ rfl rfl
      rw [asked]
      exact List.mem_cons_self
    rw [change?_eq_some_iff.mpr ⟨subject, rfl⟩, Function.update_self] at passes
    rcases mem_passing_append passes with passes | update
    · rcases mem_passing_append passes with before | snapshot
      · exact serves.toCome change
          (mem_passing_of_sublist (List.sublist_append_left _ _) before)
      · rw [List.mem_singleton.mp snapshot]
        exact receiver
    · rw [List.mem_singleton.mp update]
      exact receiver
  · have other : ∀ type, frame.subject ≠ some (pair, type) := by
      intro type about
      exact same (Prod.mk.inj (Option.some.inj (about.symm.trans subject))).1
    rw [change?_eq_none other, Function.update_of_ne same, Option.toList_none,
      List.append_nil] at passes
    exact serves.toCome change passes

/-- The venue sends an update for whom it streams. -/
theorem Own.updated {frame : VenueFrame adapter} {symbol : String} {asker : Asker}
    (own : exchange.Own) (streams : exchange.streams symbol = some asker)
    (subject : frame.subject = some (symbol, .update)) :
    ({ exchange with sent := exchange.sent ++ [⟨frame, asker⟩] } : Exchange adapter).Own := by
  refine ⟨fun pair route routed => ?_, own.delivered⟩
  have serves := own.serves pair route routed
  refine ⟨serves.asked, fun change passes => serves.toCome change ?_⟩
  have sent := @toCome_sent _ _ exchange pair ⟨frame, asker⟩ exchange.asked exchange.streams
  rw [sent] at passes
  unfold toCome
  by_cases same : pair = symbol
  · subst same
    rw [change?_eq_some_iff.mpr ⟨subject, rfl⟩, streams] at passes
    rw [streams]
    exact mem_passing_twice rfl passes
  · have other : ∀ type, frame.subject ≠ some (pair, type) := by
      intro type about
      exact same (Prod.mk.inj (Option.some.inj (about.symm.trans subject))).1
    rw [change?_eq_none other, Option.toList_none, List.append_nil] at passes
    exact passes

/-- A frame without book changes is to come for no pair. -/
theorem Own.noticed {frame : VenueFrame adapter} {asker : Asker} (own : exchange.Own)
    (subject : frame.subject = none) :
    ({ exchange with sent := exchange.sent ++ [⟨frame, asker⟩] } : Exchange adapter).Own := by
  refine ⟨fun pair route routed => ?_, own.delivered⟩
  have serves := own.serves pair route routed
  refine ⟨serves.asked, fun change passes => serves.toCome change ?_⟩
  have sent := @toCome_sent _ _ exchange pair ⟨frame, asker⟩ exchange.asked exchange.streams
  have other : ∀ type, frame.subject ≠ some (pair, type) := by
    intro type about
    exact Option.some_ne_none _ (about.symm.trans subject)
  rw [sent, change?_eq_none other, Option.toList_none, List.append_nil] at passes
  exact passes

/-- A step keeps the frames aligned and every receiver's own apart from the others', if it
attaches no pair that is not settled. -/
theorem step_own {action : Action adapter} (aligned : exchange.Aligned) (own : exchange.Own)
    (attaches : exchange.AttachesSettled action) (stepped : exchange.step action = some next) :
    next.Aligned ∧ next.Own := by
  cases action with
  | manager action =>
      cases action with
      | network step =>
          cases step with
          | read frame => contradiction
          | _ =>
              obtain ⟨manager, moved, rfl⟩ := Option.map_eq_some_iff.mp stepped
              exact network_own aligned own (fun _ same => by cases same) moved
      | run =>
          obtain ⟨manager, moved, rfl⟩ := Option.map_eq_some_iff.mp stepped
          exact run_own aligned own attaches moved
      | parse =>
          obtain ⟨manager, moved, rfl⟩ := Option.map_eq_some_iff.mp stepped
          exact parse_own aligned own moved
      | tick elapsed =>
          obtain rfl := Option.some.inj stepped
          exact @outside_own _ _ exchange _ (.tick elapsed) aligned own trivial rfl
      | _ =>
          obtain ⟨manager, moved, rfl⟩ := Option.map_eq_some_iff.mp stepped
          exact outside_own aligned own trivial moved
  | read =>
      simp only [step] at stepped
      split at stepped
      · contradiction
      · rename_i reply rest sent
        obtain ⟨manager, moved, rfl⟩ := Option.map_eq_some_iff.mp stepped
        exact read_own aligned own sent moved
  | handle frame =>
      simp only [step] at stepped
      split at stepped
      · contradiction
      · rename_i symbol asker rest asked
        split at stepped
        · rename_i subject
          obtain rfl := Option.some.inj stepped
          exact ⟨{ aligned with }, own.subscribed asked subject⟩
        · contradiction
      · rename_i symbol asker rest asked
        obtain rfl := Option.some.inj stepped
        refine ⟨{ aligned with }, own.same aligned.reachable rfl ?_ (fun pair => ?_) rfl⟩
        · intro one listed
          rw [asked]
          exact List.mem_cons_of_mem _ listed
        · refine toCome_sublist (List.Sublist.refl _) (List.Sublist.refl _)
            (List.Sublist.refl _) ?_
          by_cases same : pair = symbol
          · subst same
            dsimp only
            rw [Function.update_self]
            exact List.nil_sublist _
          · dsimp only
            rw [Function.update_of_ne same]
  | update frame =>
      simp only [step] at stepped
      split at stepped
      · rename_i symbol subject
        obtain ⟨asker, streams, rfl⟩ := Option.map_eq_some_iff.mp stepped
        exact ⟨{ aligned with }, own.updated streams subject⟩
      · contradiction
  | notice frame =>
      simp only [step] at stepped
      split at stepped
      · rename_i silent
        obtain rfl := Option.some.inj stepped
        exact ⟨{ aligned with }, own.noticed silent.1⟩
      · contradiction

/-- **Whose answers a receiver gets.** In every run in which a pair is attached only when no
snapshot of it is still to come, every message that a receiver gets was sent by the venue for
its own subscription. -/
theorem delivers_own {actions : List (Action adapter)}
    (settled : (system adapter).Throughout AttachesSettled actions)
    (reached : (system adapter).run actions = some exchange) :
    ∀ delivery ∈ exchange.delivered, delivery.asker = some delivery.receiver := by
  have both : exchange.Aligned ∧ exchange.Own := by
    refine @System.Throughout.invariant _ _ _ _ _ _
      (fun exchange => exchange.Aligned ∧ exchange.Own) settled ?_ ?_ reached
    · refine ⟨⟨.init, rfl, rfl, fun _ none => ?_⟩,
        ⟨fun _ _ none => ?_, fun _ none => ?_⟩⟩
      · cases none
      · cases none
      · exact (List.not_mem_nil none).elim
    · intro state action next attaches held stepped
      exact step_own held.1 held.2 attaches stepped
  exact both.2.delivered

/-- A venue of one pair, whose frames say of which type they are. -/
def echo : Adapter Unit :=
  { name := "kraken", depths := [10, 100], bookChecksum := none, checkSymbol := fun _ => .ok ()
    connectRequests := [], makeBookRequest := fun _ book => book.symbol, makeDecoder := ()
    decode := fun decoder frame =>
      let type := if frame.json = "snapshot" then MessageType.snapshot else .update
      .find "XBT/USD" type fun precision =>
        if precision.isSome then .emit ⟨type, 0, 0, 0, "XBT/USD", [], []⟩ (.done decoder)
        else .done decoder }

/-- The decoder of the example carries its snapshot. -/
theorem echo_carries (decoder : Unit) :
    (echo.decode decoder ⟨"snapshot", 0⟩).Carries (some ("XBT/USD", .snapshot)) := by
  intro precision
  cases precision with
  | none => trivial
  | some known => exact ⟨rfl, trivial⟩

/-- A snapshot of the pair. -/
def echoed : VenueFrame echo := ⟨⟨"snapshot", 0⟩, some ("XBT/USD", .snapshot), echo_carries⟩

/-- A Connect. -/
def connects : List (Action echo) :=
  [.manager (.invoke 0 .connect), .manager (.acquire (.call 0))] ++
    List.replicate 9 (.manager .run)

/-- A Subscribe to the pair. -/
def subscribes (call : Nat) (id : SubscriptionId) (depth : UInt32) : List (Action echo) :=
  [.invoke call (.subscribe ⟨id, ⟨"XBT/USD", depth⟩, .ok ⟨1, 8⟩, fun _ => .ok (), 7⟩),
    .acquire (.call call), .run, .fetch call, .acquire (.call call), .run, .run, .run].map .manager

/-- An Unsubscribe. -/
def unsubscribes (call : Nat) (id : SubscriptionId) : List (Action echo) :=
  [.invoke call (.unsubscribe id), .acquire (.call call), .run, .run, .run].map .manager

/-- The venue handles the next request, with a snapshot if it is to. -/
def handles : List (Action echo) := [.handle echoed]

/-- A frame is read and parsed. -/
def receives : List (Action echo) :=
  [.read, .manager (.network .push)] ++ List.replicate 4 (.manager .parse)

/-- A pair that is subscribed again once its first snapshot has come. -/
def settledRun : List (Action echo) :=
  connects ++ subscribes 1 256 10 ++ handles ++ receives ++ unsubscribes 2 256 ++
    subscribes 3 512 100 ++ handles ++ handles ++ receives

/-- A pair that is subscribed again while its first snapshot is on its way. -/
def unsettledRun : List (Action echo) :=
  connects ++ subscribes 1 256 10 ++ handles ++ unsubscribes 2 256 ++ subscribes 3 512 100 ++
    receives

/-- Two subscriptions, each with its own snapshot. -/
theorem delivers_own_resubscribed :
    ∃ exchange, (system echo).run settledRun = some exchange ∧
      (exchange.delivered.map Delivery.receiver = [0, 1] ∧
        ∀ delivery ∈ exchange.delivered, delivery.asker = some delivery.receiver) := by
  have runs : ((system echo).run settledRun).any (fun exchange =>
      exchange.delivered.map Delivery.receiver == [0, 1]) = true := by
    decide +kernel
  have settled : (system echo).Throughout AttachesSettled settledRun := by
    apply System.Throughout.of_indices
    decide +kernel
  obtain ⟨exchange, reached, seen⟩ := (Option.any_eq_true _ _).mp runs
  exact ⟨exchange, reached, beq_iff_eq.mp seen, delivers_own settled reached⟩

/-- A snapshot that was sent for one subscription is delivered to the next one. -/
theorem delivers_unsettled :
    ¬ ∀ (Decoder : Type) (adapter : Adapter Decoder) (actions : List (Action adapter))
      (exchange : Exchange adapter), (system adapter).run actions = some exchange →
        ∀ delivery ∈ exchange.delivered, delivery.asker = some delivery.receiver := by
  intro own
  have runs : ((system echo).run unsettledRun).any (fun exchange =>
      exchange.delivered.map (fun delivery => (delivery.receiver, delivery.asker)) ==
        [(1, some 0)]) = true := by
    decide +kernel
  obtain ⟨exchange, reached, seen⟩ := (Option.any_eq_true _ _).mp runs
  obtain ⟨delivery, delivered, same⟩ := List.map_eq_singleton_iff.mp (beq_iff_eq.mp seen)
  have asker := own Unit echo unsettledRun exchange reached delivery
    (delivered ▸ List.mem_singleton_self delivery)
  obtain ⟨receiver, first⟩ := Prod.mk.inj same
  rw [receiver, first] at asker
  exact absurd asker (by decide)

end Exchange

end DataFeed.Venue
