import DataFeed.Venue.Connections
import DataFeed.Venue.SubscriptionTable

/-! # No checksum mismatch is forgotten

A pair that fails its checksum is queued, taken by the resubscriber, and resubscribed
under the life cycle lock. `Attends` says of every mismatch on the connection, of a pair
that is still routed, that it is at one of these stages. A pair is queued once, and the
runs of `Resubscribe` for one pair keep their distance (`Spaced`).
-/

namespace DataFeed.Venue

open Foundation L2 Net DataFeed.Core

namespace ResubscriberThread

/-- The thread has taken the pair, and `Resubscribe` has not returned yet. -/
def Holds (thread : ResubscriberThread) (symbol : String) : Prop :=
  thread = .taken symbol ∨ ∃ began, thread = .resubscribing symbol began

end ResubscriberThread

namespace Resubscriber

/-- Two runs for one pair are at least the interval apart. -/
def Apart (earlier later : ResubscribeRun) : Prop :=
  earlier.symbol = later.symbol → earlier.ended + minResubscribeInterval ≤ later.began

/-- The runs so far keep their distance, and so does the one that is under way. -/
structure Spaced (resubscriber : Resubscriber) : Prop where
  once : resubscriber.pending.Nodup
  apart : resubscriber.runs.Pairwise Apart
  ended : ∀ run ∈ resubscriber.runs, run.ended ≤ resubscriber.now
  noted : ∀ run ∈ resubscriber.runs, resubscriber.thread = .returned run.symbol ∨
    ∃ time, resubscriber.last.find? run.symbol = some time ∧ run.ended ≤ time
  running : ∀ symbol began, resubscriber.thread = .resubscribing symbol began →
    ∀ run ∈ resubscriber.runs, run.symbol = symbol →
      run.ended + minResubscribeInterval ≤ began

namespace Spaced

variable {resubscriber : Resubscriber}

/-- A new resubscriber has nothing to wait for. -/
theorem init : Resubscriber.init.Spaced where
  once := List.nodup_nil
  apart := .nil
  ended _ member := (List.not_mem_nil member).elim
  noted _ member := (List.not_mem_nil member).elim
  running _ _ _ _ member := (List.not_mem_nil member).elim

/-- A request keeps the spacing. -/
theorem request (spaced : resubscriber.Spaced) (symbol : String) :
    (resubscriber.request symbol).Spaced := by
  unfold Resubscriber.request
  split
  · exact spaced
  · rename_i absent
    refine { spaced with once := ?_ }
    rw [← List.concat_eq_append]
    exact List.Nodup.concat absent spaced.once

/-- So do several. -/
theorem requests (spaced : resubscriber.Spaced) (symbols : List String) :
    (symbols.foldl Resubscriber.request resubscriber).Spaced := by
  induction symbols generalizing resubscriber with
  | nil => exact spaced
  | cons symbol rest ih => exact ih (spaced.request symbol)

/-- So does the passing of time. -/
theorem tick (spaced : resubscriber.Spaced) (elapsed : Nat) :
    { resubscriber with now := resubscriber.now + elapsed : Resubscriber }.Spaced :=
  { spaced with
    ended := fun run member => (spaced.ended run member).trans (Nat.le_add_right _ _) }

/-- So does a step of the resubscriber's thread. -/
theorem step {next : Resubscriber} (spaced : resubscriber.Spaced)
    (stepped : resubscriber.step = some next) : next.Spaced := by
  unfold Resubscriber.step at stepped
  split at stepped
  · rename_i waiting
    split at stepped
    · contradiction
    · rename_i symbol rest pending
      obtain rfl := Option.some.inj stepped
      have once := spaced.once
      rw [pending] at once
      refine { spaced with
        once := once.of_cons
        noted := fun run member => Or.inr ?_
        running := fun _ _ same => ResubscriberThread.noConfusion same }
      refine (spaced.noted run member).resolve_left fun returned => ?_
      rw [waiting] at returned
      contradiction
  · rename_i symbol taken
    split at stepped
    · rename_i due
      obtain rfl := Option.some.inj stepped
      have noted : ∀ run ∈ resubscriber.runs,
          ∃ time, resubscriber.last.find? run.symbol = some time ∧ run.ended ≤ time := by
        refine fun run member => (spaced.noted run member).resolve_left fun returned => ?_
        rw [taken] at returned
        contradiction
      refine { spaced with noted := fun run member => Or.inr (noted run member), running := ?_ }
      intro other began same run member here
      obtain ⟨rfl, rfl⟩ := ResubscriberThread.resubscribing.inj same
      obtain ⟨time, last, before⟩ := noted run member
      rw [here] at last
      rw [Resubscriber.due, last] at due
      have late := of_decide_eq_true due
      omega
    · contradiction
  · contradiction
  · rename_i symbol returned
    obtain rfl := Option.some.inj stepped
    refine { spaced with
      noted := fun run member => Or.inr ?_
      running := fun _ _ same => ResubscriberThread.noConfusion same }
    dsimp only
    rw [OrderedMap.find?_insert]
    split
    · exact ⟨_, rfl, spaced.ended run member⟩
    · rename_i other
      refine (spaced.noted run member).resolve_left fun same => ?_
      rw [returned] at same
      exact other (ResubscriberThread.returned.inj same).symm

/-- So does the end of a resubscription. -/
theorem finish (spaced : resubscriber.Spaced) : resubscriber.finish.Spaced := by
  unfold Resubscriber.finish
  split
  · rename_i symbol began running
    refine
      { once := spaced.once
        apart := ?_
        ended := fun run member => ?_
        noted := fun run member => ?_
        running := fun _ _ same => ResubscriberThread.noConfusion same }
    · refine List.pairwise_append.mpr ⟨spaced.apart, List.pairwise_singleton _ _, ?_⟩
      intro run member other last same
      obtain rfl := List.mem_singleton.mp last
      exact spaced.running symbol began running run member same
    · rcases List.mem_append.mp member with old | new
      · exact spaced.ended run old
      · rw [List.mem_singleton.mp new]
    · rcases List.mem_append.mp member with old | new
      · refine Or.inr ((spaced.noted run old).resolve_left fun returned => ?_)
        rw [running] at returned
        contradiction
      · rw [List.mem_singleton.mp new]
        exact Or.inl rfl
  · exact spaced
  · exact spaced
  · exact spaced

end Spaced

end Resubscriber

/-- A pair that the thread takes is held, and one that is held stays so. -/
theorem Resubscriber.step_holds {resubscriber next : Resubscriber}
    (stepped : resubscriber.step = some next) :
    (∀ symbol ∈ resubscriber.pending, symbol ∈ next.pending ∨ next.thread.Holds symbol) ∧
      (∀ symbol, resubscriber.thread.Holds symbol → next.thread.Holds symbol) ∧
      ∀ symbol began, resubscriber.thread ≠ .resubscribing symbol began := by
  unfold Resubscriber.step at stepped
  unfold ResubscriberThread.Holds
  split at stepped
  · rename_i waiting
    split at stepped
    · contradiction
    · rename_i first rest pending
      obtain rfl := Option.some.inj stepped
      rw [waiting, pending]
      refine ⟨fun symbol member => ?_, fun symbol held => ?_, nofun⟩
      · rcases List.mem_cons.mp member with rfl | later
        · exact Or.inr (Or.inl rfl)
        · exact Or.inl later
      · simp only [reduceCtorEq, exists_false, or_self] at held
  · rename_i taken
    split at stepped
    · obtain rfl := Option.some.inj stepped
      rw [taken]
      refine ⟨fun _ member => Or.inl member, fun symbol held => ?_, nofun⟩
      simp only [ResubscriberThread.taken.injEq, reduceCtorEq, exists_false, or_false] at held
      exact Or.inr ⟨_, by rw [held]⟩
    · contradiction
  · contradiction
  · rename_i returned
    obtain rfl := Option.some.inj stepped
    rw [returned]
    refine ⟨fun _ member => Or.inl member, fun symbol held => ?_, nofun⟩
    simp only [reduceCtorEq, exists_false, or_self] at held

/-- A resubscription that ends leaves the pending requests, and the thread to return. -/
theorem Resubscriber.finish_eq {resubscriber : Resubscriber} {symbol : String} {began : Nat}
    (running : resubscriber.thread = .resubscribing symbol began) :
    resubscriber.finish.pending = resubscriber.pending ∧
      resubscriber.finish.thread = .returned symbol := by
  unfold Resubscriber.finish
  rw [running]
  exact ⟨rfl, rfl⟩

/-- After a mismatch, the venue is asked to stop the pair and then to start it again. -/
def Resent (symbol : String) (later : List Event) : Prop :=
  ∃ book front middle back, book.symbol = symbol ∧
    later = front ++ .sent .unsubscribe book :: (middle ++ .sent .subscribe book :: back)

/-- Every mismatch, since a connection was started, of a pair that has been routed ever
since, is attended to: the pair is pending, the resubscriber has it, or it has been
resubscribed. -/
def Attends (pending : List String) (thread : ResubscriberThread) (log : List Event) : Prop :=
  ∀ symbol past later, log = past ++ .mismatched symbol :: later → .started ∉ later →
    .detached symbol ∉ later → symbol ∈ pending ∨ thread.Holds symbol ∨ Resent symbol later

/-- A pair that has not been detached since a mismatch is routed. -/
def StillRouted (parser : L2Parser) (log : List Event) : Prop :=
  ∀ symbol past later, log = past ++ .mismatched symbol :: later → .detached symbol ∉ later →
    parser.served symbol ≠ none

/-- What has been sent again stays so. -/
theorem Resent.append {symbol : String} {later : List Event} (resent : Resent symbol later)
    (events : List Event) : Resent symbol (later ++ events) := by
  obtain ⟨book, front, middle, back, same, rfl⟩ := resent
  exact ⟨book, front, middle, back ++ events, same, by
    simp only [List.append_assoc, List.cons_append]⟩

/-- A pair's mismatch in an extended log is an old one or a new one. -/
theorem mismatch_append {log events past later : List Event} {symbol : String}
    (none_new : .mismatched symbol ∉ events)
    (split : log ++ events = past ++ .mismatched symbol :: later) :
    ∃ rest, log = past ++ .mismatched symbol :: rest ∧ later = rest ++ events := by
  rcases split_append split with old | ⟨front, _, rfl⟩
  · exact old
  · exact (none_new (List.mem_append_right _ List.mem_cons_self)).elim

namespace Attends

variable {pending : List String} {thread : ResubscriberThread} {log events : List Event}

/-- Nothing new fails its checksum. -/
theorem append (attends : Attends pending thread log)
    (none_new : ∀ symbol, .mismatched symbol ∉ events) : Attends pending thread (log ++ events) := by
  intro symbol past later split running routed
  obtain ⟨rest, before, rfl⟩ := mismatch_append (none_new symbol) split
  rcases attends symbol past rest before
    (fun member => running (List.mem_append_left _ member))
    (fun member => routed (List.mem_append_left _ member)) with waits | held | resent
  · exact Or.inl waits
  · exact Or.inr (Or.inl held)
  · exact Or.inr (Or.inr (resent.append events))

/-- A pair that waits or is held may only move on. -/
theorem mono {now : List String} {next : ResubscriberThread} (attends : Attends pending thread log)
    (waits : ∀ symbol ∈ pending, symbol ∈ now ∨ next.Holds symbol)
    (held : ∀ symbol, thread.Holds symbol → symbol ∈ now ∨ next.Holds symbol) :
    Attends now next log := by
  intro symbol past later split running routed
  rcases attends symbol past later split running routed with waiting | holds | resent
  · exact (waits symbol waiting).elim Or.inl fun holds => Or.inr (Or.inl holds)
  · exact (held symbol holds).elim Or.inl fun holds => Or.inr (Or.inl holds)
  · exact Or.inr (Or.inr resent)

/-- A connection that is started has no mismatch yet. -/
theorem start (none_new : ∀ symbol, .mismatched symbol ∉ events) (started : .started ∈ events) :
    Attends pending thread (log ++ events) := by
  intro symbol past later split running _
  obtain ⟨rest, _, rfl⟩ := mismatch_append (none_new symbol) split
  exact (running (List.mem_append_right _ started)).elim

end Attends

/-- The mismatches among some events are those that were logged. -/
theorem mem_mismatches {events : List Event} {symbol : String} :
    symbol ∈ mismatches events ↔ .mismatched symbol ∈ events := by
  unfold mismatches
  rw [List.mem_filterMap]
  constructor
  · intro ⟨event, member, same⟩
    cases event with
    | mismatched pair =>
        obtain rfl := Option.some.inj same
        exact member
    | _ => exact (Option.some_ne_none _ same.symm).elim
  · exact fun member => ⟨_, member, rfl⟩

/-- A request adds its pair to the pending ones, and leaves the thread where it is. -/
theorem request_eq (resubscriber : Resubscriber) (symbol : String) :
    (resubscriber.request symbol).thread = resubscriber.thread ∧
      symbol ∈ (resubscriber.request symbol).pending ∧
      ∀ other ∈ resubscriber.pending, other ∈ (resubscriber.request symbol).pending := by
  unfold Resubscriber.request
  split
  · rename_i present
    exact ⟨rfl, present, fun _ member => member⟩
  · exact ⟨rfl, List.mem_append_right _ (List.mem_singleton_self symbol),
      fun _ member => List.mem_append_left _ member⟩

/-- Pairs that are told join the queue, and none leaves it. -/
theorem requests_eq (symbols : List String) (resubscriber : Resubscriber) :
    (symbols.foldl Resubscriber.request resubscriber).thread = resubscriber.thread ∧
      (∀ symbol ∈ symbols, symbol ∈ (symbols.foldl Resubscriber.request resubscriber).pending) ∧
      ∀ other ∈ resubscriber.pending,
        other ∈ (symbols.foldl Resubscriber.request resubscriber).pending := by
  induction symbols generalizing resubscriber with
  | nil => exact ⟨rfl, fun _ member => (List.not_mem_nil member).elim, fun _ member => member⟩
  | cons symbol rest ih =>
      obtain ⟨thread, joins, stays⟩ := request_eq resubscriber symbol
      obtain ⟨same, told, kept⟩ := ih (resubscriber.request symbol)
      refine ⟨same.trans thread, fun other member => ?_, fun other member =>
        kept other (stays other member)⟩
      rcases List.mem_cons.mp member with rfl | later
      · exact kept other joins
      · exact told other later

/-- A change that fails its checksum is attended to at once. -/
theorem Attends.emit {resubscriber : Resubscriber} {log : List Event}
    (attends : Attends resubscriber.pending resubscriber.thread log) (events : List Event) :
    Attends ((mismatches events).foldl Resubscriber.request resubscriber).pending
      ((mismatches events).foldl Resubscriber.request resubscriber).thread (log ++ events) := by
  obtain ⟨thread, told, kept⟩ := requests_eq (mismatches events) resubscriber
  intro symbol past later split running routed
  rcases split_append split with ⟨rest, before, rfl⟩ | ⟨front, _, rfl⟩
  · rcases attends symbol past rest before
      (fun member => running (List.mem_append_left _ member))
      (fun member => routed (List.mem_append_left _ member)) with waits | held | resent
    · exact Or.inl (kept symbol waits)
    · rw [thread]
      exact Or.inr (Or.inl held)
    · exact Or.inr (Or.inr (resent.append events))
  · refine Or.inl (told symbol (mem_mismatches.mpr ?_))
    exact List.mem_append_right _ List.mem_cons_self

namespace StillRouted

variable {parser next : L2Parser} {log events : List Event}

/-- A route goes only with its detachment. -/
theorem append (still : StillRouted parser log)
    (none_new : ∀ symbol, .mismatched symbol ∈ events → next.served symbol ≠ none)
    (kept : ∀ symbol, .detached symbol ∉ events → parser.served symbol ≠ none →
      next.served symbol ≠ none) : StillRouted next (log ++ events) := by
  intro symbol past later split routed
  rcases split_append split with ⟨rest, before, rfl⟩ | ⟨front, _, rfl⟩
  · refine kept symbol (fun member => routed (List.mem_append_right _ member)) ?_
    exact still symbol past rest before fun member => routed (List.mem_append_left _ member)
  · exact none_new symbol (List.mem_append_right _ List.mem_cons_self)

/-- What the parser emits leaves the mismatched pairs routed. -/
theorem emit (still : StillRouted parser log) (message : Message) :
    StillRouted (parser.emit message).1 (log ++ (parser.emit message).2) := by
  refine still.append (fun symbol member => ?_) fun symbol _ served => ?_
  · rw [L2Parser.served_emit]
    rcases parser.emit_cases message with ⟨_, emitted⟩ | ⟨route, found, _, emitted⟩ |
      ⟨_, _, _, emitted⟩
    · rw [emitted] at member
      simp only [List.mem_singleton, reduceCtorEq] at member
    · rw [emitted] at member
      simp only [List.mem_cons, reduceCtorEq, Event.mismatched.injEq, List.not_mem_nil, or_false,
        false_or] at member
      rw [L2Parser.served, member, (L2Parser.findRoute_eq_some_iff.mp found).1]
      exact Option.some_ne_none _
    · rw [emitted] at member
      simp only [List.mem_cons, reduceCtorEq, List.not_mem_nil, or_self] at member
  · rw [L2Parser.served_emit]
    exact served

end StillRouted

/-- Requests for books are no mismatches. -/
theorem unmismatched_sent (up : Bool) (request : BookRequest) (books : List BookSpec)
    (symbol : String) :
    .mismatched symbol ∉ (if up then books.map (Event.sent request) else []) := by
  intro member
  split at member
  · obtain ⟨_, _, same⟩ := List.mem_map.mp member
    exact Event.noConfusion same
  · exact List.not_mem_nil member

/-- Attaching a pair is no mismatch. -/
theorem unmismatched_attach {parser next : L2Parser} {symbol : String} {precision : PairPrecision}
    {depth : UInt32} {receiver : ReceiverId} {events : List Event}
    (attached : parser.attach symbol precision depth receiver = .ok (next, events))
    (pair : String) : .mismatched pair ∉ events := by
  obtain ⟨_, _, rfl⟩ := L2Parser.attach_eq_ok_iff.mp attached
  exact fun member => Event.noConfusion (List.mem_singleton.mp member)

/-- The mismatches of a book are followed by its unsubscribe request, but for those of
pairs that are pending. -/
def Asked (pending : List String) (log : List Event) (book : BookSpec) : Prop :=
  ∀ past later, log = past ++ .mismatched book.symbol :: later →
    book.symbol ∈ pending ∨ .sent .unsubscribe book ∈ later

/-- A pair that was asked for stays so, and so does one that mismatches now. -/
theorem Asked.emit {resubscriber : Resubscriber} {log : List Event} {book : BookSpec}
    (asked : Asked resubscriber.pending log book) (events : List Event) :
    Asked ((mismatches events).foldl Resubscriber.request resubscriber).pending
      (log ++ events) book := by
  obtain ⟨_, told, kept⟩ := requests_eq (mismatches events) resubscriber
  intro past later split
  rcases split_append split with ⟨rest, before, rfl⟩ | ⟨front, _, rfl⟩
  · exact (asked past rest before).imp (kept _) (List.mem_append_left _)
  · refine Or.inl (told _ (mem_mismatches.mpr ?_))
    exact List.mem_append_right _ List.mem_cons_self

namespace L2Manager

variable {Decoder : Type} {adapter : Adapter Decoder} {manager : L2Manager Decoder}

/-- A locked section leaves the resubscriber alone. -/
theorem SectionStep.resubscriber {current : Section} {next : L2Manager Decoder} {after : Next}
    (moved : SectionStep adapter manager current next after) :
    next.resubscriber = manager.resubscriber := by
  cases moved <;> rfl

/-- Only the resubscriber's sections lead to one of its own. -/
theorem SectionStep.own {current goes : Section} {next : L2Manager Decoder} {after : Next}
    (moved : SectionStep adapter manager current next after) (other : ¬ Resubscribing current)
    (goesOn : after.section? = some goes) : ¬ Resubscribing goes := by
  cases moved with
  | endConnection reconnect _ same =>
      rw [same] at goesOn
      cases reconnect with
      | false => exact (Option.some_ne_none _ goesOn.symm).elim
      | true =>
          obtain rfl := Option.some.inj goesOn
          exact not_false
  | resubscribe => exact (other trivial).elim
  | unhealthy | disconnectFeed | joinFeed | stopParser | joinParser | startParser | connectFeed
  | stopRefused | built | attached | detached | sendUnsubscribe =>
      obtain rfl := Option.some.inj goesOn
      exact not_false
  | _ => exact (Option.some_ne_none _ goesOn.symm).elim

/-- What a locked section does leaves no mismatch of the connection unattended. -/
theorem SectionStep.attends {current : Section} {next : L2Manager Decoder} {after : Next}
    {pending : List String} {thread : ResubscriberThread}
    (moved : SectionStep adapter manager current next after)
    (attends : manager.connected = true ∨ current = .connectFeed →
      Attends pending thread manager.log) :
    next.connected = true ∨ after.section? = some .connectFeed →
      Attends pending thread next.log := by
  cases moved with
  | endConnection reconnect _ goes =>
      rw [goes]
      intro up
      rcases up with connected | next
      · exact Bool.noConfusion connected
      · cases reconnect with
        | false => exact (Option.some_ne_none _ next.symm).elim
        | true => exact Section.noConfusion (Option.some.inj next)
  | startParser =>
      exact fun _ => Attends.start (fun _ member => Event.noConfusion (List.mem_singleton.mp member))
        (List.mem_singleton_self _)
  | connectFeed => exact fun _ => attends (Or.inr rfl)
  | sendRequests =>
      exact fun up => (attends (Or.inl (up.resolve_right nofun))).append
        (unmismatched_sent manager.connected .subscribe _)
  | attached request precision receiver parser events idle done =>
      exact fun up => (attends (Or.inl (up.resolve_right nofun))).append (unmismatched_attach done)
  | sendSubscribe request =>
      exact fun up => (attends (Or.inl (up.resolve_right nofun))).append
        (unmismatched_sent manager.connected .subscribe [request.book])
  | detached =>
      exact fun up => (attends (Or.inl (up.resolve_right nofun))).append fun _ member =>
        Event.noConfusion (List.mem_singleton.mp member)
  | sendUnsubscribe id book =>
      exact fun up => (attends (Or.inl (up.resolve_right nofun))).append
        (unmismatched_sent manager.connected .unsubscribe [book])
  | resubscribe symbol id subscription =>
      exact fun up => (attends (Or.inl (up.resolve_right nofun))).append
        (unmismatched_sent true .unsubscribe [subscription.book])
  | resendSubscribe id book =>
      exact fun up => (attends (Or.inl (up.resolve_right nofun))).append
        (unmismatched_sent manager.connected .subscribe [book])
  | _ => exact fun up => attends (Or.inl (up.resolve_right nofun))

/-- The steps of the lock's holder leave the mismatched pairs routed. -/
theorem SectionStep.still {current : Section} {next : L2Manager Decoder} {after : Next}
    (moved : SectionStep adapter manager current next after)
    (still : StillRouted manager.parser manager.log) : StillRouted next.parser next.log := by
  have quiet : ∀ events : List Event, (∀ symbol, .mismatched symbol ∉ events) →
      StillRouted manager.parser (manager.log ++ events) := fun events none_new =>
    still.append (fun symbol member => (none_new symbol member).elim) fun _ _ served => served
  cases moved with
  | endConnection =>
      refine quiet _ fun symbol member => ?_
      split at member
      · obtain ⟨_, _, same⟩ := List.mem_map.mp member
        exact Event.noConfusion same
      · exact List.not_mem_nil member
  | startParser =>
      refine still.append (fun symbol member => ?_) fun symbol _ served => ?_
      · exact Event.noConfusion (List.mem_singleton.mp member)
      · change manager.parser.start.1.served symbol ≠ none
        rw [L2Parser.served_start]
        exact served
  | attached request precision receiver parser events idle done =>
      refine still.append (fun symbol member => (unmismatched_attach done symbol member).elim)
        fun symbol _ served => ?_
      rw [L2Parser.served_attach done]
      split
      · exact Option.some_ne_none _
      · exact served
  | detached id subscription =>
      refine still.append (fun symbol member => ?_) fun symbol other served => ?_
      · exact Event.noConfusion (List.mem_singleton.mp member)
      · rw [L2Parser.served_detach, if_neg]
        · exact served
        · intro same
          rw [same] at other
          exact other (List.mem_singleton_self _)
  | sendRequests => exact quiet _ (unmismatched_sent manager.connected .subscribe _)
  | sendSubscribe request =>
      exact quiet _ (unmismatched_sent manager.connected .subscribe [request.book])
  | sendUnsubscribe id book =>
      exact quiet _ (unmismatched_sent manager.connected .unsubscribe [book])
  | resubscribe symbol id subscription =>
      exact quiet _ (unmismatched_sent true .unsubscribe [subscription.book])
  | resendSubscribe id book =>
      exact quiet _ (unmismatched_sent manager.connected .subscribe [book])
  | _ => exact still

/-- Mismatches are attended to, and the resubscriber holds the lock only for a pair that
it has taken. -/
structure Attended (manager : L2Manager Decoder) : Prop where
  spaced : manager.resubscriber.Spaced
  still : StillRouted manager.parser manager.log
  attends : manager.connected = true ∨ manager.current = some .connectFeed →
    Attends manager.resubscriber.pending manager.resubscriber.thread manager.log
  holding : ∀ current, manager.lock = some (.resubscriber, current) →
    ∃ symbol began, manager.resubscriber.thread = .resubscribing symbol began ∧
      (current = .resubscribe symbol ∨
        ∃ id book, current = .resendSubscribe id book ∧ book.symbol = symbol ∧
          Asked manager.resubscriber.pending manager.log book)
  calling : ∀ call current, manager.lock = some (.call call, current) → ¬ Resubscribing current

namespace Attended

/-- A new manager has nothing to attend to. -/
theorem init : (L2Manager.init adapter).Attended where
  spaced := .init
  still _ past later split :=
    (List.append_ne_nil_of_right_ne_nil past (List.cons_ne_nil _ later) split.symm).elim
  attends _ _ past later split :=
    (List.append_ne_nil_of_right_ne_nil past (List.cons_ne_nil _ later) split.symm).elim
  holding _ held := (Option.some_ne_none _ held.symm).elim
  calling _ _ held := (Option.some_ne_none _ held.symm).elim

/-- The parser's thread queues what it finds. -/
theorem parse {next : L2Manager Decoder} (attended : manager.Attended)
    (moved : ParserStep adapter manager next) : next.Attended := by
  cases moved with
  | decode decoder connection frame rest =>
      have none_new : ∀ symbol, (.mismatched symbol : Event) ∉ [.decoded connection] :=
        fun _ member => Event.noConfusion (List.mem_singleton.mp member)
      refine
        { spaced := attended.spaced
          still := attended.still.append (fun symbol member => (none_new symbol member).elim)
            fun _ _ served => served
          attends := fun up => (attended.attends up).append none_new
          holding := fun current held => ?_
          calling := attended.calling }
      obtain ⟨symbol, began, thread, own⟩ := attended.holding current held
      refine ⟨symbol, began, thread, own.imp_right ?_⟩
      intro ⟨id, book, goes, same, asked⟩
      refine ⟨id, book, goes, same, fun past later split => ?_⟩
      obtain ⟨rest, before, rfl⟩ := mismatch_append (none_new book.symbol) split
      exact (asked past rest before).imp_right (List.mem_append_left _)
  | emit message rest =>
      have thread := (requests_eq (mismatches (manager.parser.emit message).2)
        manager.resubscriber).1
      refine
        { spaced := attended.spaced.requests _
          still := attended.still.emit message
          attends := fun up => (attended.attends up).emit _
          holding := fun current held => ?_
          calling := attended.calling }
      obtain ⟨symbol, began, same, own⟩ := attended.holding current held
      refine ⟨symbol, began, thread.trans same, own.imp_right ?_⟩
      exact fun ⟨id, book, goes, here, asked⟩ => ⟨id, book, goes, here, asked.emit _⟩
  | exit | find | done | fail => exact { attended with }

/-- A call does something under the lock. -/
theorem call {call : Nat} {current : Section} {next : L2Manager Decoder} {after : Next}
    (attended : manager.Attended) (held : manager.lock = some (.call call, current))
    (moved : SectionStep adapter manager current next after) :
    (next.settle (.call call) after).Attended := by
  have other := attended.calling call current held
  have attends : manager.connected = true ∨ current = .connectFeed →
      Attends manager.resubscriber.pending manager.resubscriber.thread manager.log := by
    refine fun up => attended.attends (up.imp_right fun same => ?_)
    rw [L2Manager.current, held, same]
    rfl
  have attends := moved.attends attends
  have still := moved.still attended.still
  have spaced := attended.spaced
  rw [← moved.resubscriber] at attends spaced
  cases after with
  | goOn goes =>
      exact
        { spaced := spaced
          still := still
          attends := attends
          holding := fun _ same => Holder.noConfusion (Prod.mk.inj (Option.some.inj same)).1
          calling := fun _ _ same =>
            (Prod.mk.inj (Option.some.inj same)).2 ▸ moved.own other rfl }
  | release state =>
      exact
        { spaced := spaced
          still := still
          attends := attends
          holding := fun _ same => (Option.some_ne_none _ same.symm).elim
          calling := fun _ _ same => (Option.some_ne_none _ same.symm).elim }

/-- `Resubscribe` returns: the pair that the resubscriber held is attended to otherwise. -/
theorem finish {symbol : String} {began : Nat} {log : List Event} {pipeline : Pipeline Decoder}
    (attended : manager.Attended)
    (running : manager.resubscriber.thread = .resubscribing symbol began)
    (still : StillRouted manager.parser log)
    (attends : manager.connected = true →
      Attends manager.resubscriber.pending manager.resubscriber.thread log)
    (rest : manager.connected = true → ∀ past later, log = past ++ .mismatched symbol :: later →
      .detached symbol ∉ later → symbol ∈ manager.resubscriber.pending ∨ Resent symbol later)
    (state : CallState) :
    (settle { manager with pipeline := pipeline, log := log } .resubscriber
      (.release state)).Attended := by
  obtain ⟨pending, thread⟩ := Resubscriber.finish_eq running
  refine
    { spaced := attended.spaced.finish
      still := still
      attends := fun up => ?_
      holding := fun _ same => (Option.some_ne_none _ same.symm).elim
      calling := fun _ _ same => (Option.some_ne_none _ same.symm).elim }
  have connected : manager.connected = true := up.resolve_right nofun
  simp only [settle]
  rw [pending, thread]
  intro other past later split started routed
  rcases attends connected other past later split started routed with waits | held | sent
  · exact Or.inl waits
  · have same : other = symbol := by
      rw [running] at held
      rcases held with taken | ⟨_, resubscribing⟩
      · exact ResubscriberThread.noConfusion taken
      · exact (ResubscriberThread.resubscribing.inj resubscribing).1.symm
    rw [same] at split routed ⊢
    exact (rest connected past later split routed).imp_right Or.inr
  · exact Or.inr (Or.inr sent)

/-- Every step attends to the mismatches so far. -/
theorem step {next : L2Manager Decoder} (attended : manager.Attended)
    (tabled : manager.Tabled manager.current) (stepped : Step adapter manager next) :
    next.Attended := by
  cases stepped with
  | caller calls history => exact { attended with }
  | acquire call entry calls free begins own =>
      refine
        { attended with
          attends := fun up => attended.attends (Or.inl (up.resolve_right fun same => ?_))
          holding := fun _ same => Holder.noConfusion (Prod.mk.inj (Option.some.inj same)).1
          calling := fun _ _ same => (Prod.mk.inj (Option.some.inj same)).2 ▸ own }
      rw [show entry = .connectFeed from Option.some.inj same] at begins
      exact begins
  | resume symbol began free thread =>
      refine
        { attended with
          attends := fun up => attended.attends (Or.inl (up.resolve_right nofun))
          holding := fun current same => ?_
          calling := fun _ _ same => Holder.noConfusion (Prod.mk.inj (Option.some.inj same)).1 }
      obtain ⟨_, rfl⟩ := Prod.mk.inj (Option.some.inj same)
      exact ⟨symbol, began, thread, Or.inl rfl⟩
  | run holder current stepped after held moved =>
      cases holder with
      | call call => exact attended.call held moved
      | resubscriber =>
          have attends := moved.attends fun up => attended.attends (up.imp_right fun same => by
            rw [L2Manager.current, held, same]
            rfl)
          have still := moved.still attended.still
          obtain ⟨symbol, began, thread, rfl | ⟨id, book, rfl, same, asked⟩⟩ :=
            attended.holding current held
          · cases moved with
            | gone _ gone =>
                refine attended.finish thread still (fun up => attends (Or.inl up))
                  (fun up past later split routed => ?_) _
                obtain ⟨served, shown⟩ := Option.ne_none_iff_exists'.mp
                  (attended.still symbol past later split routed)
                obtain ⟨id, subscription, present, same, _⟩ := (tabled.routed _ _).mp shown
                rcases gone with absent | down
                · exact (findSymbol_eq_none absent present same).elim
                · exact (Bool.false_ne_true (down.symm.trans up)).elim
            | resubscribe _ id subscription connection found up =>
                refine
                  { spaced := attended.spaced
                    still := still
                    attends := attends
                    holding := fun current goes => ?_
                    calling := fun _ _ goes =>
                      Holder.noConfusion (Prod.mk.inj (Option.some.inj goes)).1 }
                obtain ⟨_, rfl⟩ := Prod.mk.inj (Option.some.inj goes)
                refine ⟨symbol, began, thread, Or.inr ⟨id, subscription.book, rfl,
                  (findSymbol_eq_some found).2, fun past later split => Or.inr ?_⟩⟩
                obtain ⟨rest, _, rfl⟩ := mismatch_append
                  (unmismatched_sent true .unsubscribe [subscription.book] _) split
                exact List.mem_append_right _ (List.mem_singleton_self _)
          · cases moved with
            | resendSubscribe _ _ connection =>
                refine attended.finish thread still (fun up => attends (Or.inl up))
                  (fun up past later split _ => ?_) _
                rw [if_pos up] at split
                obtain ⟨rest, before, rfl⟩ := mismatch_append
                  (unmismatched_sent true .subscribe [book] _) split
                rw [← same] at before ⊢
                refine (asked past rest before).imp_right fun sent => ?_
                obtain ⟨front, middle, rfl⟩ := List.append_of_mem sent
                refine ⟨book, front, middle, [], rfl, ?_⟩
                rw [List.append_assoc]
                rfl
  | refuse holder what held =>
      cases holder with
      | resubscriber =>
          obtain ⟨_, _, _, own | ⟨_, _, own, _⟩⟩ := attended.holding _ held
          · exact Section.noConfusion own
          · exact Section.noConfusion own
      | call call =>
          exact
            { attended with
              attends := fun up => attended.attends (Or.inl (up.resolve_right nofun))
              holding := fun _ same => Holder.noConfusion (Prod.mk.inj (Option.some.inj same)).1
              calling := fun _ _ same =>
                (Prod.mk.inj (Option.some.inj same)).2 ▸ not_false }
  | network thread failed frames running numbered => exact { attended with }
  | parse _ moved => exact attended.parse moved
  | resubscriber resubscriber moved =>
      obtain ⟨waits, held, idle⟩ := Resubscriber.step_holds moved
      exact
        { spaced := attended.spaced.step moved
          still := attended.still
          attends := fun up => (attended.attends up).mono waits fun symbol holds =>
            Or.inr (held symbol holds)
          holding := fun current locked => by
            obtain ⟨symbol, began, running, _⟩ := attended.holding current locked
            exact (idle symbol began running).elim
          calling := attended.calling }
  | tick elapsed =>
      exact { attended with spaced := attended.spaced.tick elapsed }

/-- Every mismatch is attended to, in every reachable state. -/
theorem of_reachable (reachable : (system adapter).Reachable manager) : manager.Attended := by
  apply reachable.induction
  · exact init
  · exact fun _ _ _ before attended stepped =>
      attended.step (Tabled.of_reachable before) (step_cases stepped)

end Attended

/-- **No mismatch is forgotten, and resubscribing is rate limited.** In every reachable
state no pair is queued twice, and any two runs of `Resubscribe` for one pair, the one
under way included, are at least the interval apart. For every mismatch on the current
connection of a pair that is still routed, whether its route still awaits the snapshot
or not, the pair is pending, or the resubscriber has taken it and `Resubscribe` has not
returned, or it was unsubscribed and subscribed again after the mismatch. -/
theorem mismatches_attended (reachable : (system adapter).Reachable manager) :
    manager.resubscriber.pending.Nodup ∧
      manager.resubscriber.runs.Pairwise Resubscriber.Apart ∧
      (∀ symbol began, manager.resubscriber.thread = .resubscribing symbol began →
        ∀ run ∈ manager.resubscriber.runs, run.symbol = symbol →
          run.ended + Resubscriber.minResubscribeInterval ≤ began) ∧
      (manager.connected = true → ∀ symbol past later,
        manager.log = past ++ .mismatched symbol :: later →
          .started ∉ later → .detached symbol ∉ later →
            symbol ∈ manager.resubscriber.pending ∨
              manager.resubscriber.thread.Holds symbol ∨ Resent symbol later) := by
  have attended := Attended.of_reachable reachable
  exact ⟨attended.spaced.once, attended.spaced.apart, attended.spaced.running,
    fun up => attended.attends (Or.inl up)⟩

/-- A pair that fails its checksum is taken, and resubscribed on the connection. -/
theorem mismatches_attended_resent :
    let message : Message := ⟨.snapshot, 7, 0, 0, "XBT/USD", [⟨100, 5⟩], []⟩
    let adapter : Adapter Unit :=
      { name := "kraken", depths := [10]
        bookChecksum := some fun book => (book.bids.size + book.asks.size).toUInt32
        checkSymbol := fun _ => .ok (), connectRequests := []
        makeBookRequest := fun _ book => book.symbol, makeDecoder := ()
        decode := fun decoder _ => .emit message (.done decoder) }
    let request : SubscribeRequest :=
      ⟨256, ⟨"XBT/USD", 10⟩, .ok ⟨1, 8⟩, fun _ => .ok (), 7⟩
    let later : List Event :=
      [.sent .unsubscribe request.book, .sent .subscribe request.book]
    ∃ manager : L2Manager Unit,
      (system adapter).run
        ([.invoke 0 (.subscribe request), .acquire (.call 0), .run, .fetch 0,
            .acquire (.call 0)] ++ List.replicate 3 .run ++
          [.invoke 1 .connect, .acquire (.call 1)] ++ List.replicate 9 .run ++
          [.network (.read ⟨"", 0⟩), .network .push, .parse, .parse, .resubscribe,
            .resubscribe, .acquire .resubscriber, .run, .run]) = some manager ∧
      (manager.connected = true ∧
        manager.log = [.attached "XBT/USD" 10 0, .started, .sent .subscribe request.book,
          .decoded 1, .emitted message true, .gapped 0 .resubscribing] ++
            .mismatched "XBT/USD" :: later ∧
        manager.resubscriber.pending = [] ∧
        manager.resubscriber.thread = .returned "XBT/USD") ∧
      Resent "XBT/USD" later := by
  intro message adapter request later
  have ran : ((system adapter).run
      (([.invoke 0 (.subscribe request), .acquire (.call 0), .run, .fetch 0,
          .acquire (.call 0)] : List Action) ++ List.replicate 3 Action.run ++
        ([.invoke 1 .connect, .acquire (.call 1)] : List Action) ++ List.replicate 9 Action.run ++
        ([.network (.read ⟨"", 0⟩), .network .push, .parse, .parse, .resubscribe,
          .resubscribe, .acquire .resubscriber, .run, .run] : List Action))).map
      (fun manager => (manager.connected, manager.log, manager.resubscriber.pending,
        manager.resubscriber.thread)) =
      some (true, [.attached "XBT/USD" 10 0, .started, .sent .subscribe request.book,
        .decoded 1, .emitted message true, .gapped 0 .resubscribing] ++
          .mismatched "XBT/USD" :: later, [], .returned "XBT/USD") := by
    decide
  obtain ⟨manager, reached, seen⟩ := Option.map_eq_some_iff.mp ran
  obtain ⟨up, log, pending, thread⟩ : manager.connected = true ∧
      manager.log = _ ∧ manager.resubscriber.pending = [] ∧
      manager.resubscriber.thread = .returned "XBT/USD" := by
    simpa only [Prod.mk.injEq] using seen
  refine ⟨manager, reached, ⟨up, log, pending, thread⟩, ?_⟩
  obtain ⟨_, _, _, attended⟩ := mismatches_attended ⟨_, reached⟩
  rcases attended up "XBT/USD" _ later log (by decide) (by decide) with waits | held | resent
  · rw [pending] at waits
    exact (List.not_mem_nil waits).elim
  · rw [thread] at held
    rcases held with taken | ⟨_, resubscribing⟩
    · exact ResubscriberThread.noConfusion taken
    · exact ResubscriberThread.noConfusion resubscribing
  · exact resent

end L2Manager

end DataFeed.Venue
