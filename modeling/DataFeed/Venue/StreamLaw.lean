import DataFeed.Venue.SnapshotFirst

/-! # What a receiver gets, and when

`progress` follows a receiver's stream by what happened: to which pair it is
attached, whether it awaits a snapshot, and what it is to get of the changes that
the decoder emits. `Tracks` says that the parser's routes are as far, so a receiver
gets exactly that. `Told` is about connections: between two of them a receiver that
got messages on the first is told of the gap.
-/

namespace DataFeed.Venue

open Foundation L2 DataFeed.Core

/-- How far a receiver's stream is. -/
structure Progress where
  pair : Option String
  awaiting : Bool
  got : List Message

namespace Progress

/-- What an event changes. A change of the receiver's pair that comes while it awaits a
snapshot is for it only if it is one. One that fails its checksum makes it await the
next, and so does the end of its connection. -/
def after (receiver : ReceiverId) (progress : Progress) : Event → Progress
  | .attached symbol _ target =>
      if target = receiver then { progress with pair := some symbol, awaiting := true }
      else progress
  | .detached symbol =>
      if progress.pair = some symbol then { progress with pair := none } else progress
  | .started => { progress with awaiting := true }
  | .emitted message mismatch =>
      if progress.pair = some message.symbol ∧
          (message.type = .snapshot ∨ progress.awaiting = false) then
        if mismatch then { progress with awaiting := true }
        else { progress with awaiting := false, got := progress.got ++ [message] }
      else progress
  | .gapped target .disconnected =>
      if target = receiver then { progress with awaiting := true } else progress
  | _ => progress

end Progress

/-- How far a receiver's stream is after what happened. -/
def progress (receiver : ReceiverId) (log : List Event) : Progress :=
  log.foldl (Progress.after receiver) ⟨none, true, []⟩

/-- A receiver's progress goes on with the events that follow. -/
theorem progress_append (receiver : ReceiverId) (log events : List Event) :
    progress receiver (log ++ events) =
      events.foldl (Progress.after receiver) (progress receiver log) := List.foldl_append

namespace L2Parser

/-- The parser's routes lead where the streams say, and while the parser is `running`
they are as far. -/
structure Tracks (parser : L2Parser) (running : Prop) (log : List Event) : Prop where
  got : ∀ receiver, (progress receiver log).got = receivedBy receiver log
  routed : ∀ symbol route, parser.routes.find? symbol = some route →
    (progress route.receiver log).pair = some symbol
  awaiting : running → ∀ symbol route, parser.routes.find? symbol = some route →
    (progress route.receiver log).awaiting = route.awaitingSnapshot
  serving : ∀ receiver symbol, (progress receiver log).pair = some symbol →
    ∃ route, parser.routes.find? symbol = some route ∧ route.receiver = receiver

namespace Tracks

variable {parser : L2Parser} {running : Prop} {log : List Event}

/-- A new parser has told nobody anything. -/
theorem init (checksumCheck : Option (Book → UInt32)) :
    (init checksumCheck).Tracks running [] where
  got _ := rfl
  routed _ _ found := (Option.some_ne_none _ found.symm).elim
  awaiting _ _ _ found := (Option.some_ne_none _ found.symm).elim
  serving _ _ found := (Option.some_ne_none _ found.symm).elim

/-- A parser that does not run is tracked for less. -/
theorem mono {less : Prop} (tracks : parser.Tracks running log) (weaker : less → running) :
    parser.Tracks less log :=
  { tracks with awaiting := fun runs => tracks.awaiting (weaker runs) }

/-- Events that are no part of any stream. -/
theorem quiet {events : List Event} (tracks : parser.Tracks running log)
    (still : ∀ receiver progress, ∀ event ∈ events, Progress.after receiver progress event = progress)
    (silent : ∀ receiver, receivedBy receiver events = []) :
    parser.Tracks running (log ++ events) := by
  have same : ∀ receiver, progress receiver (log ++ events) = progress receiver log := by
    intro receiver
    rw [progress_append]
    generalize progress receiver log = start
    induction events with
    | nil => rfl
    | cons event rest ih =>
        rw [List.foldl_cons, still receiver start event List.mem_cons_self]
        refine ih (fun other progress event member =>
          still other progress event (List.mem_cons_of_mem _ member)) fun other => ?_
        have whole := silent other
        rw [receivedBy_cons] at whole
        exact (List.append_eq_nil_iff.mp whole).2
  refine ⟨fun receiver => ?_, fun symbol route found => ?_, fun runs symbol route found => ?_,
    fun receiver symbol found => ?_⟩
  · rw [same, receivedBy_append, silent, List.append_nil]
    exact tracks.got receiver
  · rw [same]
    exact tracks.routed symbol route found
  · rw [same]
    exact tracks.awaiting runs symbol route found
  · rw [same] at found
    exact tracks.serving receiver symbol found

/-- The end of a connection leaves the streams where they lead. -/
theorem gaps {stopped : Prop} (tracks : parser.Tracks running log) (idle : ¬ stopped)
    (receivers : List ReceiverId) :
    parser.Tracks stopped
      (log ++ receivers.map fun receiver => .gapped receiver .disconnected) := by
  have same : ∀ receiver,
      (progress receiver (log ++ receivers.map fun receiver =>
        .gapped receiver .disconnected)).pair = (progress receiver log).pair ∧
      (progress receiver (log ++ receivers.map fun receiver =>
        .gapped receiver .disconnected)).got = (progress receiver log).got := by
    intro receiver
    rw [progress_append]
    generalize progress receiver log = start
    induction receivers generalizing start with
    | nil => exact ⟨rfl, rfl⟩
    | cons target rest ih =>
        rw [List.map_cons, List.foldl_cons, Progress.after]
        split
        · exact ih { start with awaiting := true }
        · exact ih start
  have silent : ∀ receiver, receivedBy receiver
      (receivers.map fun target => .gapped target .disconnected) = [] := by
    refine fun receiver => List.filterMap_eq_nil_iff.mpr fun event member => ?_
    obtain ⟨_, _, rfl⟩ := List.mem_map.mp member
    rfl
  refine ⟨fun receiver => ?_, fun symbol route found => ?_, fun runs => (idle runs).elim,
    fun receiver symbol found => ?_⟩
  · rw [(same receiver).2, receivedBy_append, silent, List.append_nil]
    exact tracks.got receiver
  · rw [(same route.receiver).1]
    exact tracks.routed symbol route found
  · rw [(same receiver).1] at found
    exact tracks.serving receiver symbol found

/-- A connection's start keeps to each receiver's progress. -/
theorem start {runs : Prop} (tracks : parser.Tracks running log) :
    parser.start.1.Tracks runs (log ++ parser.start.2) := by
  have now : ∀ receiver, progress receiver (log ++ parser.start.2) =
      { progress receiver log with awaiting := true } := fun receiver => progress_append _ _ _
  refine ⟨fun receiver => ?_, fun symbol route found => ?_, fun _ symbol route found => ?_,
    fun receiver symbol found => ?_⟩
  · rw [now, receivedBy_append]
    exact (tracks.got receiver).trans (List.append_nil _).symm
  · rw [find?_start] at found
    obtain ⟨old, present, rfl⟩ := Option.map_eq_some_iff.mp found
    rw [now]
    exact tracks.routed symbol old present
  · rw [find?_start] at found
    obtain ⟨old, present, rfl⟩ := Option.map_eq_some_iff.mp found
    rw [now]
  · rw [now] at found
    obtain ⟨old, present, same⟩ := tracks.serving receiver symbol found
    refine ⟨{ old with awaitingSnapshot := true }, ?_, same⟩
    rw [find?_start, present]
    rfl

/-- A detached route keeps to each receiver's progress. -/
theorem detach (tracks : parser.Tracks running log) (symbol : String) :
    (parser.detach symbol).1.Tracks running (log ++ (parser.detach symbol).2) := by
  have now : ∀ receiver, progress receiver (log ++ (parser.detach symbol).2) =
      if (progress receiver log).pair = some symbol then
        { progress receiver log with pair := none }
      else progress receiver log := fun receiver => progress_append _ _ _
  have kept : ∀ query route, (parser.detach symbol).1.routes.find? query = some route →
      parser.routes.find? query = some route ∧
        progress route.receiver (log ++ (parser.detach symbol).2) =
          progress route.receiver log := by
    intro query route found
    rw [find?_detach] at found
    split at found
    · exact (Option.some_ne_none _ found.symm).elim
    · rename_i elsewhere
      refine ⟨found, ?_⟩
      rw [now, if_neg]
      rw [tracks.routed query route found]
      exact fun same => elsewhere (Option.some.inj same)
  refine ⟨fun receiver => ?_, fun query route found => ?_, fun runs query route found => ?_,
    fun receiver query found => ?_⟩
  · rw [now, receivedBy_append]
    refine Eq.trans ?_ ((tracks.got receiver).trans (List.append_nil _).symm)
    split <;> rfl
  · obtain ⟨present, same⟩ := kept query route found
    rw [same]
    exact tracks.routed query route present
  · obtain ⟨present, same⟩ := kept query route found
    rw [same]
    exact tracks.awaiting runs query route present
  · rw [now] at found
    split at found
    · exact (Option.some_ne_none _ found.symm).elim
    · rename_i other
      obtain ⟨route, present, same⟩ := tracks.serving receiver query found
      refine ⟨route, ?_, same⟩
      rw [find?_detach, if_neg]
      · exact present
      · intro here
        rw [here] at found
        exact other found

/-- A receiver that serves no pair is attached. -/
theorem attach {next : L2Parser} {events : List Event} {symbol : String}
    {precision : PairPrecision} {depth : UInt32} {receiver : ReceiverId}
    (tracks : parser.Tracks running log)
    (unused : ∀ other route, parser.routes.find? other = some route → route.receiver ≠ receiver)
    (attached : parser.attach symbol precision depth receiver = .ok (next, events)) :
    next.Tracks running (log ++ events) := by
  obtain ⟨free, rfl, rfl⟩ := attach_eq_ok_iff.mp attached
  have now : ∀ other, progress other (log ++ [.attached symbol depth receiver]) =
      if receiver = other then { progress other log with pair := some symbol, awaiting := true }
      else progress other log := fun other => progress_append _ _ _
  refine ⟨fun other => ?_, fun query route found => ?_, fun runs query route found => ?_,
    fun other query found => ?_⟩
  · rw [now, receivedBy_append]
    refine Eq.trans ?_ ((tracks.got other).trans (List.append_nil _).symm)
    split <;> rfl
  · rw [find?_setRoute] at found
    split at found
    · rename_i here
      obtain rfl := Option.some.inj found
      rw [now, if_pos rfl, here]
    · rw [now, if_neg (unused query route found).symm]
      exact tracks.routed query route found
  · rw [find?_setRoute] at found
    split at found
    · obtain rfl := Option.some.inj found
      rw [now, if_pos rfl]
    · rw [now, if_neg (unused query route found).symm]
      exact tracks.awaiting runs query route found
  · rw [now] at found
    split at found
    · rename_i same
      obtain rfl := Option.some.inj found
      exact ⟨_, by rw [find?_setRoute, if_pos rfl], same⟩
    · obtain ⟨route, present, same⟩ := tracks.serving other query found
      refine ⟨route, ?_, same⟩
      rw [find?_setRoute, if_neg]
      · exact present
      · intro here
        rw [here, free] at present
        exact Option.some_ne_none _ present.symm

/-- A change is for a receiver exactly if the parser has a route for it that leads there. -/
theorem for_receiver (tracks : parser.Tracks running log) (runs : running)
    (receiver : ReceiverId) (message : Message) :
    ((progress receiver log).pair = some message.symbol ∧
        (message.type = .snapshot ∨ (progress receiver log).awaiting = false)) ↔
      ∃ route, parser.findRoute message.symbol message.type = some route ∧
        route.receiver = receiver := by
  constructor
  · intro ⟨pair, passes⟩
    obtain ⟨route, present, rfl⟩ := tracks.serving receiver _ pair
    rw [tracks.awaiting runs _ route present] at passes
    exact ⟨route, findRoute_eq_some_iff.mpr ⟨present, passes⟩, rfl⟩
  · intro ⟨route, found, same⟩
    obtain ⟨present, passes⟩ := findRoute_eq_some_iff.mp found
    rw [← same, tracks.awaiting runs _ route present]
    exact ⟨tracks.routed _ route present, passes⟩

/-- A route that takes a change moves on together with its receiver's stream, and no
other stream does. -/
theorem setRoute {events : List Event} {symbol : String} {route changed : Route}
    {now : Progress} (tracks : parser.Tracks running log)
    (present : parser.routes.find? symbol = some route)
    (same : changed.receiver = route.receiver)
    (moved : ∀ receiver, progress receiver (log ++ events) =
      if route.receiver = receiver then now else progress receiver log)
    (pair : now.pair = some symbol) (awaiting : now.awaiting = changed.awaitingSnapshot)
    (got : ∀ receiver, (progress receiver (log ++ events)).got =
      receivedBy receiver (log ++ events)) :
    (parser.setRoute symbol changed).Tracks running (log ++ events) := by
  have apart : ∀ query stored, parser.routes.find? query = some stored → query ≠ symbol →
      route.receiver ≠ stored.receiver := by
    intro query stored found elsewhere one
    have first := tracks.routed symbol route present
    rw [one, tracks.routed query stored found] at first
    exact elsewhere (Option.some.inj first)
  refine ⟨got, fun query stored found => ?_, fun runs query stored found => ?_,
    fun receiver query found => ?_⟩
  · rw [find?_setRoute] at found
    split at found
    · rename_i here
      obtain rfl := Option.some.inj found
      rw [moved, if_pos same.symm, here]
      exact pair
    · rename_i elsewhere
      rw [moved, if_neg (apart query stored found elsewhere)]
      exact tracks.routed query stored found
  · rw [find?_setRoute] at found
    split at found
    · obtain rfl := Option.some.inj found
      rw [moved, if_pos same.symm]
      exact awaiting
    · rename_i elsewhere
      rw [moved, if_neg (apart query stored found elsewhere)]
      exact tracks.awaiting runs query stored found
  · rw [moved] at found
    split at found
    · rename_i here
      obtain rfl := Option.some.inj (found.symm.trans pair)
      exact ⟨changed, by rw [find?_setRoute, if_pos rfl], same.trans here⟩
    · rename_i other
      obtain ⟨stored, kept, here⟩ := tracks.serving receiver query found
      refine ⟨stored, ?_, here⟩
      rw [find?_setRoute, if_neg]
      · exact kept
      · intro symbol'
        rw [symbol', present] at kept
        obtain rfl := Option.some.inj kept
        exact other here

/-- A message keeps to each receiver's progress. -/
theorem emit (tracks : parser.Tracks running log) (runs : running) (message : Message) :
    (parser.emit message).1.Tracks running (log ++ (parser.emit message).2) := by
  rcases parser.emit_cases message with ⟨dropped, emitted⟩ | ⟨route, found, _, emitted⟩ |
    ⟨route, found, _, emitted⟩
  · rw [emitted]
    have same : ∀ receiver, progress receiver (log ++ [.emitted message false]) =
        progress receiver log := by
      intro receiver
      rw [progress_append]
      refine if_neg fun passes => ?_
      obtain ⟨route, found, _⟩ := (tracks.for_receiver runs receiver message).mp passes
      exact Option.some_ne_none _ (found.symm.trans dropped)
    refine ⟨fun receiver => ?_, fun symbol route found => ?_, fun _ symbol route found => ?_,
      fun receiver symbol found => ?_⟩
    · rw [same, receivedBy_append]
      exact (tracks.got receiver).trans (List.append_nil _).symm
    · rw [same]
      exact tracks.routed symbol route found
    · rw [same]
      exact tracks.awaiting runs symbol route found
    · rw [same] at found
      exact tracks.serving receiver symbol found
  · obtain ⟨present, _⟩ := findRoute_eq_some_iff.mp found
    have pair := tracks.routed _ route present
    rw [emitted]
    have moved : ∀ receiver, progress receiver (log ++ [.emitted message true,
        .gapped route.receiver .resubscribing, .mismatched message.symbol]) =
          if route.receiver = receiver then
            { progress route.receiver log with awaiting := true }
          else progress receiver log := by
      intro receiver
      rw [progress_append]
      simp only [List.foldl_cons, Progress.after, tracks.for_receiver runs receiver message,
        found, Option.some.injEq, exists_eq_left', ↓reduceIte, List.foldl_nil]
      split
      · rename_i same
        rw [same]
      · rfl
    refine tracks.setRoute present rfl moved pair rfl fun receiver => ?_
    rw [moved, receivedBy_append]
    refine Eq.trans ?_ ((tracks.got receiver).trans (List.append_nil _).symm)
    split
    · rename_i same
      rw [same]
    · rfl
  · obtain ⟨present, _⟩ := findRoute_eq_some_iff.mp found
    have pair := tracks.routed _ route present
    rw [emitted]
    have moved : ∀ receiver, progress receiver
        (log ++ [.emitted message false, .received route.receiver message]) =
          if route.receiver = receiver then
            { progress route.receiver log with
              awaiting := false, got := (progress route.receiver log).got ++ [message] }
          else progress receiver log := by
      intro receiver
      rw [progress_append]
      simp only [List.foldl_cons, Progress.after, tracks.for_receiver runs receiver message,
        found, Option.some.injEq, exists_eq_left', Bool.false_eq_true, ↓reduceIte,
        List.foldl_nil]
      split
      · rename_i same
        rw [same]
      · rfl
    refine tracks.setRoute present rfl moved pair rfl fun receiver => ?_
    rw [moved, receivedBy_append, receivedBy_cons, receivedBy_cons]
    simp only [Event.receivedBy?, Option.toList_none, List.nil_append]
    split
    · rename_i same
      rw [tracks.got, same]
      rfl
    · rw [tracks.got]
      exact (List.append_nil _).symm

end Tracks

end L2Parser

/-- Between two connections, a receiver that got messages on the first is told of the
gap before anything else begins. -/
def Told (receiver : ReceiverId) (log : List Event) : Prop :=
  ∀ past message later, log = past ++ .received receiver message :: later →
    .started ∈ later → .gapped receiver .disconnected ∈ later

/-- Every message of a receiver is followed by the end of its connection. -/
def Closed (receiver : ReceiverId) (log : List Event) : Prop :=
  ∀ past message later, log = past ++ .received receiver message :: later →
    .gapped receiver .disconnected ∈ later

/-- A message comes only after the gap that ended the connection of the one before. -/
def ToldBefore (past : List Event) (event : Event) : Prop :=
  ∀ receiver message, event = .received receiver message → Told receiver past

variable {receiver : ReceiverId} {log events : List Event}

/-- While no connection is started, what a receiver is told of stays. -/
theorem Told.append (told : Told receiver log) (running : .started ∉ events) :
    Told receiver (log ++ events) := by
  intro past message later split started
  rcases split_append split with ⟨rest, before, rfl⟩ | ⟨front, _, rfl⟩
  · rcases List.mem_append.mp started with early | late
    · exact List.mem_append_left _ (told past message rest before early)
    · exact (running late).elim
  · exact (running (List.mem_append_right _ (List.mem_cons_of_mem _ started))).elim

/-- While no message comes, every one so far is still followed by its connection's end. -/
theorem Closed.append (closed : Closed receiver log)
    (silent : ∀ message, .received receiver message ∉ events) : Closed receiver (log ++ events) := by
  intro past message later split
  rcases split_append split with ⟨rest, before, rfl⟩ | ⟨front, _, rfl⟩
  · exact List.mem_append_left _ (closed past message rest before)
  · exact (silent message (List.mem_append_right _ List.mem_cons_self)).elim

/-- The end of a connection closes the stream of a receiver that is told. -/
theorem Closed.of_gap (told : .gapped receiver .disconnected ∈ events)
    (silent : ∀ message, .received receiver message ∉ events) :
    Closed receiver (log ++ events) := by
  intro past message later split
  rcases split_append split with ⟨rest, _, rfl⟩ | ⟨front, _, rfl⟩
  · exact List.mem_append_right _ told
  · exact (silent message (List.mem_append_right _ List.mem_cons_self)).elim

/-- A receiver that has got nothing has nothing to be told. -/
theorem Closed.of_unheard (unheard : ∀ message, .received receiver message ∉ log) :
    Closed receiver log := by
  intro past message later split
  rw [split] at unheard
  exact (unheard message (List.mem_append_right _ List.mem_cons_self)).elim

/-- A message followed by the end of its connection is so before the next one starts. -/
theorem Closed.told (closed : Closed receiver log) : Told receiver log :=
  fun past message later split _ => closed past message later split

end DataFeed.Venue
