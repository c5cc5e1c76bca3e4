import DataFeed.Venue.VerifiedBook

/-! # A stretch of a receiver's stream begins with a snapshot

The parser alone sees to it while it runs: a route whose receiver has had no
message since its last gap awaits a snapshot (`Ready`), and no update gets through
such a route. A gap told from outside, when a connection ends, leaves the route as
it is, so the parser must start over before it emits again.
-/

namespace DataFeed.Venue

open Foundation L2 DataFeed.Core

namespace L2Parser

/-- A receiver between stretches has a route that awaits a snapshot. -/
def Ready (parser : L2Parser) (log : List Event) : Prop :=
  ∀ symbol route, parser.routes.find? symbol = some route →
    Fresh (entriesOf route.receiver log) → route.awaitingSnapshot = true

/-- Every receiver's stretches begin with snapshots. -/
def SnapshotFirst (log : List Event) : Prop :=
  ∀ receiver, Along OpensStretch (entriesOf receiver log)

theorem SnapshotFirst.nil : SnapshotFirst [] := fun _ => Along.nil

/-- Events that bring no receiver anything change no stretch. -/
theorem SnapshotFirst.quiet {log events : List Event} (held : SnapshotFirst log)
    (quiet : ∀ receiver, entriesOf receiver events = []) : SnapshotFirst (log ++ events) := by
  intro receiver
  rw [entriesOf_append, quiet, List.append_nil]
  exact held receiver

/-- A gap ends a stretch and begins none. -/
theorem SnapshotFirst.gap {log : List Event} (held : SnapshotFirst log) (receiver : ReceiverId)
    (gap : Gap) : SnapshotFirst (log ++ [.gapped receiver gap]) := by
  intro other
  rw [entriesOf_append]
  simp only [entriesOf, List.filterMap_cons, Event.entryOf?, List.filterMap_nil]
  split
  · rw [List.append_nil]
    exact held other
  · rename_i entry told
    split at told
    · obtain rfl := Option.some.inj told
      exact (held other).concat fun _ same => (Option.some_ne_none _ same.symm).elim
    · exact (Option.some_ne_none _ told.symm).elim

theorem SnapshotFirst.gaps {log : List Event} (held : SnapshotFirst log)
    (receivers : List ReceiverId) :
    SnapshotFirst (log ++ receivers.map fun receiver => .gapped receiver .disconnected) := by
  induction receivers using List.reverseRecOn with
  | nil => simpa only [List.map_nil, List.append_nil] using held
  | append_singleton receivers receiver ih =>
      rw [List.map_append, List.map_singleton, ← List.append_assoc]
      exact ih.gap receiver .disconnected

/-- A change of the routes that streams into none anew keeps the parser ready. -/
theorem Ready.route {parser next : L2Parser} {log events : List Event} (ready : parser.Ready log)
    (quiet : ∀ receiver, entriesOf receiver events = [])
    (kept : ∀ {symbol route}, next.routes.find? symbol = some route →
      route.awaitingSnapshot = false → parser.routes.find? symbol = some route) :
    next.Ready (log ++ events) := by
  intro symbol route found fresh
  rw [entriesOf_append, quiet, List.append_nil] at fresh
  by_contra streaming
  exact streaming (ready symbol route (kept found (Bool.of_not_eq_true streaming)) fresh)

/-- A parser that has just started is ready whatever came before. -/
theorem ready_start (parser : L2Parser) (log : List Event) : parser.start.1.Ready log := by
  intro symbol route found _
  rw [find?_start] at found
  obtain ⟨old, _, rfl⟩ := Option.map_eq_some_iff.mp found
  rfl

theorem Ready.attach {parser next : L2Parser} {log events : List Event} {symbol : String}
    {precision : PairPrecision} {depth : UInt32} {receiver : ReceiverId}
    (ready : parser.Ready log)
    (attached : parser.attach symbol precision depth receiver = .ok (next, events)) :
    next.Ready (log ++ events) := by
  obtain ⟨_, rfl, rfl⟩ := attach_eq_ok_iff.mp attached
  refine ready.route (fun _ => rfl) fun {query route} found streaming => ?_
  rw [find?_setRoute] at found
  split at found
  · obtain rfl := Option.some.inj found
    exact Bool.noConfusion streaming
  · exact found

theorem Ready.detach {parser : L2Parser} {log : List Event} (ready : parser.Ready log)
    (symbol : String) :
    (parser.detach symbol).1.Ready (log ++ (parser.detach symbol).2) := by
  refine ready.route (fun _ => rfl) fun {query route} found _ => ?_
  rw [find?_detach] at found
  split at found
  · exact (Option.some_ne_none _ found.symm).elim
  · exact found

/-- What a delivered change brings its receiver, and no other. -/
theorem entriesOf_delivered (receiver target : ReceiverId) (message : Message) :
    entriesOf receiver [.emitted message false, .received target message] =
      if receiver = target then [some message] else [] := by
  by_cases same : receiver = target
  · simp only [entriesOf, List.filterMap_cons, Event.entryOf?, same, ↓reduceIte,
      List.filterMap_nil]
  · simp only [entriesOf, List.filterMap_cons, Event.entryOf?, same, Ne.symm same, ↓reduceIte,
      List.filterMap_nil]

/-- What a refused change brings its receiver, and no other. -/
theorem entriesOf_refused (receiver target : ReceiverId) (message : Message) (symbol : String) :
    entriesOf receiver
        [.emitted message true, .gapped target .resubscribing, .mismatched symbol] =
      if receiver = target then [none] else [] := by
  by_cases same : receiver = target
  · simp only [entriesOf, List.filterMap_cons, Event.entryOf?, same, ↓reduceIte,
      List.filterMap_nil]
  · simp only [entriesOf, List.filterMap_cons, Event.entryOf?, same, Ne.symm same, ↓reduceIte,
      List.filterMap_nil]

theorem Ready.emit {parser : L2Parser} {log : List Event} (ready : parser.Ready log)
    (agrees : parser.Agrees log) (message : Message) :
    (parser.emit message).1.Ready (log ++ (parser.emit message).2) := by
  rcases parser.emit_cases message with ⟨_, emitted⟩ | ⟨route, routed, _, emitted⟩ |
    ⟨route, routed, _, emitted⟩
  · rw [emitted]
    exact ready.route (fun _ => rfl) fun found _ => found
  · rw [emitted]
    intro symbol stored found fresh
    rw [find?_setRoute] at found
    split at found
    · obtain rfl := Option.some.inj found
      rfl
    · rename_i elsewhere
      have apart : stored.receiver ≠ route.receiver := fun same => elsewhere
        (agrees.exclusive found (findRoute_eq_some_iff.mp routed).1 same)
      rw [entriesOf_append, entriesOf_refused, if_neg apart, List.append_nil] at fresh
      exact ready symbol stored found fresh
  · rw [emitted]
    intro symbol stored found fresh
    rw [find?_setRoute] at found
    split at found
    · obtain rfl := Option.some.inj found
      rw [entriesOf_append, entriesOf_delivered] at fresh
      simp only [deliveredRoute, ↓reduceIte] at fresh
      exact (not_fresh_concat _ message fresh).elim
    · rename_i elsewhere
      have apart : stored.receiver ≠ route.receiver := fun same => elsewhere
        (agrees.exclusive found (findRoute_eq_some_iff.mp routed).1 same)
      rw [entriesOf_append, entriesOf_delivered, if_neg apart, List.append_nil] at fresh
      exact ready symbol stored found fresh

/-- A ready parser begins no stretch with an update. -/
theorem SnapshotFirst.emit {parser : L2Parser} {log : List Event} (held : SnapshotFirst log)
    (ready : parser.Ready log) (message : Message) :
    SnapshotFirst (log ++ (parser.emit message).2) := by
  rcases parser.emit_cases message with ⟨_, emitted⟩ | ⟨route, routed, _, emitted⟩ |
    ⟨route, routed, _, emitted⟩
  · rw [emitted]
    exact held.quiet fun _ => rfl
  · rw [emitted]
    intro receiver
    rw [entriesOf_append, entriesOf_refused]
    split
    · exact (held receiver).concat fun _ same => (Option.some_ne_none _ same.symm).elim
    · rw [List.append_nil]
      exact held receiver
  · rw [emitted]
    intro receiver
    rw [entriesOf_append, entriesOf_delivered]
    split
    · rename_i here
      refine (held receiver).concat fun other same fresh => ?_
      obtain rfl := Option.some.inj same
      obtain ⟨present, passes⟩ := findRoute_eq_some_iff.mp routed
      refine passes.resolve_right fun streaming => ?_
      have awaiting := ready _ route present (here ▸ fresh)
      exact Bool.false_ne_true (streaming.symm.trans awaiting)
    · rw [List.append_nil]
      exact held receiver

end L2Parser

end DataFeed.Venue
