import DataFeed.Venue.L2Parser

/-! # What a receiver holds matches the venue's checksum

The parser checks a book of its own, not what the receiver has built from the
messages it got. `Agrees` is the invariant that makes the two the same: while a
pair awaits no snapshot, the parser's book for it is the fold of the messages its
receiver got from the latest snapshot on. Every operation of the parser restores
it, so a checksum the parser has verified is one the receiver can verify too.
-/

namespace DataFeed.Venue

open Foundation L2 DataFeed.Core

namespace L2Parser

/-- The parser's routes say what the log says: each receiver serves one pair, at
the depth it was attached at, and while no snapshot is awaited the receiver has
had one and the checked book is what its messages build. -/
structure Agrees (parser : L2Parser) (log : List Event) : Prop where
  exclusive : ∀ {first second : String} {left right : Route},
    parser.routes.find? first = some left → parser.routes.find? second = some right →
      left.receiver = right.receiver → first = second
  depth : ∀ {symbol : String} {route : Route}, parser.routes.find? symbol = some route →
    attachedDepth route.receiver log = some route.book.depth
  streaming : ∀ {symbol : String} {route : Route}, parser.routes.find? symbol = some route →
    route.awaitingSnapshot = false →
      ∃ message ∈ receivedBy route.receiver log, message.type = .snapshot
  book : parser.checksumCheck.isSome → ∀ {symbol : String} {route : Route},
    parser.routes.find? symbol = some route → route.awaitingSnapshot = false →
      route.book = (Book.ofDepth route.book.depth).applyAll
        (sinceSnapshot (receivedBy route.receiver log))

/-- A new parser agrees with the empty log. -/
theorem Agrees.init (checksumCheck : Option (Book → UInt32)) : Agrees (init checksumCheck) [] where
  exclusive found := (Option.some_ne_none _ found.symm).elim
  depth found := (Option.some_ne_none _ found.symm).elim
  streaming found := (Option.some_ne_none _ found.symm).elim
  book _ _ _ found := (Option.some_ne_none _ found.symm).elim

/-- Events that neither deliver nor attach leave the agreement as it was. -/
theorem Agrees.append {parser : L2Parser} {log events : List Event} (agrees : parser.Agrees log)
    (quiet : ∀ receiver, receivedBy receiver events = [] ∧ attachedDepth receiver events = none) :
    parser.Agrees (log ++ events) where
  exclusive := agrees.exclusive
  depth {symbol route} found := by
    rw [attachedDepth_append, (quiet route.receiver).2, Option.none_or]
    exact agrees.depth found
  streaming {symbol route} found streaming := by
    rw [receivedBy_append, (quiet route.receiver).1, List.append_nil]
    exact agrees.streaming found streaming
  book checked {symbol route} found streaming := by
    rw [receivedBy_append, (quiet route.receiver).1, List.append_nil]
    exact agrees.book checked found streaming

/-- A detached route leaves parser and log in agreement. -/
theorem Agrees.detach {parser : L2Parser} {log : List Event} (agrees : parser.Agrees log)
    (symbol : String) :
    (parser.detach symbol).1.Agrees (log ++ (parser.detach symbol).2) := by
  have kept : ∀ {query : String} {route : Route},
      (parser.detach symbol).1.routes.find? query = some route →
        parser.routes.find? query = some route := by
    intro query route found
    rw [find?_detach] at found
    split at found
    · exact (Option.some_ne_none _ found.symm).elim
    · exact found
  have smaller : (parser.detach symbol).1.Agrees log :=
    { exclusive := fun first second => agrees.exclusive (kept first) (kept second)
      depth := fun found => agrees.depth (kept found)
      streaming := fun found => agrees.streaming (kept found)
      book := fun checked _ _ found => agrees.book checked (kept found) }
  exact smaller.append fun _ => ⟨rfl, rfl⟩

/-- A connection's start leaves parser and log in agreement. -/
theorem Agrees.start {parser : L2Parser} {log : List Event} (agrees : parser.Agrees log) :
    parser.start.1.Agrees (log ++ parser.start.2) := by
  have stored : ∀ {query : String} {route : Route},
      parser.start.1.routes.find? query = some route →
        ∃ old, parser.routes.find? query = some old ∧
          route = { old with awaitingSnapshot := true } := by
    intro query route found
    rw [find?_start] at found
    obtain ⟨old, present, same⟩ := Option.map_eq_some_iff.mp found
    exact ⟨old, present, same.symm⟩
  have awaiting : parser.start.1.Agrees log :=
    { exclusive := by
        intro first second left right foundLeft foundRight same
        obtain ⟨oldLeft, presentLeft, rfl⟩ := stored foundLeft
        obtain ⟨oldRight, presentRight, rfl⟩ := stored foundRight
        exact agrees.exclusive presentLeft presentRight same
      depth := by
        intro symbol route found
        obtain ⟨old, present, rfl⟩ := stored found
        have depth := agrees.depth present
        exact depth
      streaming := by
        intro symbol route found streaming
        obtain ⟨old, present, rfl⟩ := stored found
        exact Bool.noConfusion streaming
      book := by
        intro checked symbol route found streaming
        obtain ⟨old, present, rfl⟩ := stored found
        exact Bool.noConfusion streaming }
  exact awaiting.append fun _ => ⟨rfl, rfl⟩

/-- Replacing a pair's route keeps the agreement if the new route is for the same
receiver and depth, and holds the receiver's book if it awaits no snapshot. -/
theorem Agrees.setRoute {parser : L2Parser} {log events : List Event} {symbol : String}
    {old route : Route} (agrees : parser.Agrees log)
    (present : parser.routes.find? symbol = some old)
    (receiver : route.receiver = old.receiver) (depth : route.book.depth = old.book.depth)
    (unattached : ∀ other, attachedDepth other events = none)
    (others : ∀ other, other ≠ old.receiver → receivedBy other events = [])
    (started : route.awaitingSnapshot = false →
      ∃ message ∈ receivedBy route.receiver (log ++ events), message.type = .snapshot)
    (book : parser.checksumCheck.isSome → route.awaitingSnapshot = false →
      route.book = (Book.ofDepth route.book.depth).applyAll
        (sinceSnapshot (receivedBy route.receiver (log ++ events)))) :
    (parser.setRoute symbol route).Agrees (log ++ events) where
  exclusive {first second left right} foundLeft foundRight same := by
    rw [find?_setRoute] at foundLeft foundRight
    by_cases atFirst : first = symbol <;> by_cases atSecond : second = symbol
    · rw [atFirst, atSecond]
    · simp only [atFirst, atSecond, ↓reduceIte, Option.some.injEq] at foundLeft foundRight
      subst foundLeft
      rw [atFirst]
      exact agrees.exclusive present foundRight (receiver.symm.trans same)
    · simp only [atFirst, atSecond, ↓reduceIte, Option.some.injEq] at foundLeft foundRight
      subst foundRight
      rw [atSecond]
      exact agrees.exclusive foundLeft present (same.trans receiver)
    · simp only [atFirst, atSecond, ↓reduceIte] at foundLeft foundRight
      exact agrees.exclusive foundLeft foundRight same
  depth {query other} found := by
    rw [attachedDepth_append, unattached, Option.none_or]
    rw [find?_setRoute] at found
    by_cases here : query = symbol
    · simp only [here, ↓reduceIte, Option.some.injEq] at found
      subst found
      rw [receiver, depth]
      exact agrees.depth present
    · simp only [here, ↓reduceIte] at found
      exact agrees.depth found
  streaming {query other} found streaming := by
    rw [find?_setRoute] at found
    by_cases here : query = symbol
    · simp only [here, ↓reduceIte, Option.some.injEq] at found
      subst found
      exact started streaming
    · simp only [here, ↓reduceIte] at found
      obtain ⟨message, member, snapshot⟩ := agrees.streaming found streaming
      rw [receivedBy_append]
      exact ⟨message, List.mem_append_left _ member, snapshot⟩
  book checked {query other} found streaming := by
    rw [find?_setRoute] at found
    by_cases here : query = symbol
    · simp only [here, ↓reduceIte, Option.some.injEq] at found
      subst found
      exact book checked streaming
    · simp only [here, ↓reduceIte] at found
      have apart : other.receiver ≠ old.receiver :=
        fun same => here (agrees.exclusive found present same)
      rw [receivedBy_append, others _ apart, List.append_nil]
      exact agrees.book checked found streaming

/-- The book a delivered change leaves is what its receiver's messages build. -/
theorem Agrees.book_deliver {parser : L2Parser} {log : List Event} {message : Message}
    {route : Route} (agrees : parser.Agrees log) (checked : parser.checksumCheck.isSome)
    (routed : parser.findRoute message.symbol message.type = some route) :
    route.book.apply message = (Book.ofDepth route.book.depth).applyAll
      (sinceSnapshot (receivedBy route.receiver log ++ [message])) := by
  obtain ⟨present, passes⟩ := findRoute_eq_some_iff.mp routed
  rw [sinceSnapshot_concat]
  by_cases snapshot : message.type = .snapshot
  · rw [if_pos snapshot]
    exact Book.apply_snapshot rfl snapshot
  · rw [if_neg snapshot, Book.applyAll_concat,
      ← agrees.book checked present (passes.resolve_left snapshot)]

/-- Once a change is delivered, its receiver has had a snapshot. -/
theorem Agrees.streaming_deliver {parser : L2Parser} {log : List Event} {message : Message}
    {route : Route} (agrees : parser.Agrees log)
    (routed : parser.findRoute message.symbol message.type = some route) :
    ∃ past ∈ receivedBy route.receiver log ++ [message], past.type = .snapshot := by
  obtain ⟨present, passes⟩ := findRoute_eq_some_iff.mp routed
  rcases passes with snapshot | streaming
  · exact ⟨message, List.mem_append_right _ (List.mem_singleton_self _), snapshot⟩
  · obtain ⟨past, member, snapshot⟩ := agrees.streaming present streaming
    exact ⟨past, List.mem_append_left _ member, snapshot⟩

/-- A message leaves parser and log in agreement. -/
theorem Agrees.emit {parser : L2Parser} {log : List Event} (agrees : parser.Agrees log)
    (message : Message) :
    (parser.emit message).1.Agrees (log ++ (parser.emit message).2) := by
  rcases parser.emit_cases message with ⟨_, emitted⟩ | ⟨route, routed, _, emitted⟩ |
    ⟨route, routed, _, emitted⟩
  · rw [emitted]
    exact agrees.append fun _ => ⟨rfl, rfl⟩
  · rw [emitted]
    exact agrees.setRoute (findRoute_eq_some_iff.mp routed).1 rfl rfl (fun _ => rfl)
      (fun _ _ => rfl) (fun streaming => Bool.noConfusion streaming)
      (fun _ streaming => Bool.noConfusion streaming)
  · have extended : receivedBy route.receiver
        (log ++ [.emitted message false, .received route.receiver message]) =
          receivedBy route.receiver log ++ [message] := by
      simp only [receivedBy_append, receivedBy_cons, Event.receivedBy?, Option.toList_none,
        ↓reduceIte, Option.toList_some, receivedBy_nil, List.append_nil, List.nil_append]
    rw [emitted]
    refine agrees.setRoute (findRoute_eq_some_iff.mp routed).1 rfl ?_ (fun _ => rfl) ?_ ?_ ?_
    · simp only [deliveredRoute]
      split
      · exact Book.depth_apply _ _
      · rfl
    · intro other apart
      simp only [receivedBy_cons, Event.receivedBy?, Ne.symm apart, ↓reduceIte, Option.toList_none,
        receivedBy_nil, List.append_nil]
    · intro _
      simp only [deliveredRoute, extended]
      exact agrees.streaming_deliver routed
    · intro checked _
      simp only [deliveredRoute, checked, ↓reduceIte, Book.depth_apply, extended]
      exact agrees.book_deliver checked routed

/-- Attaching a receiver that serves no other pair keeps the agreement. -/
theorem Agrees.attach {parser next : L2Parser} {log events : List Event} {symbol : String}
    {precision : PairPrecision} {depth : UInt32} {receiver : ReceiverId}
    (agrees : parser.Agrees log)
    (unused : ∀ other route, parser.routes.find? other = some route →
      route.receiver = receiver → other = symbol)
    (attached : parser.attach symbol precision depth receiver = .ok (next, events)) :
    next.Agrees (log ++ events) := by
  obtain ⟨free, rfl, rfl⟩ := attach_eq_ok_iff.mp attached
  have apart : ∀ {other : String} {route : Route}, parser.routes.find? other = some route →
      route.receiver ≠ receiver := by
    intro other route present same
    rw [unused other route present same, free] at present
    exact Option.some_ne_none _ present.symm
  have silent : receivedBy receiver [.attached symbol depth receiver] = [] := rfl
  have unattached : ∀ other, other ≠ receiver →
      attachedDepth other [.attached symbol depth receiver] = none := by
    intro other apart
    simp only [attachedDepth, List.filterMap_cons, Event.attachedDepth?, Ne.symm apart,
      ↓reduceIte, List.filterMap_nil, List.getLast?_nil]
  refine ⟨?_, ?_, ?_, ?_⟩
  · intro first second left right foundLeft foundRight same
    rw [find?_setRoute] at foundLeft foundRight
    by_cases atFirst : first = symbol <;> by_cases atSecond : second = symbol
    · rw [atFirst, atSecond]
    · simp only [atFirst, atSecond, ↓reduceIte, Option.some.injEq] at foundLeft foundRight
      subst foundLeft
      exact (apart foundRight same.symm).elim
    · simp only [atFirst, atSecond, ↓reduceIte, Option.some.injEq] at foundLeft foundRight
      subst foundRight
      exact (apart foundLeft same).elim
    · simp only [atFirst, atSecond, ↓reduceIte] at foundLeft foundRight
      exact agrees.exclusive foundLeft foundRight same
  · intro query route found
    rw [find?_setRoute] at found
    rw [attachedDepth_append]
    by_cases here : query = symbol
    · simp only [here, ↓reduceIte, Option.some.injEq] at found
      subst found
      simp only [attachedDepth, List.filterMap_cons, Event.attachedDepth?, ↓reduceIte,
        List.filterMap_nil, List.getLast?_singleton, Option.some_or, Book.depth_ofDepth]
    · simp only [here, ↓reduceIte] at found
      rw [unattached _ (apart found), Option.none_or]
      exact agrees.depth found
  · intro query route found streaming
    rw [find?_setRoute] at found
    by_cases here : query = symbol
    · simp only [here, ↓reduceIte, Option.some.injEq] at found
      subst found
      exact Bool.noConfusion streaming
    · simp only [here, ↓reduceIte] at found
      obtain ⟨message, member, snapshot⟩ := agrees.streaming found streaming
      rw [receivedBy_append]
      exact ⟨message, List.mem_append_left _ member, snapshot⟩
  · intro checked query route found streaming
    rw [find?_setRoute] at found
    by_cases here : query = symbol
    · simp only [here, ↓reduceIte, Option.some.injEq] at found
      subst found
      exact Bool.noConfusion streaming
    · simp only [here, ↓reduceIte] at found
      rw [receivedBy_append]
      exact (List.append_nil (receivedBy route.receiver log)).symm ▸
        agrees.book checked found streaming

/-- After a mismatch a pair waits for its snapshot, for as long as nothing of it
is delivered. -/
def Mutes (parser : L2Parser) (log : List Event) : Prop :=
  ∀ {symbol : String} {route : Route}, muted symbol log → parser.routes.find? symbol = some route →
    route.awaitingSnapshot = true

/-- A call on a parser, by its owner or its decoder. -/
inductive Call where
  | attach (symbol : String) (precision : PairPrecision) (depth : UInt32) (receiver : ReceiverId)
  | detach (symbol : String)
  | start
  | stop
  | emit (message : Message)
  deriving DecidableEq, Repr

/-- A receiver consumes one subscription's messages: it is not attached for a
pair while it serves another. -/
def KeepsReceiver (parser : L2Parser) : Call → Prop
  | .attach symbol _ _ receiver =>
      ∀ other route, parser.routes.find? other = some route →
        route.receiver = receiver → other = symbol
  | _ => True

/-- A parser and what has happened so far. -/
structure Run where
  parser : L2Parser
  log : List Event

namespace Run

/-- Makes a call. Attaching a pair that already has a receiver throws and leaves
the parser as it was; stopping ends the thread and leaves the routes. -/
def call (run : Run) : Call → Run
  | .attach symbol precision depth receiver =>
      match run.parser.attach symbol precision depth receiver with
      | .ok (parser, events) => ⟨parser, run.log ++ events⟩
      | .error _ => run
  | .detach symbol => ⟨(run.parser.detach symbol).1, run.log ++ (run.parser.detach symbol).2⟩
  | .start => ⟨run.parser.start.1, run.log ++ run.parser.start.2⟩
  | .stop => run
  | .emit message => ⟨(run.parser.emit message).1, run.log ++ (run.parser.emit message).2⟩

/-- A new parser after a list of calls. -/
def after (checksumCheck : Option (Book → UInt32)) (calls : List Call) : Run :=
  calls.foldl call ⟨init checksumCheck, []⟩

/-- A run with one more call is that call where the run ended. -/
theorem after_concat (checksumCheck : Option (Book → UInt32)) (calls : List Call) (last : Call) :
    after checksumCheck (calls ++ [last]) = (after checksumCheck calls).call last := by
  simp only [after, List.foldl_append, List.foldl_cons, List.foldl_nil]

end Run

/-- A message sent with a checksum is delivered only if the book its receiver then
holds has that checksum: the book at the attached depth, built from the messages
since its latest snapshot. -/
def Verified (checksum : Book → UInt32) (past : List Event) : Event → Prop
  | .received receiver message => message.checksum ≠ 0 →
      ∃ depth earlier snapshot rest, attachedDepth receiver past = some depth ∧
        receivedBy receiver past ++ [message] = earlier ++ snapshot :: rest ∧
        snapshot.type = .snapshot ∧ (∀ later ∈ rest, later.type = .update) ∧
        checksum ((Book.ofDepth depth).applyAll (snapshot :: rest)) = message.checksum
  | _ => True

/-- After a mismatch, the first message of a pair that is delivered is a snapshot. -/
def Silenced (past : List Event) : Event → Prop
  | .received _ message => muted message.symbol past → message.type = .snapshot
  | _ => True

/-- What every call on a parser with a checksum preserves. -/
structure Checked (checksum : Book → UInt32) (run : Run) : Prop where
  check : run.parser.checksumCheck = some checksum
  agrees : run.parser.Agrees run.log
  mutes : run.parser.Mutes run.log
  verified : Along (Verified checksum) run.log
  silenced : Along Silenced run.log

/-- The laws speak only of deliveries. -/
theorem along_append_quiet {law : List Event → Event → Prop} {log events : List Event}
    (held : Along law log) (quiet : ∀ past, ∀ event ∈ events, law past event) :
    Along law (log ++ events) := by
  refine held.append fun past event future split => ?_
  rw [split] at quiet
  exact quiet _ event (List.mem_append_right _ List.mem_cons_self)

/-- What the receiver of a delivered change then holds has the change's checksum. -/
theorem Agrees.verified {parser : L2Parser} {log : List Event} {checksum : Book → UInt32}
    {message : Message} {route : Route} (agrees : parser.Agrees log)
    (check : parser.checksumCheck = some checksum)
    (routed : parser.findRoute message.symbol message.type = some route)
    (accepted : ¬ parser.Refuses route message) :
    Verified checksum log (.received route.receiver message) := by
  intro sent
  obtain ⟨earlier, snapshot, rest, split, first, updates, since⟩ :=
    sinceSnapshot_spec (agrees.streaming_deliver routed)
  refine ⟨route.book.depth, earlier, snapshot, rest,
    agrees.depth (findRoute_eq_some_iff.mp routed).1, split, first, updates, ?_⟩
  have checked : parser.checksumCheck.isSome := by rw [check, Option.isSome_some]
  rw [← since, ← agrees.book_deliver checked routed]
  by_contra different
  exact accepted ⟨checksum, check, decide_eq_true ⟨sent, different⟩⟩

/-- A message keeps every book of the run checked. -/
theorem Checked.emit {checksum : Book → UInt32} {run : Run} (checked : Checked checksum run)
    (message : Message) : Checked checksum (run.call (.emit message)) := by
  have agrees := checked.agrees.emit message
  rcases run.parser.emit_cases message with ⟨_, emitted⟩ | ⟨route, routed, _, emitted⟩ |
    ⟨route, routed, accepted, emitted⟩
  · simp only [Run.call, emitted] at agrees ⊢
    refine ⟨checked.check, agrees, ?_, ?_, ?_⟩
    · intro symbol route silent found
      rw [muted_append] at silent
      exact checked.mutes silent found
    · exact checked.verified.concat trivial
    · exact checked.silenced.concat trivial
  · simp only [Run.call, emitted] at agrees ⊢
    refine ⟨checked.check, agrees, ?_, ?_, ?_⟩
    · intro symbol stored silent found
      rw [find?_setRoute] at found
      split at found
      · obtain rfl := Option.some.inj found
        rfl
      · rename_i elsewhere
        simp only [muted_append, List.filterMap_cons, Event.mutes?, Ne.symm elsewhere, ↓reduceIte,
          List.filterMap_nil, List.getLast?_nil, Option.getD_none] at silent
        exact checked.mutes silent found
    · refine along_append_quiet checked.verified fun past event member => ?_
      simp only [List.mem_cons, List.not_mem_nil, or_false] at member
      rcases member with rfl | rfl | rfl <;> trivial
    · refine along_append_quiet checked.silenced fun past event member => ?_
      simp only [List.mem_cons, List.not_mem_nil, or_false] at member
      rcases member with rfl | rfl | rfl <;> trivial
  · obtain ⟨present, passes⟩ := findRoute_eq_some_iff.mp routed
    simp only [Run.call, emitted] at agrees ⊢
    refine ⟨checked.check, agrees, ?_, ?_, ?_⟩
    · intro symbol stored silent found
      rw [find?_setRoute] at found
      by_cases here : symbol = message.symbol
      · simp only [here, muted_append, List.filterMap_cons, Event.mutes?, ↓reduceIte,
          List.filterMap_nil, List.getLast?_singleton, Option.getD_some,
          Bool.false_eq_true] at silent
      · simp only [here, ↓reduceIte] at found
        simp only [muted_append, List.filterMap_cons, Event.mutes?, Ne.symm here, ↓reduceIte,
          List.filterMap_nil, List.getLast?_nil, Option.getD_none] at silent
        exact checked.mutes silent found
    · have emission : Along (Verified checksum) (run.log ++ [.emitted message false]) :=
        checked.verified.concat trivial
      rw [← List.singleton_append, ← List.append_assoc]
      refine emission.concat ?_
      have verified := checked.agrees.verified checked.check routed accepted
      simp only [Verified, attachedDepth_append, receivedBy_append, receivedBy_cons,
        Event.receivedBy?, Option.toList_none, receivedBy_nil, List.append_nil] at verified ⊢
      exact verified
    · have emission : Along Silenced (run.log ++ [.emitted message false]) :=
        checked.silenced.concat trivial
      rw [← List.singleton_append, ← List.append_assoc]
      refine emission.concat ?_
      intro silent
      rw [muted_append] at silent
      rcases passes with snapshot | streaming
      · exact snapshot
      · rw [checked.mutes silent present] at streaming
        exact Bool.noConfusion streaming

/-- Attaching, detaching and starting deliver nothing, and give no muted pair a route
that awaits no snapshot. -/
theorem Checked.route {checksum : Book → UInt32} {run : Run} {next : L2Parser}
    {event : Event} (checked : Checked checksum run)
    (check : next.checksumCheck = run.parser.checksumCheck)
    (agrees : next.Agrees (run.log ++ [event]))
    (quiet : ∀ symbol, event.mutes? symbol = none)
    (kept : ∀ {symbol route}, next.routes.find? symbol = some route →
      route.awaitingSnapshot = false → run.parser.routes.find? symbol = some route) :
    Checked checksum ⟨next, run.log ++ [event]⟩ where
  check := check.trans checked.check
  agrees := agrees
  mutes {symbol route} silent found := by
    have before : muted symbol run.log := by
      simpa only [muted_append, List.filterMap_cons, quiet, List.filterMap_nil, List.getLast?_nil,
        Option.getD_none] using silent
    by_contra streaming
    have awaits := checked.mutes before (kept found (Bool.eq_false_of_not_eq_true streaming))
    exact streaming awaits
  verified := checked.verified.concat (by
    cases event with
    | received receiver message =>
        exact (Option.some_ne_none false (by simpa [Event.mutes?] using quiet message.symbol)).elim
    | _ => trivial)
  silenced := checked.silenced.concat (by
    cases event with
    | received receiver message =>
        exact (Option.some_ne_none false (by simpa [Event.mutes?] using quiet message.symbol)).elim
    | _ => trivial)

/-- Every call keeps every book of the run checked. -/
theorem Checked.call {checksum : Book → UInt32} {run : Run} (checked : Checked checksum run)
    {call : Call} (keeps : run.parser.KeepsReceiver call) :
    Checked checksum (run.call call) := by
  cases call with
  | attach symbol precision depth receiver =>
      cases outcome : run.parser.attach symbol precision depth receiver with
      | error text =>
          simp only [Run.call, outcome]
          exact checked
      | ok result =>
          obtain ⟨next, events⟩ := result
          simp only [Run.call, outcome]
          have agrees := checked.agrees.attach keeps outcome
          obtain ⟨_, rfl, rfl⟩ := attach_eq_ok_iff.mp outcome
          refine checked.route (checksumCheck_setRoute _ _ _) agrees (fun _ => rfl)
            fun {query route} found streaming => ?_
          rw [find?_setRoute] at found
          split at found
          · obtain rfl := Option.some.inj found
            exact Bool.noConfusion streaming
          · exact found
  | detach symbol =>
      refine checked.route rfl (checked.agrees.detach symbol) (fun _ => rfl)
        fun {query route} found _ => ?_
      rw [find?_detach] at found
      split at found
      · exact (Option.some_ne_none _ found.symm).elim
      · exact found
  | start =>
      refine checked.route rfl checked.agrees.start (fun _ => rfl)
        fun {query route} found streaming => ?_
      rw [find?_start] at found
      obtain ⟨old, _, rfl⟩ := Option.map_eq_some_iff.mp found
      exact Bool.noConfusion streaming
  | stop => exact checked
  | emit message => exact checked.emit message

/-- After any calls every book of the run is checked. -/
theorem Checked.after {checksum : Book → UInt32} {calls : List Call}
    (keeps : Along (fun past call => (Run.after (some checksum) past).parser.KeepsReceiver call)
      calls) :
    Checked checksum (Run.after (some checksum) calls) := by
  induction calls using List.reverseRecOn with
  | nil =>
      refine ⟨rfl, .init _, ?_, .nil, .nil⟩
      intro symbol route _ found
      exact (Option.some_ne_none _ found.symm).elim
  | append_singleton calls last ih =>
      obtain ⟨before, here⟩ := Along.concat_iff.mp keeps
      rw [Run.after_concat]
      exact (ih before).call here

/-- **Verified books.** Whatever calls a parser with a checksum gets, a message with a
checksum reaches a receiver only if the book the receiver then holds has that
checksum. A change that passes the gate and would not is refused: its receiver,
and no other, is told once that the pair is being resubscribed, the mismatch is
reported for that pair, and the pair's next delivered message is a snapshot. -/
theorem delivered_books_verified (checksum : Book → UInt32) (calls : List Call)
    (keeps : Along (fun past call => (Run.after (some checksum) past).parser.KeepsReceiver call)
      calls) :
    Along (Verified checksum) (Run.after (some checksum) calls).log ∧
    Along Silenced (Run.after (some checksum) calls).log ∧
    ∀ past message future, calls = past ++ .emit message :: future →
      let run := Run.after (some checksum) past
      ∀ route, run.parser.routes.find? message.symbol = some route →
        (message.type = .snapshot ∨ route.awaitingSnapshot = false) →
        message.checksum ≠ 0 →
        (∀ depth, attachedDepth route.receiver run.log = some depth →
          checksum ((Book.ofDepth depth).applyAll
            (sinceSnapshot (receivedBy route.receiver run.log ++ [message]))) ≠
              message.checksum) →
        (run.call (.emit message)).log = run.log ++
          [.emitted message true, .gapped route.receiver .resubscribing,
            .mismatched message.symbol] := by
  have checked := Checked.after keeps
  refine ⟨checked.verified, checked.silenced, ?_⟩
  intro past message future split run route present passes sent differs
  subst split
  have earlier : Checked checksum run := Checked.after (Along.of_append keeps)
  have routed := findRoute_eq_some_iff.mpr ⟨present, passes⟩
  have check : run.parser.checksumCheck.isSome := by
    rw [earlier.check, Option.isSome_some]
  have refused : run.parser.Refuses route message := by
    refine ⟨checksum, earlier.check, decide_eq_true ⟨sent, ?_⟩⟩
    rw [earlier.agrees.book_deliver check routed]
    exact differs _ (earlier.agrees.depth present)
  rcases run.parser.emit_cases message with ⟨dropped, _⟩ | ⟨other, found, _, emitted⟩ |
    ⟨other, found, accepted, _⟩
  · exact (Option.some_ne_none _ (routed.symm.trans dropped)).elim
  · obtain rfl := Option.some.inj (routed.symm.trans found)
    simp only [Run.call, emitted]
  · obtain rfl := Option.some.inj (routed.symm.trans found)
    exact (accepted refused).elim

/-- A snapshot whose book has its checksum is delivered, and the update after it,
which has the wrong one, is refused. -/
theorem delivered_books_verified_refusal :
    let levels : Book → UInt32 := fun book => (book.bids.size + book.asks.size).toUInt32
    let snapshot : Message := ⟨.snapshot, 1, 0, 0, "XBT/USD", [⟨100, 5⟩], []⟩
    let update : Message := ⟨.update, 7, 0, 0, "XBT/USD", [], [⟨101, 2⟩]⟩
    let calls : List Call := [.attach "XBT/USD" ⟨1, 8⟩ 10 0, .start, .emit snapshot]
    Along (Verified levels) (Run.after (some levels) (calls ++ [.emit update])).log ∧
      ((Run.after (some levels) calls).call (.emit update)).log =
        [.attached "XBT/USD" 10 0, .started, .emitted snapshot false, .received 0 snapshot,
          .emitted update true, .gapped 0 .resubscribing, .mismatched "XBT/USD"] := by
  intro levels snapshot update calls
  have keeps : Along
      (fun past call => (Run.after (some levels) past).parser.KeepsReceiver call)
      ([] ++ [.attach "XBT/USD" ⟨1, 8⟩ 10 0] ++ [.start] ++ [.emit snapshot] ++ [.emit update]) :=
    (((Along.nil.concat fun _ _ found => (Option.some_ne_none _ found.symm).elim).concat
      trivial).concat trivial).concat trivial
  obtain ⟨verified, _, refuse⟩ := delivered_books_verified levels (calls ++ [.emit update]) keeps
  have routed : ((Run.after (some levels) calls).parser.routes.find? "XBT/USD").map
      (fun route => (route.receiver, route.awaitingSnapshot)) = some (0, false) := by decide
  obtain ⟨route, present, here⟩ := Option.map_eq_some_iff.mp routed
  obtain ⟨receiver, streaming⟩ := Prod.mk.inj here
  refine ⟨verified, ?_⟩
  rw [refuse calls update [] rfl route present (Or.inr streaming) (by decide) ?_, receiver]
  · decide
  · intro depth attached
    rw [receiver] at attached ⊢
    obtain rfl := Option.some.inj attached
    decide

end L2Parser

end DataFeed.Venue
