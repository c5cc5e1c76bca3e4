import DataFeed.Foundation.Transition
import DataFeed.L2.Recording
import DataFeed.Venue.SnapshotFirst

/-! # Every recording can be replayed

A parser that checks a pair's book feeds a file writer. The messages and gaps reach
the writer's thread through its queue, so the files lag behind the parser by what is
queued, and a file ends where the thread meets a gap. That each file begins with a
snapshot and replays to the venue's checksums is what the parser guarantees of the
stream (`Checked`, `SnapshotFirst`), carried through the queue (`Holds`).
-/

namespace DataFeed.Venue

open Foundation L2 DataFeed.Core

/-- The file writer's name among the receivers. -/
def recorder : ReceiverId := 0

/-- A parser and the file writer of one of its pairs. -/
structure Recorder where
  run : L2Parser.Run
  /-- The parser runs on a connection whose end has not been told yet. -/
  connected : Bool
  writer : FileWriter
  files : Recordings
  /-- The pair is unsubscribed, and the writer's destructor waits for its thread. -/
  stopping : Bool
  /-- The destructor has returned. -/
  finished : Bool

namespace Recorder

/-- A step of the parser's owner, its decoder, the writer's thread or its
destructor. -/
inductive Action where
  | connect
  | failedConnect
  | disconnect
  | attach (symbol : String) (precision : PairPrecision) (depth : UInt32) (receiver : ReceiverId)
  | detach (symbol : String)
  | emit (message : Message)
  | drain (nowNs nowSeconds : Int64)
  | finish (nowSeconds : Int64)
  deriving DecidableEq, Repr

/-- Pushes entries one after another, if there is room for all of them. -/
def pushAll (writer : FileWriter) (entries : List Entry) : Option FileWriter :=
  entries.foldlM FileWriter.push writer

/-- What the end of a connection tells the receivers. -/
def gaps (parser : L2Parser) : List Event :=
  parser.routes.entries.map fun entry => .gapped entry.2.receiver .disconnected

/-- The parser does something, and its caller waits until the writer's queue has
taken what it brings the writer. -/
def advance (state : Recorder) (parser : L2Parser) (events : List Event) : Option Recorder :=
  (pushAll state.writer (entriesOf recorder events)).map fun writer =>
    { state with run := ⟨parser, state.run.log ++ events⟩, writer := writer }

variable (spec : BookSpec)

/-- What a step does, if it is possible. A new connection is started only once the
end of the last one has been told, and the parser emits only while it runs on one.
The receiver of another pair is a new one. -/
def step (state : Recorder) : Action → Option Recorder
  | .connect =>
      if state.connected then none
      else (state.advance state.run.parser.start.1 state.run.parser.start.2).map fun next =>
        { next with connected := true }
  | .failedConnect =>
      if state.connected then none
      else state.advance state.run.parser.start.1 state.run.parser.start.2
  | .disconnect =>
      if state.connected then
        (state.advance state.run.parser (gaps state.run.parser)).map fun next =>
          { next with connected := false }
      else none
  | .attach symbol precision depth receiver =>
      if receiver = recorder ∨
          ∃ entry ∈ state.run.parser.routes.entries, entry.2.receiver = receiver then none
      else
        match state.run.parser.attach symbol precision depth receiver with
        | .ok (parser, events) => state.advance parser events
        | .error _ => some state
  | .detach symbol =>
      (state.advance (state.run.parser.detach symbol).1 (state.run.parser.detach symbol).2).map
        fun next => { next with stopping := next.stopping || symbol = spec.symbol }
  | .emit message =>
      if state.connected then
        state.advance (state.run.parser.emit message).1 (state.run.parser.emit message).2
      else none
  | .drain nowNs nowSeconds =>
      (state.writer.drain state.files nowNs nowSeconds).map fun next =>
        { state with writer := next.1, files := next.2 }
  | .finish nowSeconds =>
      if state.stopping = true ∧ state.finished = false ∧ state.writer.queue = [] then
        some { state with
          writer := (state.writer.close state.files nowSeconds).1
          files := (state.writer.close state.files nowSeconds).2
          finished := true }
      else none

/-- The pair has just been subscribed: the writer has opened its first file and the
parser routes the pair to it. -/
def start (checksum : Book → UInt32) (venue : String) (precision : PairPrecision)
    (initial : Recordings) (nowNs : Int64) : Recorder where
  run := (L2Parser.Run.mk (L2Parser.init (some checksum)) []).call
    (.attach spec.symbol precision spec.depth recorder)
  connected := false
  writer := (FileWriter.new venue spec precision initial nowNs).1
  files := (FileWriter.new venue spec precision initial nowNs).2
  stopping := false
  finished := false

/-- A checksummed pair's parser and file writer, in any order of their steps. -/
def system (checksum : Book → UInt32) (venue : String) (precision : PairPrecision)
    (initial : Recordings) (nowNs : Int64) : System Recorder Action where
  init := start spec checksum venue precision initial nowNs
  step := step spec

end Recorder

/-- A recording begins with a snapshot, and replaying its records leaves, after each
one sent with a checksum, a book that has it. -/
def Replayable (checksum : Book → UInt32) (file : Recording) : Prop :=
  (∀ first rest, file.records = first :: rest → first.type = .snapshot) ∧
    ∀ earlier message later, file.records = earlier ++ message :: later → message.checksum ≠ 0 →
      checksum ((Book.ofDepth file.header.depth).applyAll (earlier ++ [message])) =
        message.checksum

namespace Recorder

/-- Pushing changes nothing but the queue. -/
theorem pushAll_eq {writer next : FileWriter} {entries : List Entry}
    (pushed : pushAll writer entries = some next) :
    next = { writer with queue := writer.queue ++ entries } := by
  induction entries generalizing writer with
  | nil =>
      obtain rfl := Option.some.inj pushed
      rw [List.append_nil]
  | cons entry rest ih =>
      unfold pushAll at pushed
      rw [List.foldlM_cons] at pushed
      obtain ⟨middle, first, later⟩ := Option.bind_eq_some_iff.mp pushed
      rw [ih later, FileWriter.push_eq first, List.append_assoc, List.singleton_append]

variable {spec : BookSpec} {checksum : Book → UInt32} {initial : Recordings}

/-- The parser, the writer's queue and the files fit together. -/
structure Sound (spec : BookSpec) (checksum : Book → UInt32) (initial : Recordings)
    (state : Recorder) : Prop where
  checked : L2Parser.Checked checksum state.run
  attached : ∀ symbol depth, .attached symbol depth recorder ∈ state.run.log → depth = spec.depth
  ready : state.connected = true → state.run.parser.Ready state.run.log
  first : L2Parser.SnapshotFirst state.run.log
  header : state.writer.header.depth = spec.depth
  served : ∀ symbol route, state.run.parser.routes.find? symbol = some route →
    route.receiver = recorder → symbol = spec.symbol ∧ state.stopping = false
  done : state.finished = true → state.stopping = true ∧ state.writer.queue = []
  recorded : ∃ consumed, entriesOf recorder state.run.log = consumed ++ state.writer.queue ∧
    Left initial state.writer state.files consumed ∧
    (state.finished = false → Holds initial state.writer state.files consumed)

/-- Something the parser does that brings the writer only what it may get. The parser
may come out of it connected or not. -/
theorem Sound.advance {state next : Recorder} (sound : state.Sound spec checksum initial)
    {parser : L2Parser} {events : List Event}
    (advanced : state.advance parser events = some next) {connected : Bool}
    (checked : L2Parser.Checked checksum ⟨parser, state.run.log ++ events⟩)
    (attached : ∀ symbol depth, .attached symbol depth recorder ∉ events)
    (ready : connected = true → parser.Ready (state.run.log ++ events))
    (first : L2Parser.SnapshotFirst (state.run.log ++ events))
    (inherits : ∀ symbol route, parser.routes.find? symbol = some route →
      route.receiver = recorder →
        ∃ old, state.run.parser.routes.find? symbol = some old ∧ old.receiver = recorder)
    (silent : (∀ symbol route, state.run.parser.routes.find? symbol = some route →
      route.receiver ≠ recorder) → entriesOf recorder events = []) :
    { next with connected := connected : Recorder }.Sound spec checksum initial := by
  obtain ⟨writer, pushed, rfl⟩ := Option.map_eq_some_iff.mp advanced
  obtain rfl := pushAll_eq pushed
  obtain ⟨consumed, queued, left, holds⟩ := sound.recorded
  refine ⟨checked, ?_, ready, first, sound.header, ?_, ?_, consumed, ?_, left, ?_⟩
  · intro symbol depth member
    rcases List.mem_append.mp member with old | new
    · exact sound.attached symbol depth old
    · exact (attached symbol depth new).elim
  · intro symbol route found same
    obtain ⟨old, present, receiver⟩ := inherits symbol route found same
    exact sound.served symbol old present receiver
  · intro finished
    obtain ⟨stop, empty⟩ := sound.done finished
    refine ⟨stop, ?_⟩
    dsimp only
    rw [empty, List.nil_append]
    exact silent fun symbol route found same =>
      Bool.false_ne_true ((sound.served symbol route found same).2.symm.trans stop)
  · rw [entriesOf_append, queued, List.append_assoc]
  · intro running
    obtain ⟨kept, closed, current, sublist, files, recorded, awaits⟩ := holds running
    exact ⟨kept, closed, current, sublist, files, recorded.queue _, awaits⟩

/-- The recorder advances by handing its writer the events of its own receiver. -/
theorem advance_eq {state next : Recorder} {parser : L2Parser} {events : List Event}
    (advanced : state.advance parser events = some next) :
    next.run = ⟨parser, state.run.log ++ events⟩ ∧
      { next with connected := state.connected : Recorder } = next := by
  obtain ⟨writer, _, rfl⟩ := Option.map_eq_some_iff.mp advanced
  exact ⟨rfl, rfl⟩

/-- Telling receivers of a gap is no part of the agreement between the parser and
what it delivered. -/
theorem checked_gaps {run : L2Parser.Run} (checked : L2Parser.Checked checksum run)
    (receivers : List ReceiverId) :
    L2Parser.Checked checksum
      ⟨run.parser, run.log ++ receivers.map fun receiver => .gapped receiver .disconnected⟩ := by
  induction receivers using List.reverseRecOn with
  | nil => simpa only [List.map_nil, List.append_nil] using checked
  | append_singleton receivers receiver ih =>
      rw [List.map_append, List.map_singleton, ← List.append_assoc]
      exact ih.route rfl (ih.agrees.append fun _ => ⟨rfl, rfl⟩) (fun _ => rfl)
        (fun found _ => found)

/-- A connection's start keeps the recording sound. -/
theorem Sound.start_parser {state next : Recorder} (sound : state.Sound spec checksum initial)
    (advanced : state.advance state.run.parser.start.1 state.run.parser.start.2 = some next)
    (connected : Bool) :
    { next with connected := connected : Recorder }.Sound spec checksum initial := by
  have checked : L2Parser.Checked checksum (state.run.call .start) := sound.checked.call trivial
  refine sound.advance advanced checked
    (fun _ _ member => Event.noConfusion (List.mem_singleton.mp member))
    (fun _ => L2Parser.ready_start _ _) (sound.first.quiet fun _ => rfl)
    (fun symbol route found same => ?_) (fun _ => rfl)
  rw [L2Parser.find?_start] at found
  obtain ⟨old, present, rfl⟩ := Option.map_eq_some_iff.mp found
  exact ⟨old, present, same⟩

/-- A message keeps the recording sound. -/
theorem Sound.emit {state next : Recorder} (sound : state.Sound spec checksum initial)
    {message : Message} (connected : state.connected = true)
    (advanced : state.advance (state.run.parser.emit message).1
      (state.run.parser.emit message).2 = some next) : next.Sound spec checksum initial := by
  have ready := sound.ready connected
  have routed : ∀ symbol route changed, state.run.parser.findRoute message.symbol message.type =
      some route → changed.receiver = route.receiver → ∀ stored,
      (state.run.parser.setRoute message.symbol changed).routes.find? symbol = some stored →
        stored.receiver = recorder →
          ∃ old, state.run.parser.routes.find? symbol = some old ∧ old.receiver = recorder := by
    intro symbol route changed routed receiver stored found same
    rw [L2Parser.find?_setRoute] at found
    split at found
    · rename_i here
      obtain rfl := Option.some.inj found
      exact ⟨route, here ▸ (L2Parser.findRoute_eq_some_iff.mp routed).1, receiver.symm.trans same⟩
    · exact ⟨stored, found, same⟩
  rw [← (advance_eq advanced).2]
  refine sound.advance advanced (sound.checked.emit message) ?_
    (fun _ => ready.emit sound.checked.agrees message) (sound.first.emit ready message) ?_ ?_
  · intro symbol depth member
    rcases state.run.parser.emit_cases message with ⟨_, emitted⟩ | ⟨_, _, _, emitted⟩ |
      ⟨_, _, _, emitted⟩ <;>
    · rw [emitted] at member
      simp only [List.mem_cons, reduceCtorEq, List.not_mem_nil, or_self] at member
  · rcases state.run.parser.emit_cases message with ⟨_, emitted⟩ | ⟨route, found, _, emitted⟩ |
      ⟨route, found, _, emitted⟩
    · rw [emitted]
      exact fun symbol route found same => ⟨route, found, same⟩
    · rw [emitted]
      exact fun symbol stored =>
        routed symbol route (L2Parser.refusedRoute route) found rfl stored
    · rw [emitted]
      exact fun symbol stored =>
        routed symbol route (state.run.parser.deliveredRoute route message) found rfl stored
  · intro gone
    rcases state.run.parser.emit_cases message with ⟨_, emitted⟩ | ⟨route, found, _, emitted⟩ |
      ⟨route, found, _, emitted⟩
    · rw [emitted]
      rfl
    · have other := gone _ route (L2Parser.findRoute_eq_some_iff.mp found).1
      rw [emitted, L2Parser.entriesOf_refused, if_neg (Ne.symm other)]
    · have other := gone _ route (L2Parser.findRoute_eq_some_iff.mp found).1
      rw [emitted, L2Parser.entriesOf_delivered, if_neg (Ne.symm other)]

/-- A route attached to a receiver of its own keeps the recording sound. -/
theorem Sound.attach {state next : Recorder} (sound : state.Sound spec checksum initial)
    {symbol : String} {precision : PairPrecision} {depth : UInt32} {receiver : ReceiverId}
    {parser : L2Parser} {events : List Event}
    (fresh : ¬ (receiver = recorder ∨
      ∃ entry ∈ state.run.parser.routes.entries, entry.2.receiver = receiver))
    (outcome : state.run.parser.attach symbol precision depth receiver = .ok (parser, events))
    (advanced : state.advance parser events = some next) : next.Sound spec checksum initial := by
  obtain ⟨other, unused⟩ := not_or.mp fresh
  have checked : L2Parser.Checked checksum
      (state.run.call (.attach symbol precision depth receiver)) :=
    sound.checked.call fun query route found same =>
      (unused ⟨(query, route), OrderedMap.find?_eq_some_iff.mp found, same⟩).elim
  simp only [L2Parser.Run.call, outcome] at checked
  have ready : state.connected = true → parser.Ready (state.run.log ++ events) :=
    fun connected => (sound.ready connected).attach outcome
  obtain ⟨_, rfl, rfl⟩ := L2Parser.attach_eq_ok_iff.mp outcome
  rw [← (advance_eq advanced).2]
  refine sound.advance advanced checked ?_ ready (sound.first.quiet fun _ => rfl) ?_ fun _ => rfl
  · intro query attached member
    exact other (Event.attached.inj (List.mem_singleton.mp member)).2.2.symm
  · intro query route found same
    rw [L2Parser.find?_setRoute] at found
    split at found
    · obtain rfl := Option.some.inj found
      exact (other same).elim
    · exact ⟨route, found, same⟩

/-- A detached route keeps the recording sound. -/
theorem Sound.detach {state next : Recorder} (sound : state.Sound spec checksum initial)
    {symbol : String}
    (advanced : state.advance (state.run.parser.detach symbol).1
      (state.run.parser.detach symbol).2 = some next) :
    { next with stopping := next.stopping || symbol = spec.symbol : Recorder }.Sound spec
      checksum initial := by
  have kept : ∀ query route, (state.run.parser.detach symbol).1.routes.find? query = some route →
      query ≠ symbol ∧ state.run.parser.routes.find? query = some route := by
    intro query route found
    rw [L2Parser.find?_detach] at found
    split at found
    · exact (Option.some_ne_none _ found.symm).elim
    · rename_i elsewhere
      exact ⟨elsewhere, found⟩
  have checked : L2Parser.Checked checksum (state.run.call (.detach symbol)) :=
    sound.checked.call trivial
  obtain ⟨run, same⟩ := advance_eq advanced
  have after : next.Sound spec checksum initial := by
    rw [← same]
    exact sound.advance advanced checked
      (fun _ _ member => Event.noConfusion (List.mem_singleton.mp member))
      (fun connected => (sound.ready connected).detach symbol) (sound.first.quiet fun _ => rfl)
      (fun query route found same => ⟨route, (kept query route found).2, same⟩) (fun _ => rfl)
  refine { after with served := ?_, done := fun finished => ?_ }
  · intro query route found same
    obtain ⟨here, running⟩ := after.served query route found same
    refine ⟨here, ?_⟩
    dsimp only at found ⊢
    rw [run] at found
    have elsewhere : decide (symbol = spec.symbol) = false :=
      decide_eq_false fun same => (kept query route found).1 (here.trans same.symm)
    rw [running, elsewhere, Bool.or_false]
  · obtain ⟨stop, empty⟩ := after.done finished
    refine ⟨?_, empty⟩
    dsimp only
    rw [stop, Bool.true_or]

/-- Every routed receiver is told of a lost connection. -/
theorem gaps_eq (parser : L2Parser) :
    gaps parser = (parser.routes.entries.map fun entry => entry.2.receiver).map
      fun receiver => .gapped receiver .disconnected := by
  rw [List.map_map]
  rfl

/-- A lost connection keeps the recording sound. -/
theorem Sound.disconnect {state next : Recorder} (sound : state.Sound spec checksum initial)
    (advanced : state.advance state.run.parser (gaps state.run.parser) = some next) :
    { next with connected := false : Recorder }.Sound spec checksum initial := by
  refine sound.advance advanced ?_ ?_ (fun connected => Bool.noConfusion connected) ?_
    (fun symbol route found same => ⟨route, found, same⟩) ?_
  · rw [gaps_eq]
    exact checked_gaps sound.checked _
  · intro symbol depth member
    obtain ⟨_, _, same⟩ := List.mem_map.mp member
    exact Event.noConfusion same
  · rw [gaps_eq]
    exact sound.first.gaps _
  · intro gone
    refine List.filterMap_eq_nil_iff.mpr fun event member => ?_
    obtain ⟨entry, listed, rfl⟩ := List.mem_map.mp member
    have other := gone entry.1 entry.2 (OrderedMap.find?_eq_some_iff.mpr listed)
    simp only [Event.entryOf?, other, ↓reduceIte]

/-- A pass of the writer's thread keeps the recording sound. -/
theorem Sound.drain {state : Recorder} (sound : state.Sound spec checksum initial)
    {nowNs nowSeconds : Int64} {next : FileWriter × Recordings}
    (drained : state.writer.drain state.files nowNs nowSeconds = some next) :
    { state with writer := next.1, files := next.2 : Recorder }.Sound spec checksum initial := by
  unfold FileWriter.drain at drained
  split at drained
  · exact (Option.some_ne_none _ drained.symm).elim
  · rename_i entry rest queue
    obtain rfl := Option.some.inj drained
    have running : state.finished = false := by
      by_contra finished
      obtain ⟨_, empty⟩ := sound.done (Bool.of_not_eq_false finished)
      exact List.cons_ne_nil entry rest (queue.symm.trans empty)
    obtain ⟨consumed, queued, _, holds⟩ := sound.recorded
    have opens : OpensStretch consumed entry := by
      refine sound.first recorder consumed entry rest ?_
      rw [queued, queue]
    obtain ⟨kept, closed, current, sublist, files, recorded, awaits⟩ := holds running
    have taken : Holds initial { state.writer with queue := rest } state.files consumed :=
      ⟨kept, closed, current, sublist, files, recorded.queue rest, awaits⟩
    have after := taken.consume opens nowNs nowSeconds
    refine { sound with
      header := ?_
      done := fun finished => (Bool.false_ne_true (running.symm.trans finished)).elim
      recorded := ⟨consumed ++ [entry], ?_, after.left, fun _ => after⟩ }
    · exact (FileWriter.depth_consume _ _ _ _ _).trans sound.header
    · rw [FileWriter.queue_consume, queued, queue, List.append_assoc, List.singleton_append]

/-- Every step keeps the recording sound. -/
theorem Sound.step {state next : Recorder} {action : Action}
    (sound : state.Sound spec checksum initial) (stepped : step spec state action = some next) :
    next.Sound spec checksum initial := by
  cases action with
  | connect =>
      simp only [Recorder.step] at stepped
      split at stepped
      · contradiction
      · obtain ⟨middle, advanced, rfl⟩ := Option.map_eq_some_iff.mp stepped
        exact sound.start_parser advanced true
  | failedConnect =>
      simp only [Recorder.step] at stepped
      split at stepped
      · contradiction
      · rw [← (advance_eq stepped).2]
        exact sound.start_parser stepped state.connected
  | disconnect =>
      simp only [Recorder.step] at stepped
      split at stepped
      · obtain ⟨middle, advanced, rfl⟩ := Option.map_eq_some_iff.mp stepped
        exact sound.disconnect advanced
      · contradiction
  | attach symbol precision depth receiver =>
      simp only [Recorder.step] at stepped
      split at stepped
      · contradiction
      · rename_i fresh
        split at stepped
        · rename_i parser events outcome
          exact sound.attach fresh outcome stepped
        · obtain rfl := Option.some.inj stepped
          exact sound
  | detach symbol =>
      simp only [Recorder.step] at stepped
      obtain ⟨middle, advanced, rfl⟩ := Option.map_eq_some_iff.mp stepped
      exact sound.detach advanced
  | emit message =>
      simp only [Recorder.step] at stepped
      split at stepped
      · rename_i connected
        exact sound.emit connected stepped
      · contradiction
  | drain nowNs nowSeconds =>
      simp only [Recorder.step] at stepped
      obtain ⟨middle, drained, rfl⟩ := Option.map_eq_some_iff.mp stepped
      exact sound.drain drained
  | finish nowSeconds =>
      simp only [Recorder.step] at stepped
      split at stepped
      · rename_i may
        obtain ⟨stop, running, empty⟩ := may
        obtain rfl := Option.some.inj stepped
        obtain ⟨consumed, queued, _, holds⟩ := sound.recorded
        have kept : ∀ files, (state.writer.close files nowSeconds).1.header = state.writer.header ∧
            (state.writer.close files nowSeconds).1.queue = state.writer.queue := by
          intro files
          unfold FileWriter.close
          split <;> exact ⟨rfl, rfl⟩
        refine { sound with
          header := by rw [(kept state.files).1, sound.header]
          done := fun _ => ⟨stop, by rw [(kept state.files).2, empty]⟩
          recorded := ⟨consumed, by rw [(kept state.files).2, queued],
            (holds running).close nowSeconds, fun still => Bool.noConfusion still⟩ }
      · contradiction

/-- A recording that has just begun is sound. -/
theorem Sound.start (venue : String) (precision : PairPrecision) (nowNs : Int64) :
    (Recorder.start spec checksum venue precision initial nowNs).Sound spec checksum initial := by
  have empty : L2Parser.Checked checksum (L2Parser.Run.after (some checksum) []) :=
    L2Parser.Checked.after Along.nil
  have unrouted : (L2Parser.Run.after (some checksum) []).parser.KeepsReceiver
      (.attach spec.symbol precision spec.depth recorder) :=
    fun other route found => (Option.some_ne_none _ found.symm).elim
  have first : L2Parser.SnapshotFirst ([] ++ [.attached spec.symbol spec.depth recorder]) :=
    L2Parser.SnapshotFirst.nil.quiet fun _ => rfl
  have holds := Holds.new venue spec precision initial nowNs
  refine ⟨empty.call unrouted, ?_, fun connected => Bool.noConfusion connected, first, rfl, ?_,
    fun finished => Bool.noConfusion finished, [], rfl, holds.left, fun _ => holds⟩
  · intro symbol depth member
    exact (Event.attached.inj (List.mem_singleton.mp member)).2.1
  · intro symbol route found _
    refine ⟨?_, rfl⟩
    have stored := OrderedMap.find?_eq_some_iff.mp found
    exact congrArg Prod.fst (List.mem_singleton.mp stored)

/-- A message the writer got with a checksum leaves, with the messages since the latest
snapshot, a book that has it. -/
theorem Sound.verified {state : Recorder} (sound : state.Sound spec checksum initial)
    {before after : List Message} {message : Message}
    (received : receivedBy recorder state.run.log = before ++ message :: after)
    (sent : message.checksum ≠ 0) :
    checksum ((Book.ofDepth spec.depth).applyAll (sinceSnapshot (before ++ [message]))) =
      message.checksum := by
  obtain ⟨past, future, split, earlier, rest⟩ := List.filterMap_eq_append_iff.mp received
  obtain ⟨quiet, event, later, rfl, silent, brought, _⟩ := List.filterMap_eq_cons_iff.mp rest
  have same : event = .received recorder message := by
    cases event with
    | received target content =>
        simp only [Event.receivedBy?] at brought
        split at brought
        · rename_i here
          rw [here, Option.some.inj brought]
        · exact (Option.some_ne_none _ brought.symm).elim
    | _ => exact (Option.some_ne_none _ brought.symm).elim
  obtain rfl := same
  have held : L2Parser.Verified checksum (past ++ quiet) (.received recorder message) :=
    sound.checked.verified (past ++ quiet) _ later (by rw [split, List.append_assoc])
  obtain ⟨depth, previous, snapshot, updates, attached, messages, first, _, book⟩ := held sent
  have known : receivedBy recorder (past ++ quiet) = before := by
    rw [receivedBy_append, show receivedBy recorder quiet = [] from
      List.filterMap_eq_nil_iff.mpr silent, List.append_nil]
    exact earlier
  obtain ⟨symbol, member⟩ := mem_of_attachedDepth attached
  have same : depth = spec.depth := by
    refine sound.attached symbol depth ?_
    rw [split, ← List.append_assoc]
    exact List.mem_append_left _ member
  rw [← known, messages, sinceSnapshot_append _ _ first, Book.applyAll_sinceSnapshot _ _ first,
    ← same]
  exact book

/-- What is in a file replays to the venue's checksums. -/
theorem Sound.replayable {state : Recorder} (sound : state.Sound spec checksum initial)
    {ours : Recordings} {queued : List Message}
    (content : ours.flatMap File.records ++ queued = receivedBy recorder state.run.log)
    {file : Recording} (member : file ∈ ours) (depth : file.header.depth = spec.depth)
    (starts : ∀ first rest, file.records = first :: rest → first.type = .snapshot) :
    Replayable checksum file := by
  refine ⟨starts, fun earlier message later records sent => ?_⟩
  obtain ⟨before, after, rfl⟩ := List.append_of_mem member
  have received : receivedBy recorder state.run.log =
      (before.flatMap File.records ++ earlier) ++
        message :: (later ++ (after.flatMap File.records ++ queued)) := by
    rw [← content, List.flatMap_append, List.flatMap_cons, records]
    simp only [List.append_assoc, List.cons_append]
  have book := sound.verified received sent
  cases begun : earlier ++ [message] with
  | nil => exact (List.append_ne_nil_of_right_ne_nil earlier (List.cons_ne_nil _ _) begun).elim
  | cons first rest =>
      have head : first.type = .snapshot := by
        refine starts first (rest ++ later) ?_
        rw [records, ← List.cons_append, ← begun, List.append_assoc, List.singleton_append]
      rw [List.append_assoc, begun, sinceSnapshot_append _ _ head,
        Book.applyAll_sinceSnapshot _ _ head] at book
      rw [depth]
      exact book

/-- **Recordings replay.** Whatever the parser, its owner, the writer's thread and its
destructor do, the files the writer has opened, after those that were there before,
are replayable at the depth in their headers, and hold in order exactly the messages
the writer got, but for those still in its queue; once its destructor has returned,
none are. -/
theorem recordings_replay (venue : String) (precision : PairPrecision) (nowNs : Int64)
    (state : Recorder)
    (reachable : (system spec checksum venue precision initial nowNs).Reachable state) :
    ∃ kept ours, kept.Sublist initial ∧ state.files = kept ++ ours ∧
      (∀ file ∈ ours, file.header.depth = spec.depth ∧ Replayable checksum file) ∧
      ours.flatMap File.records ++ state.writer.queue.reduceOption =
        receivedBy recorder state.run.log ∧
      (state.finished = true → state.writer.queue = []) := by
  have sound : state.Sound spec checksum initial := by
    apply reachable.invariant
    · exact Sound.start venue precision nowNs
    · exact fun _ _ _ sound stepped => sound.step stepped
  obtain ⟨consumed, queued, ⟨kept, ours, sublist, files, content, left⟩, _⟩ := sound.recorded
  have all : ours.flatMap File.records ++ state.writer.queue.reduceOption =
      receivedBy recorder state.run.log := by
    rw [content, ← List.reduceOption_append, ← queued, reduceOption_entriesOf]
  refine ⟨kept, ours, sublist, files, fun file member => ?_, all, fun done => (sound.done done).2⟩
  have depth := (left file member).1.trans sound.header
  exact ⟨depth, sound.replayable all member depth (left file member).2⟩

/-- A reconnect ends one file and starts the next at the snapshot after it. -/
theorem recordings_replay_reconnect :
    let levels : Book → UInt32 := fun book => (book.bids.size + book.asks.size).toUInt32
    let snapshot : Message := ⟨.snapshot, 1, 0, 0, "XBT/USD", [⟨100, 5⟩], []⟩
    let update : Message := ⟨.update, 2, 0, 0, "XBT/USD", [], [⟨101, 2⟩]⟩
    let recording := system ⟨"XBT/USD", 10⟩ levels "kraken" ⟨1, 8⟩ [] 7000000000
    ∃ state, recording.run [.connect, .emit snapshot, .emit update, .drain 0 0, .disconnect,
        .drain 0 0, .drain 0 9, .connect, .emit update, .emit snapshot, .detach "XBT/USD",
        .drain 11000000000 0, .finish 12] = some state ∧
      state.files.map (fun file => (file.name, file.records)) =
        [("XBTUSD-7-9.bin", [snapshot, update]), ("XBTUSD-11-12.bin", [snapshot])] ∧
      ∃ kept ours, kept.Sublist [] ∧ state.files = kept ++ ours ∧
        (∀ file ∈ ours, file.header.depth = 10 ∧ Replayable levels file) ∧
        ours.flatMap File.records ++ state.writer.queue.reduceOption =
          receivedBy recorder state.run.log ∧
        (state.finished = true → state.writer.queue = []) := by
  intro levels snapshot update recording
  have ran : (recording.run [.connect, .emit snapshot, .emit update, .drain 0 0, .disconnect,
      .drain 0 0, .drain 0 9, .connect, .emit update, .emit snapshot, .detach "XBT/USD",
      .drain 11000000000 0, .finish 12]).map
        (fun state => state.files.map fun file => (file.name, file.records)) =
      some [("XBTUSD-7-9.bin", [snapshot, update]), ("XBTUSD-11-12.bin", [snapshot])] := by
    decide
  obtain ⟨state, reached, content⟩ := Option.map_eq_some_iff.mp ran
  exact ⟨state, reached, content,
    recordings_replay "kraken" ⟨1, 8⟩ 7000000000 state ⟨_, reached⟩⟩

end Recorder

end DataFeed.Venue
