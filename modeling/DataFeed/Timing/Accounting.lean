import DataFeed.Timing.Aggregator

/-! # No sample is lost

A sample that was pushed is in its thread's queue until the writer has it, and a producer
leaves the registry only with an empty queue. The last pass begins after the stop, when no
thread pushes any more, so it empties all queues; what the file then holds is what was
pushed, each thread's samples in their order (`samples_accounted`).
-/

namespace DataFeed.Timing.Aggregator

open Foundation

variable {Thread : Type*} [DecidableEq Thread] {registry : Registry Thread}
  {state next : Aggregator Thread} {thread : Thread} {capacity : Nat}

/-- The samples of a thread in two lists, one after the other. -/
theorem samplesOf_append (thread : Thread) (first second : List (Thread × Sample)) :
    samplesOf thread (first ++ second) = samplesOf thread first ++ samplesOf thread second := by
  unfold samplesOf
  rw [List.filter_append, List.map_append]

/-- The samples that are marked as a thread's are the thread's. -/
theorem samplesOf_own (thread : Thread) (samples : List Sample) :
    samplesOf thread (samples.map fun sample => (thread, sample)) = samples := by
  have all : ∀ entry ∈ samples.map (fun sample => (thread, sample)),
      decide (entry.1 = thread) = true := by
    intro entry member
    obtain ⟨sample, _, rfl⟩ := List.mem_map.mp member
    exact decide_eq_true rfl
  unfold samplesOf
  rw [List.filter_eq_self.mpr all, List.map_map]
  exact List.map_id samples

/-- Those that are marked as another's are not. -/
theorem samplesOf_other {other : Thread} (different : other ≠ thread) (samples : List Sample) :
    samplesOf thread (samples.map fun sample => (other, sample)) = [] := by
  have none : ∀ entry ∈ samples.map (fun sample => (other, sample)),
      ¬ decide (entry.1 = thread) = true := by
    intro entry member
    obtain ⟨sample, _, rfl⟩ := List.mem_map.mp member
    rwa [decide_eq_true_eq]
  unfold samplesOf
  rw [List.filter_eq_nil_iff.mpr none, List.map_nil]

/-- What holds of a thread. -/
structure ThreadSound (registry : Registry Thread) (state : Aggregator Thread)
    (thread : Thread) : Prop where
  balanced : samplesOf thread (state.file ++ state.buffer) ++ state.queue thread =
    registry.queue thread ++ state.pushed thread
  absent : thread ∉ state.producers → state.queue thread = []
  present : state.registered thread = true → state.recorders thread ≠ .exited →
    thread ∈ state.producers
  retired : state.retired thread = true → state.recorders thread = .exited
  pushing : ∀ sample, state.recorders thread = .pushing sample → state.registered thread = true
  quiet : (state.recorders thread).InCall → state.caller = .started

/-- The samples that found their queue full are counted, or about to be. -/
def Counted (state : Aggregator Thread) : Prop :=
  ∃ (waiting : Finset Thread) (counted : Nat),
    (∀ thread, thread ∈ waiting ↔ state.recorders thread = .refused) ∧
      state.failures = counted + waiting.card ∧ state.dropped = UInt64.ofNat counted

/-- The producers that are neither left to decide on nor kept are retired for good. -/
def Decided (state : Aggregator Thread) (left kept : List Thread) : Prop :=
  ∀ thread ∈ state.producers, thread ∈ left ∨ thread ∈ kept ∨
    state.retired thread = true ∧ state.queue thread = []

/-- In the last pass, the queues of what is kept are empty. -/
def Emptied (state : Aggregator Thread) (stopping : Bool) (kept : List Thread) : Prop :=
  stopping = true → state.stopRequested = true ∧ ∀ thread ∈ kept, state.queue thread = []

/-- What holds where the writer is. -/
def At (state : Aggregator Thread) : Writer Thread → Prop
  | .absent | .asking => True
  | .locking stopping => stopping = true → state.stopRequested = true
  | .deciding stopping todo kept => state.Decided todo kept ∧ state.Emptied stopping kept
  | .looking stopping retired thread todo kept =>
      state.Decided (thread :: todo) kept ∧ state.Emptied stopping kept ∧
        (retired = true → state.retired thread = true)
  | .consuming stopping retired thread count todo kept =>
      state.Decided (thread :: todo) kept ∧ state.Emptied stopping kept ∧
        (retired = true → state.retired thread = true) ∧
        (retired = true ∨ stopping = true → (state.queue thread).drop count = [])
  | .writing stopping =>
      stopping = true → state.stopRequested = true ∧ ∀ thread, state.queue thread = []
  | .closing =>
      state.stopRequested = true ∧ (∀ thread, state.queue thread = []) ∧ state.buffer = []
  | .finished =>
      (state.stopRequested = true ∧ (∀ thread, state.queue thread = []) ∧ state.buffer = []) ∧
        state.closing = some (UInt64.ofNat state.failures)

/-- What holds however the steps are ordered. -/
structure Sound (registry : Registry Thread) (state : Aggregator Thread) : Prop where
  threads : ∀ thread, ThreadSound registry state thread
  counted : state.Counted
  running : state.running = true → state.caller = .started
  stops : state.stopRequested = true → state.caller = .joining ∨ state.caller = .stopped
  idle : state.caller = .idle → state.failures = 0
  place : state.At state.writer

/-- Nothing has been recorded yet. -/
theorem sound_init (registry : Registry Thread) : Sound registry (init registry) := by
  refine ⟨fun thread => ?_, ⟨∅, 0, fun thread => ?_, rfl, rfl⟩, (fun running => by cases running),
    (fun stopped => by cases stopped), fun _ => rfl, trivial⟩
  · unfold init
    refine ⟨(List.append_nil _).symm, registry.queued thread, fun registered alive => ?_,
      fun retired => ?_, fun sample pushing => ?_, fun inside => ?_⟩
    · apply registry.present thread registered
      dsimp only at alive
      rw [← Bool.not_eq_true]
      exact fun exited => alive (if_pos exited)
    · exact if_pos (Bool.and_elim_right retired)
    · dsimp only at pushing
      split at pushing <;> cases pushing
    · dsimp only at inside
      split at inside <;> exact inside.elim
  · unfold init
    dsimp only
    split
    · exact iff_of_false (Finset.notMem_empty _) (fun same => by cases same)
    · exact iff_of_false (Finset.notMem_empty _) (fun same => by cases same)

/-- A step is nothing to a thread. -/
structure Leaves (state next : Aggregator Thread) (thread : Thread) : Prop where
  recorder : next.recorders thread = state.recorders thread
  queue : next.queue thread = state.queue thread
  registered : next.registered thread = state.registered thread
  retired : next.retired thread = state.retired thread
  pushed : next.pushed thread = state.pushed thread
  entries : next.file ++ next.buffer = state.file ++ state.buffer
  producers : thread ∈ next.producers ↔ thread ∈ state.producers

/-- What leaves a thread's part as it is leaves it sound. -/
theorem ThreadSound.of_leaves (sound : ThreadSound registry state thread)
    (leaves : Leaves state next thread) (caller : next.caller = state.caller) :
    ThreadSound registry next thread := by
  obtain ⟨recorder, queue, registered, retired, pushed, entries, producers⟩ := leaves
  refine ⟨?_, ?_, ?_, ?_, ?_, ?_⟩
  · rw [entries, queue, pushed]
    exact sound.balanced
  · rw [producers, queue]
    exact sound.absent
  · rw [registered, recorder, producers]
    exact sound.present
  · rw [retired, recorder]
    exact sound.retired
  · rw [recorder, registered]
    exact sound.pushing
  · rw [recorder, caller]
    exact sound.quiet

/-- What a step leaves to the writer. -/
structure Undisturbed (state next : Aggregator Thread) : Prop where
  stops : state.stopRequested = true → next.stopRequested = true
  producers : state.writer.Holds → next.producers = state.producers
  retired : ∀ thread, state.retired thread = true → next.retired thread = true
  queue : ∀ thread, state.retired thread = true ∨ state.stopRequested = true →
    next.queue thread = state.queue thread
  buffer : next.buffer = state.buffer
  closing : next.closing = state.closing
  failures : state.stopRequested = true → next.failures = state.failures

omit [DecidableEq Thread] in
/-- Threads that are decided on stay so while the writer holds the lock. -/
theorem Decided.of_undisturbed {left kept : List Thread} (decided : state.Decided left kept)
    (undisturbed : Undisturbed state next) (holds : state.writer.Holds) :
    next.Decided left kept := by
  intro thread listed
  rw [undisturbed.producers holds] at listed
  rcases decided thread listed with todo | kept | ⟨retired, empty⟩
  · exact .inl todo
  · exact .inr (.inl kept)
  · refine .inr (.inr ⟨undisturbed.retired thread retired, ?_⟩)
    rw [undisturbed.queue thread (.inl retired)]
    exact empty

omit [DecidableEq Thread] in
/-- Queues that were emptied stay empty. -/
theorem Emptied.of_undisturbed {stopping : Bool} {kept : List Thread}
    (emptied : state.Emptied stopping kept) (undisturbed : Undisturbed state next) :
    next.Emptied stopping kept := by
  intro last
  obtain ⟨stopped, empty⟩ := emptied last
  refine ⟨undisturbed.stops stopped, fun thread member => ?_⟩
  rw [undisturbed.queue thread (.inr stopped)]
  exact empty thread member

omit [DecidableEq Thread] in
/-- So do all queues once the writer was told to stop. -/
theorem queues_of_undisturbed (undisturbed : Undisturbed state next)
    (stopped : state.stopRequested = true) (empty : ∀ thread, state.queue thread = []) :
    ∀ thread, next.queue thread = [] := by
  intro thread
  rw [undisturbed.queue thread (.inr stopped)]
  exact empty thread

omit [DecidableEq Thread] in
/-- What the other threads do leaves the writer where it is. -/
theorem At.of_undisturbed {writer : Writer Thread} (place : state.At writer)
    (same : state.writer = writer) (undisturbed : Undisturbed state next) : next.At writer := by
  cases writer with
  | absent => trivial
  | asking => trivial
  | locking stopping => exact fun last => undisturbed.stops (place last)
  | deciding stopping todo kept =>
      have holds : state.writer.Holds := by rw [same]; trivial
      exact ⟨place.1.of_undisturbed undisturbed holds, place.2.of_undisturbed undisturbed⟩
  | looking stopping retired thread todo kept =>
      have holds : state.writer.Holds := by rw [same]; trivial
      obtain ⟨decided, emptied, gone⟩ := place
      exact ⟨decided.of_undisturbed undisturbed holds, emptied.of_undisturbed undisturbed,
        fun read => undisturbed.retired thread (gone read)⟩
  | consuming stopping retired thread count todo kept =>
      have holds : state.writer.Holds := by rw [same]; trivial
      obtain ⟨decided, emptied, gone, whole⟩ := place
      refine ⟨decided.of_undisturbed undisturbed holds, emptied.of_undisturbed undisturbed,
        fun read => undisturbed.retired thread (gone read), fun last => ?_⟩
      have kept : state.retired thread = true ∨ state.stopRequested = true := by
        rcases last with read | stopping
        · exact .inl (gone read)
        · exact .inr (emptied stopping).1
      rw [undisturbed.queue thread kept]
      exact whole last
  | writing stopping =>
      intro last
      obtain ⟨stopped, empty⟩ := place last
      exact ⟨undisturbed.stops stopped, queues_of_undisturbed undisturbed stopped empty⟩
  | closing =>
      obtain ⟨stopped, empty, written⟩ := place
      exact ⟨undisturbed.stops stopped, queues_of_undisturbed undisturbed stopped empty,
        undisturbed.buffer.trans written⟩
  | finished =>
      obtain ⟨⟨stopped, empty, written⟩, count⟩ := place
      refine ⟨⟨undisturbed.stops stopped, queues_of_undisturbed undisturbed stopped empty,
        undisturbed.buffer.trans written⟩, ?_⟩
      rw [undisturbed.closing, undisturbed.failures stopped]
      exact count

/-! ## The steps of the recording threads -/

section Recorders

variable {before after : Recorder} {sample : Sample}

omit [DecidableEq Thread] in
/-- Threads that neither begin nor end to wait leave the count as it is. -/
theorem Counted.of_same (counted : state.Counted)
    (refused : ∀ thread, next.recorders thread = .refused ↔ state.recorders thread = .refused)
    (failures : next.failures = state.failures) (dropped : next.dropped = state.dropped) :
    next.Counted := by
  obtain ⟨waiting, count, members, sum, value⟩ := counted
  refine ⟨waiting, count, fun thread => ?_, ?_, ?_⟩
  · rw [refused, members]
  · rw [failures, sum]
  · rw [dropped, value]

/-- A thread's step into or out of its call refuses nobody's sample. -/
theorem refused_update {recorders : Thread → Recorder} (place : recorders thread = before)
    (not_before : before ≠ .refused) (not_after : after ≠ .refused) (other : Thread) :
    Function.update recorders thread after other = .refused ↔ recorders other = .refused := by
  by_cases same : other = thread
  · subst same
    rw [Function.update_self, place]
    exact iff_of_false not_after not_before
  · rw [Function.update_of_ne same]

/-- A step is nothing to the threads that do not take it. -/
theorem leaves_move {recorder : Recorder} {other : Thread} (different : other ≠ thread) :
    Leaves state (state.move thread recorder) other where
  recorder := Function.update_of_ne different _ _
  queue := rfl
  registered := rfl
  retired := rfl
  pushed := rfl
  entries := rfl
  producers := Iff.rfl

/-- A step between a recorder's places disturbs nothing. -/
theorem undisturbed_move (recorder : Recorder) :
    Undisturbed state (state.move thread recorder) where
  stops stopped := stopped
  producers _ := rfl
  retired _ retired := retired
  queue _ _ := rfl
  buffer := rfl
  closing := rfl
  failures _ := rfl

namespace Sound

variable (sound : Sound registry state)
include sound

/-- A thread that has not exited is not retired. -/
theorem alive (was : state.recorders thread = before) (not_exited : before ≠ .exited) :
    ¬ state.retired thread = true := by
  intro retired
  exact not_exited (was.symm.trans ((sound.threads thread).retired retired))

/-- Only while samples are recorded is a thread in a call. -/
theorem started (inside : (state.recorders thread).InCall) :
    state.caller = .started ∧ ¬ state.stopRequested = true := by
  have started := (sound.threads thread).quiet inside
  refine ⟨started, fun stopped => ?_⟩
  rcases sound.stops stopped with joining | stopped
  · rw [started] at joining
    cases joining
  · rw [started] at stopped
    cases stopped

/-- A thread goes on within a call, or begins one. -/
theorem move (was : state.recorders thread = before) (live : before ≠ .exited)
    (not_refused : before ≠ .refused) (goes_on : after ≠ .refused)
    (pushing : ∀ sample, after = .pushing sample → state.registered thread = true)
    (started : state.caller = .started) : Sound registry (state.move thread after) := by
  refine ⟨fun other => ?_, ?_, sound.running, sound.stops, sound.idle,
    sound.place.of_undisturbed rfl (undisturbed_move after)⟩
  · by_cases same : other = thread
    · subst same
      have thread_sound := sound.threads other
      refine ⟨thread_sound.balanced, thread_sound.absent, fun registered _ => ?_, fun retired => ?_,
        fun sample moved => ?_, fun _ => started⟩
      · exact thread_sound.present registered (was ▸ live)
      · exact absurd retired (sound.alive was live)
      · exact pushing sample ((Function.update_self ..).symm.trans moved)
    · exact (sound.threads other).of_leaves (leaves_move same) rfl
  · exact sound.counted.of_same (refused_update was not_refused goes_on) rfl rfl

/-- A call of Record begins, or finds that nothing is recorded. -/
theorem record (stepped : state.record thread sample = some next) : Sound registry next := by
  unfold Aggregator.record at stepped
  split at stepped
  · rename_i ready
    obtain rfl := Option.some.inj stepped
    split
    · rename_i running
      apply sound.move ready (fun same => by cases same) (fun same => by cases same)
        (fun same => by cases same) (fun _ same => by cases same)
      exact sound.running running
    · exact sound
  · cases stepped

/-- A thread registers. -/
theorem register {sample : Sample} (was : state.recorders thread = .entered sample)
    (free : ¬ state.writer.Holds) (unregistered : ¬ state.registered thread = true) :
    Sound registry { state.move thread (.pushing sample) with
      producers := state.producers ++ [thread]
      registered := Function.update state.registered thread true } := by
  have inside : (state.recorders thread).InCall := by rw [was]; trivial
  refine ⟨fun other => ?_, ?_, sound.running, sound.stops, sound.idle, ?_⟩
  · by_cases same : other = thread
    · subst same
      have own := sound.threads other
      refine ⟨own.balanced, fun missing => ?_, fun _ _ => ?_, fun retired => ?_,
        fun _ _ => Function.update_self .., fun _ => (sound.started inside).1⟩
      · exact absurd (List.mem_append_right _ (List.mem_singleton_self other)) missing
      · exact List.mem_append_right _ (List.mem_singleton_self other)
      · exact absurd retired (sound.alive was fun same => by cases same)
    · refine (sound.threads other).of_leaves ?_ rfl
      refine ⟨Function.update_of_ne same _ _, rfl, Function.update_of_ne same _ _, rfl, rfl, rfl, ?_⟩
      dsimp only
      rw [List.mem_append, List.mem_singleton, or_iff_left same]
  · exact sound.counted.of_same
      (refused_update was (fun same => by cases same) (fun same => by cases same)) rfl rfl
  · apply sound.place.of_undisturbed rfl
    exact ⟨id, fun holds => absurd holds free, fun _ => id, fun _ _ => rfl, rfl, rfl, fun _ => rfl⟩

/-- A thread asks for its producer. -/
theorem localProducer (stepped : state.localProducer thread = some next) :
    Sound registry next := by
  unfold Aggregator.localProducer at stepped
  split at stepped
  · rename_i sample entered
    have inside : (state.recorders thread).InCall := by rw [entered]; trivial
    split at stepped
    · rename_i registered
      obtain rfl := Option.some.inj stepped
      exact sound.move entered (fun same => by cases same) (fun same => by cases same)
        (fun same => by cases same) (fun _ _ => registered) (sound.started inside).1
    · rename_i unregistered
      split at stepped
      · cases stepped
      · rename_i free
        obtain rfl := Option.some.inj stepped
        exact sound.register entered free unregistered
  · cases stepped

/-- A sample enters its thread's queue. -/
theorem pushed {sample : Sample} (was : state.recorders thread = .pushing sample) :
    Sound registry { state.move thread .ready with
      queue := Function.update state.queue thread (state.queue thread ++ [sample])
      pushed := Function.update state.pushed thread (state.pushed thread ++ [sample]) } := by
  have inside : (state.recorders thread).InCall := by rw [was]; trivial
  have running := sound.started inside
  have live : ¬ state.retired thread = true := sound.alive was fun same => by cases same
  refine ⟨fun other => ?_, ?_, sound.running, sound.stops, sound.idle, ?_⟩
  · by_cases same : other = thread
    · subst same
      have own := sound.threads other
      have listed := own.present (own.pushing sample was) (was ▸ fun same => by cases same)
      refine ⟨?_, fun missing => absurd listed missing, fun _ _ => listed,
        fun retired => absurd retired live, fun _ pushing => ?_, fun _ => running.1⟩
      · dsimp only
        rw [Function.update_self, Function.update_self, ← List.append_assoc, ← List.append_assoc]
        exact congrArg (· ++ [sample]) own.balanced
      · exact own.pushing sample was
    · refine (sound.threads other).of_leaves ?_ rfl
      exact ⟨Function.update_of_ne same _ _, Function.update_of_ne same _ _, rfl, rfl,
        Function.update_of_ne same _ _, rfl, Iff.rfl⟩
  · exact sound.counted.of_same
      (refused_update was (fun same => by cases same) (fun same => by cases same)) rfl rfl
  · apply sound.place.of_undisturbed rfl
    refine ⟨id, fun _ => rfl, fun _ => id, fun other kept => ?_, rfl, rfl, fun _ => rfl⟩
    have different : other ≠ thread := by
      rintro rfl
      rcases kept with retired | stopped
      · exact live retired
      · exact running.2 stopped
    exact Function.update_of_ne different _ _

/-- A sample finds its queue full. -/
theorem refused {sample : Sample} (was : state.recorders thread = .pushing sample) :
    Sound registry { state.move thread .refused with failures := state.failures + 1 } := by
  have inside : (state.recorders thread).InCall := by rw [was]; trivial
  have running := sound.started inside
  refine ⟨fun other => ?_, ?_, sound.running, sound.stops, fun idle => ?_, ?_⟩
  · by_cases same : other = thread
    · subst same
      have own := sound.threads other
      refine ⟨own.balanced, own.absent, fun registered _ => ?_, fun retired => ?_,
        fun _ pushing => ?_, fun _ => running.1⟩
      · exact own.present registered (was ▸ fun same => by cases same)
      · exact absurd retired (sound.alive was fun same => by cases same)
      · exact own.pushing sample was
    · exact (sound.threads other).of_leaves
        ⟨Function.update_of_ne same _ _, rfl, rfl, rfl, rfl, rfl, Iff.rfl⟩ rfl
  · obtain ⟨waiting, count, members, sum, value⟩ := sound.counted
    have outside : thread ∉ waiting := by
      rw [members, was]
      exact fun same => by cases same
    refine ⟨insert thread waiting, count, fun other => ?_, ?_, value⟩
    · rw [Finset.mem_insert, members]
      by_cases same : other = thread
      · subst same
        exact iff_of_true (.inl rfl) (Function.update_self ..)
      · dsimp only [Aggregator.move]
        rw [or_iff_right same, Function.update_of_ne same]
    · dsimp only
      rw [Finset.card_insert_of_notMem outside, sum, Nat.add_assoc]
  · have started := running.1
    dsimp only [Aggregator.move] at idle
    rw [idle] at started
    cases started
  · apply sound.place.of_undisturbed rfl
    exact ⟨id, fun _ => rfl, fun _ => id, fun _ _ => rfl, rfl, rfl,
      fun stopped => absurd stopped running.2⟩

/-- A thread pushes its sample. -/
theorem push (stepped : state.push capacity thread = some next) : Sound registry next := by
  unfold Aggregator.push at stepped
  split at stepped
  · rename_i sample pushing
    split at stepped
    · obtain rfl := Option.some.inj stepped
      exact sound.pushed pushing
    · obtain rfl := Option.some.inj stepped
      exact sound.refused pushing
  · cases stepped

/-- A sample that found its queue full is counted. -/
theorem count (stepped : state.count thread = some next) : Sound registry next := by
  unfold Aggregator.count at stepped
  split at stepped
  · rename_i was
    obtain rfl := Option.some.inj stepped
    have inside : (state.recorders thread).InCall := by rw [was]; trivial
    have running := sound.started inside
    refine ⟨fun other => ?_, ?_, sound.running, sound.stops, sound.idle, ?_⟩
    · by_cases same : other = thread
      · subst same
        have own := sound.threads other
        refine ⟨own.balanced, own.absent, fun registered _ => ?_, fun retired => ?_,
          fun _ pushing => ?_, fun _ => running.1⟩
        · exact own.present registered (was ▸ fun same => by cases same)
        · exact absurd retired (sound.alive was fun same => by cases same)
        · have ready : Recorder.ready = .pushing _ := (Function.update_self ..).symm.trans pushing
          cases ready
      · exact (sound.threads other).of_leaves
          ⟨Function.update_of_ne same _ _, rfl, rfl, rfl, rfl, rfl, Iff.rfl⟩ rfl
    · obtain ⟨waiting, counted, members, sum, value⟩ := sound.counted
      have waits : thread ∈ waiting := (members thread).mpr was
      refine ⟨waiting.erase thread, counted + 1, fun other => ?_, ?_, ?_⟩
      · rw [Finset.mem_erase, members]
        dsimp only [Aggregator.move]
        by_cases same : other = thread
        · subst same
          rw [Function.update_self]
          exact iff_of_false (fun both => both.1 rfl) (fun same => by cases same)
        · rw [Function.update_of_ne same, and_iff_right same]
      · have positive := Finset.card_pos.mpr ⟨thread, waits⟩
        have fewer := Finset.card_erase_of_mem waits
        dsimp only [Aggregator.move]
        omega
      · dsimp only
        rw [value, UInt64.ofNat_add]
        rfl
    · apply sound.place.of_undisturbed rfl
      exact ⟨id, fun _ => rfl, fun _ => id, fun _ _ => rfl, rfl, rfl, fun _ => rfl⟩
  · cases stepped

/-- A thread exits. -/
theorem exit (stepped : state.exit thread = some next) : Sound registry next := by
  unfold Aggregator.exit at stepped
  split at stepped
  · rename_i was
    obtain rfl := Option.some.inj stepped
    refine ⟨fun other => ?_, ?_, sound.running, sound.stops, sound.idle, ?_⟩
    · by_cases same : other = thread
      · subst same
        have own := sound.threads other
        have exited : (state.move other .exited).recorders other = .exited :=
          Function.update_self ..
        refine ⟨own.balanced, own.absent, fun _ alive => absurd exited alive, fun _ => exited,
          fun _ pushing => ?_, fun inside => ?_⟩
        · cases exited.symm.trans pushing
        · dsimp only at inside
          rw [exited] at inside
          exact inside.elim
      · refine (sound.threads other).of_leaves ?_ rfl
        exact ⟨Function.update_of_ne same _ _, rfl, rfl, Function.update_of_ne same _ _, rfl, rfl,
          Iff.rfl⟩
    · exact sound.counted.of_same
        (refused_update was (fun same => by cases same) (fun same => by cases same)) rfl rfl
    · apply sound.place.of_undisturbed rfl
      refine ⟨id, fun _ => rfl, fun other retired => ?_, fun _ _ => rfl, rfl, rfl, fun _ => rfl⟩
      have different : other ≠ thread := by
        rintro rfl
        exact sound.alive was (fun same => by cases same) retired
      exact (Function.update_of_ne different _ _).trans retired
  · cases stepped

end Sound

end Recorders

/-! ## The steps of the writer -/

namespace Sound

variable (sound : Sound registry state)
include sound

/-- The writer goes on without touching what the threads have. -/
theorem goes (writer : Writer Thread) (place : At { state with writer := writer } writer) :
    Sound registry { state with writer := writer } := by
  refine ⟨fun thread => ?_, sound.counted, sound.running, sound.stops, sound.idle, place⟩
  exact (sound.threads thread).of_leaves ⟨rfl, rfl, rfl, rfl, rfl, rfl, Iff.rfl⟩ rfl

/-- Nothing is queued by threads that the writer has decided on or that have no producer. -/
theorem emptied {kept : List Thread} (decided : state.Decided [] kept)
    (empty : ∀ thread ∈ kept, state.queue thread = []) (thread : Thread) :
    state.queue thread = [] := by
  by_cases listed : thread ∈ state.producers
  · rcases decided thread listed with none | member | ⟨_, nothing⟩
    · cases none
    · exact empty thread member
    · exact nothing
  · exact (sound.threads thread).absent listed

/-- The pass is over: what was not kept is erased. -/
theorem erase {stopping : Bool} {kept : List Thread}
    (place : state.writer = .deciding stopping [] kept) :
    Sound registry { state with writer := .writing stopping, producers := kept } := by
  have at_place := sound.place
  rw [place] at at_place
  obtain ⟨decided, empty⟩ := at_place
  refine ⟨fun thread => ?_, sound.counted, sound.running, sound.stops, sound.idle, ?_⟩
  · have own := sound.threads thread
    refine ⟨own.balanced, fun missing => ?_, fun registered alive => ?_, own.retired, own.pushing,
      own.quiet⟩
    · by_cases listed : thread ∈ state.producers
      · rcases decided thread listed with none | member | ⟨_, nothing⟩
        · cases none
        · exact absurd member missing
        · exact nothing
      · exact own.absent listed
    · rcases decided thread (own.present registered alive) with none | member | ⟨retired, _⟩
      · cases none
      · exact member
      · exact absurd (own.retired retired) alive
  · exact fun last => ⟨(empty last).1, sound.emptied decided (empty last).2⟩

/-- The samples that were seen leave their queue. -/
theorem consume {stopping retired : Bool} {thread : Thread} {count : Nat}
    {todo kept : List Thread}
    (place : state.writer = .consuming stopping retired thread count todo kept) :
    Sound registry { state with
      writer := .deciding stopping todo (if retired then kept else kept ++ [thread])
      queue := Function.update state.queue thread ((state.queue thread).drop count)
      buffer := state.buffer ++ ((state.queue thread).take count).map fun sample =>
        (thread, sample) } := by
  have at_place := sound.place
  rw [place] at at_place
  obtain ⟨decided, empty, gone, whole⟩ := at_place
  have still : ∀ other, state.queue other = [] →
      Function.update state.queue thread ((state.queue thread).drop count) other = [] := by
    intro other nothing
    by_cases same : other = thread
    · subst same
      rw [Function.update_self, nothing, List.drop_nil]
    · rw [Function.update_of_ne same, nothing]
  refine ⟨fun other => ?_, sound.counted, sound.running, sound.stops, sound.idle, ?_, ?_⟩
  · have own := sound.threads other
    refine ⟨?_, fun missing => still other (own.absent missing), own.present, own.retired,
      own.pushing, own.quiet⟩
    dsimp only
    rw [← own.balanced, ← List.append_assoc, samplesOf_append]
    by_cases same : other = thread
    · subst same
      rw [samplesOf_own, Function.update_self, List.append_assoc, List.take_append_drop]
    · rw [samplesOf_other (Ne.symm same), Function.update_of_ne same, List.append_nil]
  · intro other listed
    rcases decided other listed with left | member | ⟨retired_other, nothing⟩
    · rcases List.mem_cons.mp left with rfl | later
      · cases retired with
        | false => exact .inr (.inl (List.mem_append_right _ (List.mem_singleton_self _)))
        | true =>
            refine .inr (.inr ⟨gone rfl, ?_⟩)
            exact (Function.update_self ..).trans (whole (.inl rfl))
      · exact .inl later
    · refine .inr (.inl ?_)
      split
      · exact member
      · exact List.mem_append_left _ member
    · exact .inr (.inr ⟨retired_other, still other nothing⟩)
  · intro last
    obtain ⟨stopped, nothing⟩ := empty last
    refine ⟨stopped, fun other member => ?_⟩
    have drained : Function.update state.queue thread ((state.queue thread).drop count) thread =
        [] :=
      (Function.update_self ..).trans (whole (.inr last))
    split at member
    · exact still other (nothing other member)
    · rcases List.mem_append.mp member with earlier | itself
      · exact still other (nothing other earlier)
      · rw [List.mem_singleton.mp itself]
        exact drained

/-- What was found is written. -/
theorem flush {stopping : Bool} (place : state.writer = .writing stopping) :
    Sound registry { state with
      writer := if stopping then .closing else .asking
      file := state.file ++ state.buffer
      buffer := [] } := by
  have at_place := sound.place
  rw [place] at at_place
  refine ⟨fun thread => ?_, sound.counted, sound.running, sound.stops, sound.idle, ?_⟩
  · refine (sound.threads thread).of_leaves ?_ rfl
    exact ⟨rfl, rfl, rfl, rfl, rfl, List.append_nil _, Iff.rfl⟩
  · cases stopping with
    | false => trivial
    | true =>
        obtain ⟨stopped, nothing⟩ := at_place rfl
        exact ⟨stopped, nothing, rfl⟩

/-- The count of the dropped samples is complete by the time it is written. -/
theorem close (place : state.writer = .closing) :
    Sound registry { state with writer := .finished, closing := some state.dropped } := by
  have at_place := sound.place
  rw [place] at at_place
  refine ⟨fun thread => ?_, sound.counted, sound.running, sound.stops, sound.idle, at_place, ?_⟩
  · exact (sound.threads thread).of_leaves ⟨rfl, rfl, rfl, rfl, rfl, rfl, Iff.rfl⟩ rfl
  · obtain ⟨waiting, counted, members, sum, value⟩ := sound.counted
    have nobody : waiting = ∅ := by
      apply Finset.eq_empty_of_forall_notMem
      intro thread member
      have inside : (state.recorders thread).InCall := by rw [(members thread).mp member]; trivial
      exact (sound.started inside).2 at_place.1
    dsimp only
    rw [value, sum, nobody, Finset.card_empty, Nat.add_zero]

/-- The writer takes its next step. -/
theorem write (stepped : state.write = some next) : Sound registry next := by
  have place := sound.place
  unfold Aggregator.write at stepped
  split at stepped
  · obtain rfl := Option.some.inj stepped
    exact sound.goes _ id
  · rename_i stopping was
    rw [was] at place
    obtain rfl := Option.some.inj stepped
    refine sound.goes _ ⟨fun thread listed => .inl listed, fun last => ⟨place last, ?_⟩⟩
    exact fun _ member => (List.not_mem_nil member).elim
  · rename_i was
    obtain rfl := Option.some.inj stepped
    exact sound.erase was
  · rename_i was
    rw [was] at place
    obtain rfl := Option.some.inj stepped
    exact sound.goes _ ⟨place.1, place.2, id⟩
  · rename_i was
    rw [was] at place
    obtain ⟨decided, empty, gone⟩ := place
    obtain rfl := Option.some.inj stepped
    exact sound.goes _ ⟨decided, empty, gone, fun _ => List.drop_length ..⟩
  · rename_i was
    obtain rfl := Option.some.inj stepped
    exact sound.consume was
  · rename_i was
    obtain rfl := Option.some.inj stepped
    exact sound.flush was
  · rename_i was
    obtain rfl := Option.some.inj stepped
    exact sound.close was
  · cases stepped
  · cases stepped

end Sound

/-! ## Starting and stopping -/

namespace Sound

variable (sound : Sound registry state)
include sound

/-- Only while samples are recorded is a thread in a call. -/
theorem calm {caller : Caller} (elsewhere : state.caller = caller) (other : caller ≠ .started)
    (thread : Thread) : ¬ (state.recorders thread).InCall :=
  fun inside => other (elsewhere.symm.trans ((sound.threads thread).quiet inside))

/-- The recording is turned on or off, or the writer asked to stop. -/
theorem turn {caller : Caller} {running stopRequested : Bool}
    (calm : caller ≠ .started → ∀ thread, ¬ (state.recorders thread).InCall)
    (runs : running = true → caller = .started)
    (kept : state.stopRequested = true → stopRequested = true)
    (stops : stopRequested = true → caller = .joining ∨ caller = .stopped)
    (under_way : caller ≠ .idle) :
    Sound registry { state with
      caller := caller, running := running, stopRequested := stopRequested } := by
  refine ⟨fun thread => ?_, sound.counted, runs, stops, fun idle => absurd idle under_way, ?_⟩
  · have own := sound.threads thread
    refine ⟨own.balanced, own.absent, own.present, own.retired, own.pushing, fun inside => ?_⟩
    by_contra elsewhere
    exact calm elsewhere thread inside
  · apply sound.place.of_undisturbed rfl
    exact ⟨kept, fun _ => rfl, fun _ => id, fun _ _ => rfl, rfl, rfl, fun _ => rfl⟩

/-- There is no stop before `Stop`. -/
theorem unstopped {caller : Caller} (was : state.caller = caller) (not_joining : caller ≠ .joining)
    (not_stopped : caller ≠ .stopped) : ¬ state.stopRequested = true := by
  intro stopped
  rcases sound.stops stopped with joining | finished
  · exact not_joining (was.symm.trans joining)
  · exact not_stopped (was.symm.trans finished)

/-- The writer is started. -/
theorem launch (was : state.caller = .idle) :
    Sound registry { state with caller := .launched, writer := .asking, dropped := 0 } := by
  have unstopped := sound.unstopped was (fun same => by cases same) (fun same => by cases same)
  refine ⟨fun thread => ?_, ?_, fun running => ?_, fun stopped => absurd stopped unstopped,
    (fun idle => by cases idle), trivial⟩
  · have own := sound.threads thread
    refine ⟨own.balanced, own.absent, own.present, own.retired, own.pushing, fun inside => ?_⟩
    exact absurd inside (sound.calm was (fun same => by cases same) thread)
  · obtain ⟨waiting, counted, members, sum, _⟩ := sound.counted
    have none := sound.idle was
    refine ⟨waiting, counted, members, sum, ?_⟩
    rw [show counted = 0 by omega]
    rfl
  · cases was.symm.trans (sound.running running)

/-- Every step keeps what holds, if no call of `Record` is under way as `Stop` begins. -/
theorem step {action : Action Thread} (calm : state.Calm action)
    (stepped : state.step capacity action = some next) : Sound registry next := by
  cases action with
  | record thread sample => exact sound.record stepped
  | localProducer thread => exact sound.localProducer stepped
  | push thread => exact sound.push stepped
  | count thread => exact sound.count stepped
  | exit thread => exact sound.exit stepped
  | writer => exact sound.write stepped
  | launch =>
      simp only [Aggregator.step] at stepped
      split at stepped
      · rename_i was
        obtain rfl := Option.some.inj stepped
        exact sound.launch was
      · cases stepped
  | enable =>
      simp only [Aggregator.step] at stepped
      split at stepped
      · rename_i was
        obtain rfl := Option.some.inj stepped
        have unstopped := sound.unstopped was (fun same => by cases same) (fun same => by cases same)
        exact sound.turn (fun elsewhere => absurd rfl elsewhere) (fun _ => rfl) id
          (fun stopped => absurd stopped unstopped) (fun same => by cases same)
      · cases stepped
  | disable =>
      simp only [Aggregator.step] at stepped
      split at stepped
      · rename_i was
        obtain rfl := Option.some.inj stepped
        have unstopped := sound.unstopped was (fun same => by cases same) (fun same => by cases same)
        exact sound.turn (fun _ => calm) (fun running => by cases running) id
          (fun stopped => absurd stopped unstopped) (fun same => by cases same)
      · cases stepped
  | requestStop =>
      simp only [Aggregator.step] at stepped
      split at stepped
      · rename_i was
        obtain rfl := Option.some.inj stepped
        refine sound.turn (fun _ => sound.calm was fun same => by cases same) (fun running => ?_)
          (fun _ => rfl) (fun _ => .inl rfl) (fun same => by cases same)
        cases was.symm.trans (sound.running running)
      · cases stepped
  | join =>
      simp only [Aggregator.step] at stepped
      split at stepped
      · rename_i was _
        obtain rfl := Option.some.inj stepped
        refine sound.turn (fun _ => sound.calm was fun same => by cases same) (fun running => ?_) id
          (fun _ => .inr rfl) (fun same => by cases same)
        cases was.symm.trans (sound.running running)
      · cases stepped

end Sound

/-- **Every sample is accounted for.** In every run in which no call of `Record` is under way
as `Stop` begins, a thread whose producer is not in the registry has nothing queued; and once
the writer has finished, the file holds, thread by thread, what was queued at the start and
what was pushed since, and closes with the number of pushes that found their queue full. -/
theorem samples_accounted {actions : List (Action Thread)}
    (calm : (system capacity registry).Throughout Calm actions)
    (reached : (system capacity registry).run actions = some state) :
    (∀ thread, thread ∉ state.producers → state.queue thread = []) ∧
      (state.writer = .finished →
        (∀ thread, samplesOf thread state.file =
          registry.queue thread ++ state.pushed thread) ∧
        state.lines = state.file.map (fun entry => entry.2.line) ++
          ["# dropped " ++ toString (UInt64.ofNat state.failures)]) := by
  have sound : Sound registry state :=
    calm.invariant (sound_init registry) (fun _ _ _ calm sound stepped => sound.step calm stepped)
      reached
  refine ⟨fun thread => (sound.threads thread).absent, fun finished => ?_⟩
  have place := sound.place
  rw [finished] at place
  obtain ⟨⟨_, empty, written⟩, closing⟩ := place
  refine ⟨fun thread => ?_, ?_⟩
  · have balanced := (sound.threads thread).balanced
    rwa [written, empty thread, List.append_nil, List.append_nil] at balanced
  · unfold lines
    rw [closing]
    rfl

/-! ## The writer's end -/

section Finishing

variable {goal : Aggregator Thread → Prop}

/-- A step of the writer's on the way. -/
theorem leads_write (wrote : state.write = some next)
    (later : (system capacity registry).Leads (· = .writer) next goal) :
    (system capacity registry).Leads (· = .writer) state goal :=
  .after (show (system capacity registry).step state .writer = some next from wrote) rfl later

/-- A pass comes to its end, one producer after another. -/
theorem leads_pass {stopping : Bool}
    (written : ∀ state : Aggregator Thread, state.writer = .writing stopping →
      state.stopRequested = true → (system capacity registry).Leads (· = .writer) state goal)
    {todo : List Thread} :
    ∀ {state : Aggregator Thread} {kept : List Thread},
      state.writer = .deciding stopping todo kept → state.stopRequested = true →
        (system capacity registry).Leads (· = .writer) state goal := by
  induction todo with
  | nil =>
      intro state kept was stopped
      refine leads_write (by simp only [Aggregator.write, was]; rfl) ?_
      exact written _ rfl stopped
  | cons thread todo ih =>
      intro state kept was stopped
      refine leads_write (by simp only [Aggregator.write, was]; rfl) ?_
      refine leads_write rfl (leads_write rfl ?_)
      exact ih rfl stopped

/-- A pass that begins after the stop is the last one. -/
theorem leads_last (finished : ∀ state : Aggregator Thread, state.writer = .finished → goal state)
    (was : state.writer = .asking) (stopped : state.stopRequested = true) :
    (system capacity registry).Leads (· = .writer) state goal := by
  refine leads_write (by simp only [Aggregator.write, was]; rfl) ?_
  rw [stopped]
  refine leads_write rfl (leads_pass ?_ rfl rfl)
  intro state was _
  refine leads_write (by simp only [Aggregator.write, was]; rfl) ?_
  exact leads_write rfl (.here (finished _ rfl))

/-- The rest of a pass, and the last one if it is another. -/
theorem leads_rest {stopping : Bool}
    (finished : ∀ state : Aggregator Thread, state.writer = .finished → goal state)
    (was : state.writer = .writing stopping) (stopped : state.stopRequested = true) :
    (system capacity registry).Leads (· = .writer) state goal := by
  refine leads_write (by simp only [Aggregator.write, was]; rfl) ?_
  cases stopping with
  | true => exact leads_write rfl (.here (finished _ rfl))
  | false => exact leads_last finished rfl stopped

/-- **The stop does not wait forever.** Wherever the writer is when its stop is requested, its
own steps lead to its end. -/
theorem writer_finishes (there : state.writer ≠ .absent) (stopped : state.stopRequested = true) :
    (system capacity registry).Leads (· = .writer) state fun final => final.writer = .finished := by
  have rest : ∀ (stopping : Bool) (state : Aggregator Thread), state.writer = .writing stopping →
      state.stopRequested = true → (system capacity registry).Leads (· = .writer) state
        fun final => final.writer = .finished :=
    fun _ _ was stopped => leads_rest (fun _ => id) was stopped
  cases was : state.writer with
  | absent => exact absurd was there
  | asking => exact leads_last (fun _ => id) was stopped
  | locking stopping =>
      refine leads_write (by simp only [Aggregator.write, was]; rfl) ?_
      exact leads_pass (rest stopping) rfl stopped
  | deciding stopping todo kept => exact leads_pass (rest stopping) was stopped
  | looking stopping retired thread todo kept =>
      refine leads_write (by simp only [Aggregator.write, was]; rfl) (leads_write rfl ?_)
      exact leads_pass (rest stopping) rfl stopped
  | consuming stopping retired thread count todo kept =>
      refine leads_write (by simp only [Aggregator.write, was]; rfl) ?_
      exact leads_pass (rest stopping) rfl stopped
  | writing stopping => exact rest stopping state was stopped
  | closing =>
      refine leads_write (by simp only [Aggregator.write, was]; rfl) ?_
      exact .here rfl
  | finished => exact .here was

end Finishing

instance instDecidableCalm (state : Aggregator Bool) (action : Action Bool) :
    Decidable (state.Calm action) :=
  match action with
  | .disable => inferInstanceAs (Decidable (∀ thread, ¬ (state.recorders thread).InCall))
  | .record _ _ | .localProducer _ | .push _ | .count _ | .exit _ | .writer | .launch | .enable
  | .requestStop | .join => .isTrue trivial

/-- A thread that exits in the middle of a pass, and one whose second sample finds its queue
of one full. -/
def exitingRun : List (Action Bool) :=
  [.launch, .enable, .record true ⟨.exchangeToParseStart, 10⟩, .localProducer true,
    .writer, .writer, .record false ⟨.receiveToParseComplete, 20⟩, .writer, .push true, .exit true,
    .writer, .writer, .writer, .writer, .localProducer false, .push false,
    .record false ⟨.receiveToParseComplete, 30⟩, .localProducer false, .push false, .count false,
    .disable, .requestStop] ++ List.replicate 11 .writer ++ [.join]

/-- Both samples that were pushed are in the file. -/
theorem samples_accounted_exiting :
    ∃ state, (system 1 (Registry.empty Bool)).run exitingRun = some state ∧
      state.lines = ["exchange_to_parse_start 10", "receive_to_parse_complete 20", "# dropped 1"] ∧
      (∀ thread, thread ∉ state.producers → state.queue thread = []) ∧
      ∀ thread, samplesOf thread state.file = state.pushed thread := by
  have runs : ((system 1 (Registry.empty Bool)).run exitingRun).any (fun state =>
      decide (state.writer = .finished) && (state.lines == ["exchange_to_parse_start 10",
        "receive_to_parse_complete 20", "# dropped 1"])) = true := by
    decide +kernel
  have calm : (system 1 (Registry.empty Bool)).Throughout Calm exitingRun := by
    apply System.Throughout.of_indices
    decide +kernel
  obtain ⟨state, reached, seen⟩ := (Option.any_eq_true _ _).mp runs
  obtain ⟨finished, lines⟩ := Bool.and_eq_true_iff.mp seen
  have accounted := samples_accounted calm reached
  exact ⟨state, reached, beq_iff_eq.mp lines, accounted.1,
    (accounted.2 (of_decide_eq_true finished)).1⟩

end DataFeed.Timing.Aggregator
