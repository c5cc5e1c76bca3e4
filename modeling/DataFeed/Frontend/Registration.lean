import DataFeed.Frontend.Watching

/-! # Which streams hold a session

Where a command strand stands says which streams hold its session: the one that is
watched, and while a watch takes its place the one before as well.
-/

namespace DataFeed.Frontend

open Foundation L2 Venue DataFeed.Core

namespace Watching

namespace Viewer

/-- The ids under which a session is held, as its command strand has it. -/
def supposed (client : Viewer) : List SubscriptionId :=
  match client.phase with
  | .idle | .other | .watch _ | .add _ _ | .refuse _ => [client.watchedId]
  | .watched id => [client.watchedId, id]
  | .unwatch id within => id :: within.toList
  | .remove id _ within => id :: within.toList
  | .assign id => [id]

/-- What a strand can rely on where it stands. -/
def Sound (client : Viewer) (streams : Streams) : Prop :=
  match client.phase with
  | .add id stream => streams.idOf stream = some id
  | .unwatch id within => within ≠ some id ∧ (within = none → client.watchedId = 0)
  | .remove id stream within =>
      streams.idOf stream = some id ∧ within ≠ some id ∧ (within = none → client.watchedId = 0)
  | _ => True

/-- The registered streams hold a session under exactly the ids its strand supposes. -/
structure Placed (client : Viewer) (session : WatcherId) (streams : Streams) : Prop where
  exact : ∀ id stream, streams.outbox.find? id = some stream →
    (session ∈ streams.watchersOf stream ↔ id ∈ client.supposed)
  known : ∀ id ∈ client.supposed, id = 0 ∨ ∃ stream, streams.idOf stream = some id
  sound : client.Sound streams

/-- A session that watches nothing, or that is about to be taken off the last stream. -/
def Unwatching (client : Viewer) : Prop :=
  client.watchedId = 0 ∧
    match client.phase with
    | .idle | .unwatch _ none | .remove _ _ none => True
    | _ => False

/-- A closed connection's strand has an order to forget it ahead, or is done with it. -/
def Leaving (client : Viewer) : Prop :=
  client.closed = true →
    client.tasks.getLast? = some .forget ∨ client.tasks = [] ∧ client.Unwatching

variable {client : Viewer} {session : WatcherId} {streams next : Streams}

/-- A strand's next step within a command, by where it stands. -/
inductive Advance (client : Viewer) (find : SubscriptionId → Option StreamRef) :
    Phase → Viewer → Prop where
  | other : Advance client find .other { client with phase := .idle }
  | found (id : SubscriptionId) (stream : StreamRef) (found : find id = some stream) :
      Advance client find (.watch id) { client with phase := .add id stream }
  | missing (id : SubscriptionId) (missing : find id = none) :
      Advance client find (.watch id) { client with phase := .refuse id }
  | add (id : SubscriptionId) (stream : StreamRef) :
      Advance client find (.add id stream) { client with phase := .watched id }
  | another (id : SubscriptionId) (another : client.watchedId ≠ id) :
      Advance client find (.watched id)
        { client with phase := .unwatch client.watchedId (some id) }
  | alone (id : SubscriptionId) (alone : client.watchedId = 0 ∨ client.watchedId = id) :
      Advance client find (.watched id) { client with phase := .assign id }
  | leave (id : SubscriptionId) (stream : StreamRef) (within : Option SubscriptionId)
      (found : find id = some stream) :
      Advance client find (.unwatch id within) { client with phase := .remove id stream within }
  | gone (id : SubscriptionId) (within : Option SubscriptionId) (missing : find id = none) :
      Advance client find (.unwatch id within) (client.afterUnwatch within)
  | remove (id : SubscriptionId) (stream : StreamRef) (within : Option SubscriptionId) :
      Advance client find (.remove id stream within) (client.afterUnwatch within)
  | assign (id : SubscriptionId) :
      Advance client find (.assign id) { client with watchedId := id, phase := .idle }

/-- A session advances in one of the ways `Advance` lists, and in no other. -/
theorem advance_cases {find : SubscriptionId → Option StreamRef} {after : Viewer}
    (advanced : client.advance find = some after) : Advance client find client.phase after := by
  unfold Viewer.advance at advanced
  split at advanced
  · exact (Option.some_ne_none _ advanced.symm).elim
  · exact (Option.some_ne_none _ advanced.symm).elim
  · rename_i phase
    obtain rfl := Option.some.inj advanced
    exact phase ▸ .other
  · rename_i id phase
    rw [phase]
    split at advanced
    · rename_i stream found
      obtain rfl := Option.some.inj advanced
      exact .found id stream found
    · rename_i missing
      obtain rfl := Option.some.inj advanced
      exact .missing id missing
  · rename_i id stream phase
    obtain rfl := Option.some.inj advanced
    exact phase ▸ .add id stream
  · rename_i id phase
    rw [phase]
    split at advanced
    · rename_i another
      obtain rfl := Option.some.inj advanced
      exact .another id another.2
    · rename_i alone
      obtain rfl := Option.some.inj advanced
      refine .alone id ?_
      by_cases zero : client.watchedId = 0
      · exact .inl zero
      · exact .inr (Decidable.byContradiction fun other => alone ⟨zero, other⟩)
  · rename_i id within phase
    rw [phase]
    split at advanced
    · rename_i stream found
      obtain rfl := Option.some.inj advanced
      exact .leave id stream within found
    · rename_i missing
      obtain rfl := Option.some.inj advanced
      exact .gone id within missing
  · rename_i id stream within phase
    obtain rfl := Option.some.inj advanced
    exact phase ▸ .remove id stream within
  · rename_i id phase
    obtain rfl := Option.some.inj advanced
    exact phase ▸ .assign id

/-- What others do to the streams keeps the registration sound. -/
theorem Sound.undisturbed (sound : client.Sound streams)
    (undisturbed : streams.Undisturbed session next) : client.Sound next := by
  unfold Sound at sound ⊢
  cases phase : client.phase with
  | add id stream =>
      rw [phase] at sound
      exact undisturbed.named stream id sound
  | remove id stream within =>
      rw [phase] at sound
      exact ⟨undisturbed.named stream id sound.1, sound.2⟩
  | unwatch id within =>
      rw [phase] at sound
      exact sound
  | idle | other | watch _ | refuse _ | watched _ | assign _ => trivial

namespace Placed

/-- What others do to the streams keeps the session placed. -/
theorem undisturbed (placed : client.Placed session streams)
    (undisturbed : streams.Undisturbed session next) : client.Placed session next := by
  refine ⟨?_, ?_, placed.sound.undisturbed undisturbed⟩
  · intro id stream found
    rw [undisturbed.watching]
    obtain before | ⟨nonzero, unused, unbuilt⟩ := undisturbed.found id stream found
    · exact placed.exact id stream before
    · rw [Streams.watchersOf_eq_nil unbuilt]
      refine ⟨fun member => (List.not_mem_nil member).elim, fun member => ?_⟩
      obtain zero | ⟨other, named⟩ := placed.known id member
      · exact (nonzero zero).elim
      · exact (unused other named).elim
  · intro query member
    exact (placed.known query member).imp id fun ⟨stream, named⟩ =>
      ⟨stream, undisturbed.named stream query named⟩

/-- A strand that stands where it can rely on nothing, and supposes as much as before. -/
theorem same (placed : client.Placed session streams) {after : Viewer}
    (supposed : after.supposed = client.supposed) (sound : after.Sound streams) :
    after.Placed session streams :=
  ⟨fun id stream found => supposed ▸ placed.exact id stream found, supposed ▸ placed.known, sound⟩

/-- The tasks of a strand say nothing about what is watched. -/
theorem queue (placed : client.Placed session streams) (closed : Bool) (tasks : List Task) :
    Placed { client with closed := closed, tasks := tasks } session streams :=
  placed.same rfl placed.sound

/-- A session that stops watching while idle is placed nowhere. -/
theorem unwatch (placed : client.Placed session streams) (idle : client.phase = .idle) :
    client.unwatch.Placed session streams := by
  have supposed : client.supposed = [client.watchedId] := by rw [Viewer.supposed, idle]
  unfold Viewer.unwatch
  split
  · exact placed.same (supposed.symm ▸ rfl) ⟨(Option.some_ne_none _).symm, fun _ => rfl⟩
  · exact placed.same (supposed.symm ▸ rfl) trivial

/-- A session that starts a task while idle stays placed. -/
theorem start (placed : client.Placed session streams) (idle : client.phase = .idle)
    (task : Task) : (client.start task).Placed session streams := by
  have supposed : client.supposed = [client.watchedId] := by rw [Viewer.supposed, idle]
  cases task with
  | watch id => exact placed.same (supposed.symm ▸ rfl) trivial
  | unwatch => exact placed.unwatch idle
  | other => exact placed.same (supposed.symm ▸ rfl) trivial
  | forget => exact placed.unwatch idle

/-- A session that takes up a command stays placed. -/
theorem begin {after : Viewer} (placed : client.Placed session streams)
    (began : client.begin = some after) : after.Placed session streams := by
  unfold Viewer.begin at began
  split at began
  · rename_i task rest idle queued
    obtain rfl := Option.some.inj began
    exact (placed.queue client.closed rest).start idle task
  · exact (Option.some_ne_none _ began.symm).elim

/-- What a strand supposes once a stream is gone that it was to unwatch. -/
theorem afterUnwatch {within : Option SubscriptionId}
    (idle : within = none → client.watchedId = 0)
    (exact : ∀ query stream, streams.outbox.find? query = some stream →
      (session ∈ streams.watchersOf stream ↔ query ∈ within.toList))
    (known : ∀ query ∈ within.toList, query = 0 ∨ ∃ stream, streams.idOf stream = some query)
    (named : ∀ stream, streams.outbox.find? 0 ≠ some stream) :
    (client.afterUnwatch within).Placed session streams := by
  cases within with
  | some next => exact ⟨exact, known, trivial⟩
  | none =>
      have zero := idle rfl
      refine ⟨?_, ?_, trivial⟩
      · intro query stream found
        rw [exact query stream found]
        refine ⟨fun member => (List.not_mem_nil member).elim, fun member => ?_⟩
        have same : query = client.watchedId := List.mem_singleton.mp member
        exact (named stream ((same.trans zero) ▸ found)).elim
      · intro query member
        have same : query = client.watchedId := List.mem_singleton.mp member
        exact .inl (same.trans zero)

/-- A session that is added to the stream of an id is held under that id too. -/
theorem add (numbered : streams.Numbered) {id : SubscriptionId}
    {stream : StreamRef}
    (placed : client.Placed session streams)
    (phase : client.phase = .add id stream) :
    Viewer.Placed { client with phase := .watched id } session
      (streams.call stream (.watch session)) := by
  have supposed : client.supposed = [client.watchedId] := by
    rw [Viewer.supposed, phase]
  have found : streams.idOf stream = some id := by
    have sound := placed.sound
    rwa [Viewer.Sound, phase] at sound
  refine ⟨?_, ?_, trivial⟩
  · intro query other registered
    have named := numbered.registered query other registered
    rw [Streams.mem_watchersOf_watch_iff (by rw [found]; rfl), placed.exact query other registered,
      supposed]
    constructor
    · intro either
      obtain same | earlier := either
      · have twin : query = id := Option.some.inj (named.symm.trans (same ▸ found))
        exact twin ▸ List.mem_cons_of_mem _ (List.mem_singleton_self _)
      · exact List.mem_singleton.mp earlier ▸ List.mem_cons_self
    · intro member
      obtain earlier | later := List.mem_cons.mp member
      · exact .inr (List.mem_singleton.mpr earlier)
      · have twin := List.mem_singleton.mp later
        exact .inl (numbered.once other stream query named (twin ▸ found))
  · intro query member
    obtain earlier | later := List.mem_cons.mp member
    · obtain zero | ⟨other, named⟩ := placed.known query (supposed ▸ List.mem_singleton.mpr earlier)
      · exact .inl zero
      · exact .inr ⟨other, (Streams.idOf_call _ _ _).trans named⟩
    · exact .inr ⟨stream, (Streams.idOf_call _ _ _).trans (List.mem_singleton.mp later ▸ found)⟩

/-- A session that is taken off the stream of an id is no longer held under it. -/
theorem remove (numbered : streams.Numbered) {id : SubscriptionId}
    {stream : StreamRef} {within : Option SubscriptionId}
    (placed : client.Placed session streams)
    (phase : client.phase = .remove id stream within) :
    (client.afterUnwatch within).Placed session
      (streams.call stream (.unwatch session)) := by
  have supposed : client.supposed = id :: within.toList := by
    rw [Viewer.supposed, phase]
  have sound := placed.sound
  rw [Viewer.Sound, phase] at sound
  obtain ⟨found, apart, idle⟩ := sound
  refine afterUnwatch idle ?_ ?_ ?_
  · intro query other registered
    have named := numbered.registered query other registered
    rw [Streams.mem_watchersOf_unwatch_iff, placed.exact query other registered, supposed,
      List.mem_cons]
    constructor
    · intro ⟨elsewhere, either⟩
      refine either.resolve_left fun same => elsewhere ?_
      exact numbered.once other stream query named (same ▸ found)
    · intro member
      refine ⟨fun same => apart ?_, .inr member⟩
      have twin : query = id := Option.some.inj (named.symm.trans (same ▸ found))
      exact Option.mem_toList.mp (twin ▸ member)
  · intro query member
    obtain zero | ⟨other, named⟩ := placed.known query (supposed ▸ List.mem_cons_of_mem _ member)
    · exact .inl zero
    · exact .inr ⟨other, (Streams.idOf_call _ _ _).trans named⟩
  · intro other registered
    exact numbered.named other (numbered.registered 0 other registered)

/-- A stream to unwatch that is registered no more holds nobody. -/
theorem gone (numbered : streams.Numbered) {id : SubscriptionId}
    {within : Option SubscriptionId}
    (placed : client.Placed session streams)
    (phase : client.phase = .unwatch id within)
    (missing : streams.outbox.find? id = none) :
    (client.afterUnwatch within).Placed session streams := by
  have supposed : client.supposed = id :: within.toList := by
    rw [Viewer.supposed, phase]
  have sound := placed.sound
  rw [Viewer.Sound, phase] at sound
  refine afterUnwatch sound.2 ?_ ?_ ?_
  · intro query other registered
    rw [placed.exact query other registered, supposed, List.mem_cons]
    refine ⟨fun either => either.resolve_left fun same => ?_, .inr⟩
    exact Option.some_ne_none _ (registered.symm.trans (same ▸ missing))
  · intro query member
    exact placed.known query (supposed ▸ List.mem_cons_of_mem _ member)
  · intro other registered
    exact numbered.named other (numbered.registered 0 other registered)

/-- A session that watches nothing else is held under one id. -/
theorem assign (numbered : streams.Numbered) {id : SubscriptionId}
    (placed : client.Placed session streams)
    (phase : client.phase = .watched id)
    (alone : client.watchedId = 0 ∨
      client.watchedId = id) :
    Viewer.Placed { client with phase := .assign id } session
      streams := by
  have supposed : client.supposed =
      [client.watchedId, id] := by
    rw [Viewer.supposed, phase]
  refine ⟨?_, ?_, trivial⟩
  · intro query other registered
    rw [placed.exact query other registered, supposed, List.mem_cons]
    refine ⟨fun either => either.elim (fun earlier => ?_) fun member => member, .inr⟩
    obtain zero | same := alone
    · have unnamed := numbered.registered query other registered
      exact (numbered.named other (earlier.trans zero ▸ unnamed)).elim
    · exact List.mem_singleton.mpr (earlier.trans same)
  · intro query member
    exact placed.known query (supposed ▸ List.mem_cons_of_mem _ member)

/-- A step within a command keeps the account exact. -/
theorem advance {after : Viewer} (numbered : streams.Numbered)
    (placed : client.Placed session streams)
    (advanced : client.advance streams.outbox.find? = some after) :
    after.Placed session (client.touch session streams) := by
  have step := advance_cases advanced
  have sound := placed.sound
  have supposed : client.supposed = client.supposed := rfl
  unfold Viewer.touch
  rw [Viewer.Sound] at sound
  conv_rhs at supposed => rw [Viewer.supposed]
  generalize phase : client.phase = stands at step sound supposed
  cases step with
  | other => exact placed.same supposed.symm trivial
  | found id stream found =>
      exact placed.same supposed.symm (numbered.registered id stream found)
  | missing id _ => exact placed.same supposed.symm trivial
  | add id stream => exact placed.add numbered phase
  | another id another =>
      refine placed.same supposed.symm ⟨?_, fun none => (Option.some_ne_none id none).elim⟩
      exact fun same => another (Option.some.inj same).symm
  | alone id alone => exact placed.assign numbered phase alone
  | leave id stream within found =>
      exact placed.same supposed.symm ⟨numbered.registered id stream found, sound⟩
  | gone id within missing => exact placed.gone numbered phase missing
  | remove id stream within => exact placed.remove numbered phase
  | assign id => exact placed.same supposed.symm trivial

/-- A session whose command is refused stays placed. -/
theorem refuse {after : Viewer} (placed : client.Placed session streams)
    (refused : client.refuse = some after) : after.Placed session streams := by
  unfold Viewer.refuse at refused
  split at refused
  · rename_i id phase
    obtain rfl := Option.some.inj refused
    refine placed.same ?_ trivial
    rw [Viewer.supposed, Viewer.supposed, phase]
  · exact (Option.some_ne_none _ refused.symm).elim

end Placed

/-- Unwatching leaves nothing watched. -/
theorem unwatch_unwatching (client : Viewer) : client.unwatch.Unwatching := by
  unfold Viewer.unwatch
  split
  · exact ⟨rfl, trivial⟩
  · rename_i zero
    exact ⟨Decidable.not_not.mp zero, trivial⟩

/-- Unwatching does not close the session. -/
@[simp] theorem closed_unwatch (client : Viewer) : client.unwatch.closed = client.closed := by
  unfold Viewer.unwatch
  split <;> rfl

/-- Unwatching leaves the session's tasks in line. -/
@[simp] theorem tasks_unwatch (client : Viewer) : client.unwatch.tasks = client.tasks := by
  unfold Viewer.unwatch
  split <;> rfl

/-- Starting a task neither closes the session nor takes tasks out of the line. -/
theorem start_keeps (client : Viewer) (task : Task) :
    (client.start task).closed = client.closed ∧ (client.start task).tasks = client.tasks := by
  cases task with
  | watch id => exact ⟨rfl, rfl⟩
  | other => exact ⟨rfl, rfl⟩
  | unwatch | forget => exact ⟨closed_unwatch client, tasks_unwatch client⟩

/-- What follows an unwatch neither closes the session nor takes tasks out of the line. -/
theorem afterUnwatch_keeps (client : Viewer) (within : Option SubscriptionId) :
    (client.afterUnwatch within).closed = client.closed ∧
      (client.afterUnwatch within).tasks = client.tasks := by
  cases within <;> exact ⟨rfl, rfl⟩

/-- What a step within a command does to the connection. -/
structure Advances (before after : Viewer) : Prop where
  keeps : after.closed = before.closed ∧ after.tasks = before.tasks
  unwatching : before.Unwatching → after.Unwatching
  undecided : (∃ id, after.phase = .watch id ∨ after.phase = .refuse id) →
    (∃ id, before.phase = .watch id) ∧ after.watchedId = before.watchedId

/-- Every advance brings the session's task nearer to its end. -/
theorem advance_advances {find : SubscriptionId → Option StreamRef} {after : Viewer}
    (advanced : client.advance find = some after) : Advances client after := by
  have step := advance_cases advanced
  have watching : ∀ phase, client.phase = phase → client.Unwatching →
      match phase with | .idle | .unwatch _ none | .remove _ _ none => True | _ => False :=
    fun _ phase unwatching => phase ▸ unwatching.2
  generalize phase : client.phase = stands at step
  cases step with
  | other | add _ _ | another _ _ | alone _ _ =>
      refine ⟨⟨rfl, rfl⟩, fun unwatching => (watching _ phase unwatching).elim, ?_⟩
      intro ⟨_, undecided⟩
      exact undecided.elim Phase.noConfusion Phase.noConfusion
  | assign id =>
      refine ⟨⟨rfl, rfl⟩, fun unwatching => (watching _ phase unwatching).elim, ?_⟩
      intro ⟨_, undecided⟩
      exact undecided.elim Phase.noConfusion Phase.noConfusion
  | found id _ _ | missing id _ =>
      exact ⟨⟨rfl, rfl⟩, fun unwatching => (watching _ phase unwatching).elim,
        fun _ => ⟨⟨id, phase⟩, rfl⟩⟩
  | leave id stream within _ =>
      refine ⟨⟨rfl, rfl⟩, ?_, ?_⟩
      · intro unwatching
        cases within with
        | none => exact ⟨unwatching.1, trivial⟩
        | some next => exact (watching _ phase unwatching).elim
      · intro ⟨_, undecided⟩
        exact undecided.elim Phase.noConfusion Phase.noConfusion
  | gone id within _ | remove id _ within =>
      refine ⟨afterUnwatch_keeps client within, ?_, ?_⟩
      · intro unwatching
        cases within with
        | none => exact ⟨unwatching.1, trivial⟩
        | some next => exact (watching _ phase unwatching).elim
      · intro ⟨_, undecided⟩
        cases within <;> exact undecided.elim Phase.noConfusion Phase.noConfusion

end Viewer

end Watching

end DataFeed.Frontend
