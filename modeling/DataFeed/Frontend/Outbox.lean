import Mathlib.Data.List.Nodup
import DataFeed.Foundation.FixedWidth
import DataFeed.Foundation.OrderedMap
import DataFeed.Frontend.Stream

/-! # Finding the live subscription a client wants to watch

A transmitter registers its stream under its subscription's id for as long as it
exists, and the server looks the stream up by the id a client names. A stream is
shared: who has found it may still call it when it is no longer registered, so the
outbox holds references into a heap of streams.
-/

namespace DataFeed.Frontend

open Foundation L2 Venue DataFeed.Core

/-- Where a stream lives. -/
abbrev StreamRef := Nat

/-- The streams that are registered, by id. -/
abbrev Outbox := OrderedMap SubscriptionId StreamRef (· < ·)

namespace Outbox

/-- Called by a transmitter as it is built. -/
def register (outbox : Outbox) (id : SubscriptionId) (stream : StreamRef) :
    Except String Outbox :=
  if (outbox.find? id).isSome then
    .error ("Live subscription " ++ toString id.toNat ++ " is already registered")
  else .ok (outbox.insert id stream)

/-- Called by a transmitter as it is destroyed. -/
def unregister (outbox : Outbox) (id : SubscriptionId) : Outbox := outbox.erase id

end Outbox

/-- The streams that were built, and the ones of them that are registered. -/
structure Streams where
  heap : List Stream
  outbox : Outbox

namespace Streams

/-- No stream was built yet. -/
def empty : Streams := ⟨[], .empty⟩

variable (streams : Streams)

/-- Who watches a stream. -/
def watchersOf (stream : StreamRef) : List WatcherId :=
  (streams.heap[stream]?.map Stream.watchers).getD []

/-- The id of a stream. -/
def idOf (stream : StreamRef) : Option SubscriptionId := streams.heap[stream]?.map Stream.id

/-- Builds a transmitter, which registers its stream. -/
def transmitter (id : SubscriptionId) (venue : String) (book : BookSpec)
    (precision : PairPrecision) : Except String Streams :=
  if sinkOf id ≠ some .live then
    .error ("Subscription " ++ toString id.toNat ++ " is not a live feed")
  else do
    let outbox ← streams.outbox.register id streams.heap.length
    pure ⟨streams.heap ++ [.new id venue book precision], outbox⟩

/-- Destroys a transmitter. -/
def destroy (id : SubscriptionId) : Streams :=
  { streams with outbox := streams.outbox.unregister id }

/-- Makes a call on a stream. -/
def call (stream : StreamRef) (made : Stream.Call) : Streams :=
  { streams with heap := streams.heap.modify stream fun called => (called.call made).1 }

variable {streams}

/-- When a transmitter's stream is registered, and what that does. -/
theorem transmitter_ok_iff {id : SubscriptionId} {venue : String} {book : BookSpec}
    {precision : PairPrecision} {next : Streams} :
    streams.transmitter id venue book precision = .ok next ↔
      sinkOf id = some .live ∧ streams.outbox.find? id = none ∧
        next = ⟨streams.heap ++ [.new id venue book precision],
          streams.outbox.insert id streams.heap.length⟩ := by
  unfold transmitter Outbox.register
  by_cases live : sinkOf id = some .live
  · cases found : streams.outbox.find? id with
    | none =>
        simp only [live, ne_eq, not_true_eq_false, ↓reduceIte, Option.isSome_none,
          Bool.false_eq_true, true_and]
        exact ⟨fun built => (Except.ok.inj built).symm, fun same => congrArg Except.ok same.symm⟩
    | some stream =>
        simp only [live, ne_eq, not_true_eq_false, ↓reduceIte, Option.isSome_some,
          reduceCtorEq, false_and, and_false, iff_false]
        intro built
        cases built
  · simp only [live, ne_eq, not_false_eq_true, ↓reduceIte, reduceCtorEq, false_and]

/-- A stream that is destroyed is no longer registered. -/
@[simp] theorem outbox_destroy (id : SubscriptionId) :
    (streams.destroy id).outbox = streams.outbox.erase id := rfl

/-- A call changes the stream that is called. -/
theorem heap_call (stream query : StreamRef) (made : Stream.Call) :
    (streams.call stream made).heap[query]? =
      streams.heap[query]?.map fun called =>
        if stream = query then (called.call made).1 else called :=
  List.getElem?_modify _ _ _ _

/-- A call leaves a stream its id. -/
theorem id_call (stream : Stream) (made : Stream.Call) : (stream.call made).1.id = stream.id := by
  cases made <;> rfl

/-- A call leaves every stream its id. -/
@[simp] theorem idOf_call (stream query : StreamRef) (made : Stream.Call) :
    (streams.call stream made).idOf query = streams.idOf query := by
  unfold idOf
  rw [heap_call, Option.map_map]
  congr 1
  funext called
  simp only [Function.comp_apply]
  split
  · exact id_call called made
  · rfl

/-- A call changes the watchers of the stream that is called. -/
theorem watchersOf_call (stream query : StreamRef) (made : Stream.Call) :
    (streams.call stream made).watchersOf query =
      if stream = query then
        (streams.heap[query]?.map fun called => (called.call made).1.watchers).getD []
      else streams.watchersOf query := by
  unfold watchersOf
  rw [heap_call, Option.map_map]
  split <;> rfl

/-- Only watching and unwatching change who watches. -/
theorem mem_watchersOf_call_iff {watcher : WatcherId} {made : Stream.Call}
    (others : made ≠ .watch watcher) (other : made ≠ .unwatch watcher)
    (stream query : StreamRef) :
    watcher ∈ (streams.call stream made).watchersOf query ↔
      watcher ∈ streams.watchersOf query := by
  rw [watchersOf_call]
  split
  · unfold watchersOf
    cases streams.heap[query]? with
    | none => exact Iff.rfl
    | some called =>
        simp only [Option.map_some, Option.getD_some]
        cases made with
        | receive message => exact Iff.rfl
        | interrupt gap => exact Iff.rfl
        | watch added =>
            have apart : watcher ≠ added := fun same => others (congrArg _ same.symm)
            simp only [Stream.call, Stream.watch, List.mem_append, List.mem_filter,
              decide_eq_true_eq, List.mem_singleton, apart, ne_eq, not_false_eq_true, and_true,
              or_false]
        | unwatch removed =>
            have apart : watcher ≠ removed := fun same => other (congrArg _ same.symm)
            simp only [Stream.call, Stream.unwatch, List.mem_filter, decide_eq_true_eq, apart,
              ne_eq, not_false_eq_true, and_true]
  · exact Iff.rfl

/-- Watching a stream adds the watcher to it. -/
theorem mem_watchersOf_watch_iff {watcher : WatcherId} {stream : StreamRef}
    (built : (streams.idOf stream).isSome) (query : StreamRef) :
    watcher ∈ (streams.call stream (.watch watcher)).watchersOf query ↔
      query = stream ∨ watcher ∈ streams.watchersOf query := by
  rw [watchersOf_call]
  by_cases same : stream = query
  · subst same
    obtain ⟨called, found⟩ := Option.isSome_map.symm.trans built |> Option.isSome_iff_exists.mp
    simp only [↓reduceIte, found, Option.map_some, Option.getD_some, Stream.call, Stream.watch,
      List.mem_append, List.mem_singleton, or_true, true_or]
  · rw [if_neg same]
    exact ⟨.inr, fun either => either.resolve_left fun equal => same equal.symm⟩

/-- Unwatching a stream takes the watcher off it. -/
theorem mem_watchersOf_unwatch_iff (watcher : WatcherId) (stream query : StreamRef) :
    watcher ∈ (streams.call stream (.unwatch watcher)).watchersOf query ↔
      query ≠ stream ∧ watcher ∈ streams.watchersOf query := by
  rw [watchersOf_call]
  by_cases same : stream = query
  · subst same
    rw [if_pos rfl]
    refine ⟨fun member => ?_, fun both => (both.1 rfl).elim⟩
    cases found : streams.heap[stream]? with
    | none =>
        rw [found] at member
        exact (List.not_mem_nil member).elim
    | some called =>
        rw [found] at member
        simp only [Option.map_some, Option.getD_some, Stream.call, Stream.unwatch,
          List.mem_filter, ne_eq, not_true_eq_false, decide_false, Bool.false_eq_true,
          and_false] at member
  · rw [if_neg same]
    exact ⟨fun member => ⟨fun equal => same equal.symm, member⟩, And.right⟩

/-- A watcher is listed once. -/
theorem watchersOf_nodup (streams : Streams) (stream : StreamRef) :
    (streams.watchersOf stream).Nodup := by
  unfold watchersOf
  cases streams.heap[stream]? with
  | none => exact .nil
  | some found => exact found.distinct

/-- Every registered stream is registered under its own id, no two streams have one id,
and none has the id 0. -/
structure Numbered (streams : Streams) : Prop where
  registered : ∀ id stream, streams.outbox.find? id = some stream → streams.idOf stream = some id
  once : ∀ first second id, streams.idOf first = some id → streams.idOf second = some id →
    first = second
  named : ∀ stream, streams.idOf stream ≠ some 0

/-- What other threads do to the streams, as a session sees it. -/
structure Undisturbed (session : WatcherId) (streams next : Streams) : Prop where
  named : ∀ stream id, streams.idOf stream = some id → next.idOf stream = some id
  watching : ∀ stream, session ∈ next.watchersOf stream ↔ session ∈ streams.watchersOf stream
  found : ∀ id stream, next.outbox.find? id = some stream →
    streams.outbox.find? id = some stream ∨
      id ≠ 0 ∧ (∀ other, streams.idOf other ≠ some id) ∧ streams.idOf stream = none

variable {next : Streams} {session : WatcherId}

/-- A stream that was never built has no watchers. -/
theorem watchersOf_eq_nil {stream : StreamRef} (unbuilt : streams.idOf stream = none) :
    streams.watchersOf stream = [] := by
  unfold watchersOf
  rw [Option.map_eq_none_iff.mp unbuilt]
  rfl

/-- A stream has the id that it was built with. -/
theorem idOf_eq_some_iff {stream : StreamRef} {id : SubscriptionId} :
    streams.idOf stream = some id ↔ ∃ built, streams.heap[stream]? = some built ∧ built.id = id :=
  Option.map_eq_some_iff

/-- The next stream is not built yet. -/
theorem idOf_length : streams.idOf streams.heap.length = none := by
  unfold idOf
  rw [List.getElem?_eq_none (Nat.le_refl _)]
  rfl

/-- The streams with one more, which has no watchers. -/
theorem idOf_concat {built : Stream} (outbox : Outbox) (stream : StreamRef) :
    idOf ⟨streams.heap ++ [built], outbox⟩ stream =
      if stream = streams.heap.length then some built.id else streams.idOf stream := by
  unfold idOf
  simp only [List.getElem?_append]
  split
  · rename_i before
    rw [if_neg (Nat.ne_of_lt before)]
  · rename_i after
    by_cases last : stream = streams.heap.length
    · simp only [last, Nat.sub_self, List.getElem?_cons_zero, Option.map_some, ↓reduceIte]
    · have beyond : streams.heap.length < stream :=
        Nat.lt_of_le_of_ne (Nat.le_of_not_lt after) (Ne.symm last)
      rw [if_neg last, List.getElem?_eq_none (by simp only [List.length_singleton]; omega),
        List.getElem?_eq_none (Nat.le_of_lt beyond)]

/-- A stream that is built leaves the watchers of the others. -/
theorem watchersOf_concat {built : Stream} (fresh : built.watchers = []) (outbox : Outbox)
    (stream : StreamRef) :
    watchersOf ⟨streams.heap ++ [built], outbox⟩ stream = streams.watchersOf stream := by
  unfold watchersOf
  simp only [List.getElem?_append]
  split
  · rfl
  · rename_i after
    rw [List.getElem?_eq_none (Nat.le_of_not_lt after)]
    cases stream - streams.heap.length with
    | zero => exact fresh
    | succ beyond => rfl

/-- Without streams every id names at most one. -/
theorem Numbered.empty : empty.Numbered where
  registered _ _ found := (Option.some_ne_none _ found.symm).elim
  once _ _ _ built := (Option.some_ne_none _ built.symm).elim
  named _ built := (Option.some_ne_none _ built.symm).elim

/-- Destroying a stream keeps the ids apart. -/
theorem Numbered.destroy (numbered : streams.Numbered) (id : SubscriptionId) :
    (streams.destroy id).Numbered where
  registered query stream found := by
    rw [outbox_destroy, OrderedMap.find?_erase] at found
    split at found
    · exact (Option.some_ne_none _ found.symm).elim
    · exact numbered.registered query stream found
  once := numbered.once
  named := numbered.named

/-- So does a call. -/
theorem Numbered.call (numbered : streams.Numbered) (stream : StreamRef) (made : Stream.Call) :
    (streams.call stream made).Numbered where
  registered id query found := (idOf_call stream query made).trans
    (numbered.registered id query found)
  once first second id left right := numbered.once first second id
    ((idOf_call stream first made).symm.trans left)
    ((idOf_call stream second made).symm.trans right)
  named query zero := numbered.named query ((idOf_call stream query made).symm.trans zero)

/-- A transmitter under an id no stream has had. -/
theorem Numbered.transmitter (numbered : streams.Numbered) {id : SubscriptionId} {venue : String}
    {book : BookSpec} {precision : PairPrecision} (nonzero : id ≠ 0)
    (unused : ∀ stream, streams.idOf stream ≠ some id)
    (built : streams.transmitter id venue book precision = .ok next) : next.Numbered := by
  obtain ⟨_, _, rfl⟩ := transmitter_ok_iff.mp built
  refine ⟨?_, ?_, ?_⟩
  · intro query stream found
    rw [OrderedMap.find?_insert] at found
    rw [idOf_concat]
    split at found
    · rename_i same
      rw [if_pos (Option.some.inj found).symm, same]
      rfl
    · have earlier := numbered.registered query stream found
      rw [if_neg fun last : stream = streams.heap.length =>
        Option.some_ne_none _ (earlier.symm.trans (last ▸ idOf_length)), earlier]
  · intro first second query left right
    rw [idOf_concat] at left right
    split at left <;> split at right
    · rename_i one other
      exact one.trans other.symm
    · exact (unused second (right.trans left.symm)).elim
    · exact (unused first (left.trans right.symm)).elim
    · exact numbered.once first second query left right
  · intro stream zero
    rw [idOf_concat] at zero
    split at zero
    · exact nonzero (Option.some.inj zero)
    · exact numbered.named stream zero

namespace Undisturbed

/-- Nothing has happened. -/
theorem refl (session : WatcherId) (streams : Streams) : Undisturbed session streams streams :=
  ⟨fun _ _ built => built, fun _ => Iff.rfl, fun _ _ found => .inl found⟩

/-- Destroying a stream disturbs no watcher. -/
theorem destroy (session : WatcherId) (streams : Streams) (id : SubscriptionId) :
    Undisturbed session streams (streams.destroy id) := by
  refine ⟨fun _ _ built => built, fun _ => Iff.rfl, ?_⟩
  intro query stream found
  rw [outbox_destroy, OrderedMap.find?_erase] at found
  split at found
  · exact (Option.some_ne_none _ found.symm).elim
  · exact .inl found

/-- Any call but the session's own watching and unwatching. -/
theorem call (streams : Streams) (stream : StreamRef) {made : Stream.Call}
    (others : made ≠ .watch session) (other : made ≠ .unwatch session) :
    Undisturbed session streams (streams.call stream made) where
  named query _ built := (idOf_call stream query made).trans built
  watching query := mem_watchersOf_call_iff others other stream query
  found _ _ found := .inl found

/-- Neither does building one under a new id. -/
theorem transmitter (session : WatcherId) {id : SubscriptionId} {venue : String} {book : BookSpec}
    {precision : PairPrecision} (nonzero : id ≠ 0)
    (unused : ∀ stream, streams.idOf stream ≠ some id)
    (built : streams.transmitter id venue book precision = .ok next) :
    Undisturbed session streams next := by
  obtain ⟨_, _, rfl⟩ := transmitter_ok_iff.mp built
  refine ⟨?_, ?_, ?_⟩
  · intro stream query named
    rw [idOf_concat, if_neg fun last : stream = streams.heap.length =>
      Option.some_ne_none _ (named.symm.trans (last ▸ idOf_length)), named]
  · intro stream
    rw [watchersOf_concat rfl]
  · intro query stream found
    rw [OrderedMap.find?_insert] at found
    split at found
    · rename_i same
      subst same
      obtain rfl := Option.some.inj found
      exact .inr ⟨nonzero, unused, idOf_length⟩
    · exact .inl found

end Undisturbed

end Streams

end DataFeed.Frontend
