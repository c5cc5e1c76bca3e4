import Mathlib.Data.List.Induction
import DataFeed.L2.Book

/-! # Stretches of a stream

A receiver gets messages and gaps. After a gap, and at the start, its next message
is to be a snapshot, so that every stretch between gaps can be replayed on its
own: what came before a snapshot has no part in the book it leaves.
-/

namespace DataFeed.L2

/-- What a receiver gets: a message, or nothing where a stretch of the stream ends. -/
abbrev Entry := Option Message

/-- No message has come since the last gap, or since the start. -/
def Fresh (entries : List Entry) : Prop := ∀ message, entries.getLast? ≠ some (some message)

/-- A message that begins a stretch is a snapshot. -/
def OpensStretch (past : List Entry) (entry : Entry) : Prop :=
  ∀ message, entry = some message → Fresh past → message.type = .snapshot

theorem fresh_nil : Fresh [] := fun _ same => Option.some_ne_none _ same.symm

theorem fresh_gap (entries : List Entry) : Fresh (entries ++ [none]) := by
  intro message last
  rw [List.getLast?_concat] at last
  exact Option.some_ne_none message (Option.some.inj last).symm

theorem not_fresh_concat (entries : List Entry) (message : Message) :
    ¬ Fresh (entries ++ [some message]) := fun fresh => fresh message List.getLast?_concat

/-- The messages from the latest snapshot on. -/
def sinceSnapshot (messages : List Message) : List Message :=
  messages.foldl (fun kept message =>
    if message.type = .snapshot then [message] else kept ++ [message]) []

theorem sinceSnapshot_concat (messages : List Message) (message : Message) :
    sinceSnapshot (messages ++ [message]) =
      if message.type = .snapshot then [message] else sinceSnapshot messages ++ [message] := by
  simp only [sinceSnapshot, List.foldl_append, List.foldl_cons, List.foldl_nil]

/-- Once there was a snapshot, the messages from the latest one on are a snapshot
and the updates after it. -/
theorem sinceSnapshot_spec {messages : List Message}
    (started : ∃ message ∈ messages, message.type = .snapshot) :
    ∃ earlier snapshot rest, messages = earlier ++ snapshot :: rest ∧
      snapshot.type = .snapshot ∧ (∀ later ∈ rest, later.type = .update) ∧
      sinceSnapshot messages = snapshot :: rest := by
  induction messages using List.reverseRecOn with
  | nil =>
      obtain ⟨_, member, _⟩ := started
      exact (List.not_mem_nil member).elim
  | append_singleton messages last ih =>
      rw [sinceSnapshot_concat]
      by_cases final : last.type = .snapshot
      · refine ⟨messages, last, [], rfl, final, ?_, if_pos final⟩
        exact fun _ member => (List.not_mem_nil member).elim
      · have earlier : ∃ message ∈ messages, message.type = .snapshot := by
          obtain ⟨message, member, snapshot⟩ := started
          rcases List.mem_append.mp member with older | here
          · exact ⟨message, older, snapshot⟩
          · rw [List.mem_singleton.mp here] at snapshot
            exact (final snapshot).elim
        obtain ⟨before, snapshot, rest, rfl, first, updates, since⟩ := ih earlier
        refine ⟨before, snapshot, rest ++ [last], ?_, first, ?_, ?_⟩
        · rw [List.append_assoc, List.cons_append]
        · intro later member
          rcases List.mem_append.mp member with older | here
          · exact updates later older
          · rw [List.mem_singleton.mp here]
            cases type : last.type with
            | update => rfl
            | snapshot => exact (final type).elim
        · rw [if_neg final, since, List.cons_append]

theorem sinceSnapshot_singleton {snapshot : Message} (first : snapshot.type = .snapshot) :
    sinceSnapshot [snapshot] = [snapshot] := if_pos first

/-- What came before a snapshot is not in what it begins. -/
theorem sinceSnapshot_append (earlier : List Message) {snapshot : Message} (rest : List Message)
    (first : snapshot.type = .snapshot) :
    sinceSnapshot (earlier ++ snapshot :: rest) = sinceSnapshot (snapshot :: rest) := by
  induction rest using List.reverseRecOn with
  | nil => rw [sinceSnapshot_concat, if_pos first, sinceSnapshot_singleton first]
  | append_singleton rest last ih =>
      rw [← List.cons_append, ← List.append_assoc, sinceSnapshot_concat, sinceSnapshot_concat, ih]

/-- A stretch that begins with a snapshot leaves the book its latest snapshot and the
updates after it leave. -/
theorem Book.applyAll_sinceSnapshot (depth : UInt32) {snapshot : Message} (rest : List Message)
    (first : snapshot.type = .snapshot) :
    (Book.ofDepth depth).applyAll (sinceSnapshot (snapshot :: rest)) =
      (Book.ofDepth depth).applyAll (snapshot :: rest) := by
  induction rest using List.reverseRecOn with
  | nil => rw [sinceSnapshot_singleton first]
  | append_singleton rest last ih =>
      rw [← List.cons_append, sinceSnapshot_concat, Book.applyAll_concat]
      split
      · rename_i again
        exact Book.apply_snapshot (Book.depth_applyAll _ _).symm again
      · rw [Book.applyAll_concat, ih]

end DataFeed.L2
