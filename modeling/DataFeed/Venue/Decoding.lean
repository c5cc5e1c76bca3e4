import DataFeed.Venue.Adapter

/-! # What comes of decoding a frame

A decoder does not know what its output will answer, so a frame can be decoded in
several ways (`Decoding.Runs`), each with the book changes that were emitted on it and
how it ended.
-/

namespace DataFeed.Venue

open L2 Net

namespace Decoding

variable {Decoder Value : Type}

/-- Goes on with a value, or throws. -/
def attempt (result : Except String Value) (next : Value → Decoding Decoder) :
    Decoding Decoder :=
  match result with
  | .ok value => next value
  | .error what => .fail what

/-- What may be emitted, and how decoding may end, whatever the output answers. -/
inductive Runs : Decoding Decoder → List Message → Except String Decoder → Prop
  | find {symbol : String} {type : MessageType}
      {next : Option PairPrecision → Decoding Decoder} {emitted : List Message}
      {result : Except String Decoder} (answer : Option PairPrecision) :
      Runs (next answer) emitted result → Runs (.find symbol type next) emitted result
  | emit {message : Message} {next : Decoding Decoder} {emitted : List Message}
      {result : Except String Decoder} :
      Runs next emitted result → Runs (.emit message next) (message :: emitted) result
  | done (decoder : Decoder) : Runs (.done decoder) [] (.ok decoder)
  | fail (what : String) : Runs (.fail what) [] (.error what)

/-- A run of an attempt ends there or goes on with its value. -/
theorem Runs.of_attempt {value : Except String Value} {next : Value → Decoding Decoder}
    {emitted : List Message} {result : Except String Decoder}
    (runs : (attempt value next).Runs emitted result) :
    (∃ what, value = .error what ∧ emitted = [] ∧ result = .error what) ∨
      ∃ ok, value = .ok ok ∧ (next ok).Runs emitted result := by
  cases value with
  | error what =>
      cases runs
      exact Or.inl ⟨what, rfl, rfl, rfl⟩
  | ok value => exact Or.inr ⟨value, rfl, runs⟩

/-- Where a decoder hands what it finds. -/
structure Output (State : Type) where
  /-- The precision to scale a change at, unless it would be dropped. -/
  find : State → String → MessageType → Option PairPrecision
  emit : State → Message → State

/-- What came of decoding a frame. -/
structure Outcome (State Decoder : Type) where
  emitted : List Message
  state : State
  result : Except String Decoder

/-- Decodes a frame for an output whose answers may depend on what it was handed. -/
def run {State : Type} (output : Output State) (state : State) :
    Decoding Decoder → Outcome State Decoder
  | .find symbol type next => run output state (next (output.find state symbol type))
  | .emit message next =>
      let after := run output (output.emit state message) next
      { after with emitted := message :: after.emitted }
  | .done decoder => ⟨[], state, .ok decoder⟩
  | .fail what => ⟨[], state, .error what⟩

section Running

variable {State : Type} {output : Output State} {state : State}

/-- A lookup goes on with what the output finds. -/
@[simp] theorem run_find {symbol : String} {type : MessageType}
    {next : Option PairPrecision → Decoding Decoder} :
    run output state (.find symbol type next) =
      run output state (next (output.find state symbol type)) := by
  rw [run]

/-- An attempt that succeeds goes on with its value. -/
@[simp] theorem run_attempt_ok {value : Value} {next : Value → Decoding Decoder} :
    run output state (attempt (.ok value) next) = run output state (next value) := by
  rw [attempt]

/-- An attempt that throws ends the run. -/
@[simp] theorem run_attempt_error {what : String} {next : Value → Decoding Decoder} :
    run output state (attempt (.error what) next) = ⟨[], state, .error what⟩ := by
  rw [attempt, run]

/-- A message is emitted before the run goes on. -/
@[simp] theorem run_emit {message : Message} {next : Decoding Decoder} :
    run output state (.emit message next) =
      ⟨message :: (run output (output.emit state message) next).emitted,
        (run output (output.emit state message) next).state,
        (run output (output.emit state message) next).result⟩ := by
  rw [run]

/-- A run that is done returns its decoder. -/
@[simp] theorem run_done {decoder : Decoder} :
    run output state (.done decoder) = ⟨[], state, .ok decoder⟩ := by
  rw [run]

/-- What an output sees is one of the ways in which the frame may be decoded. -/
theorem runs_run (decoding : Decoding Decoder) :
    decoding.Runs (run output state decoding).emitted (run output state decoding).result := by
  induction decoding generalizing state with
  | find symbol type next ih =>
      rw [run_find]
      exact .find _ (ih _)
  | emit message next ih =>
      rw [run_emit]
      exact .emit ih
  | done decoder =>
      rw [run_done]
      exact .done decoder
  | fail what =>
      rw [run]
      exact .fail what

end Running

/-- A book change that may be emitted, with the precision that the output gave for it. -/
inductive Emits : Option PairPrecision → Decoding Decoder → PairPrecision → Message → Prop
  | find {given : Option PairPrecision} {symbol : String} {type : MessageType}
      {next : Option PairPrecision → Decoding Decoder} {precision : PairPrecision}
      {message : Message} (answer : Option PairPrecision) :
      Emits answer (next answer) precision message →
        Emits given (.find symbol type next) precision message
  | here {precision : PairPrecision} {message : Message} {next : Decoding Decoder} :
      Emits (some precision) (.emit message next) precision message
  | later {given : Option PairPrecision} {emitted message : Message} {next : Decoding Decoder}
      {precision : PairPrecision} :
      Emits given next precision message → Emits given (.emit emitted next) precision message

/-- What an attempt emits is emitted after it succeeded. -/
theorem Emits.of_attempt {given : Option PairPrecision} {value : Except String Value}
    {next : Value → Decoding Decoder} {precision : PairPrecision} {message : Message}
    (emits : Emits given (attempt value next) precision message) :
    ∃ ok, value = .ok ok ∧ Emits given (next ok) precision message := by
  cases value with
  | error what => cases emits
  | ok value => exact ⟨value, rfl, emits⟩

end Decoding

/-- The types of book changes that the venues document. -/
def documentedType (text : String) : Option MessageType :=
  if text = "snapshot" then some .snapshot
  else if text = "update" then some .update
  else none

/-- A frame that was decoded without a throw. -/
structure Decoded (Decoder : Type) where
  frame : RawFrame
  before : Decoder
  emitted : List Message
  after : Decoder

/-- The frames of a connection, decoded one after another up to a throw. -/
inductive Decodes {Decoder : Type} (decode : Decoder → RawFrame → Decoding Decoder)
    (start : Decoder) : List (Decoded Decoder) → Decoder → Prop
  | nil : Decodes decode start [] start
  | concat {past : List (Decoded Decoder)} {before after : Decoder} {frame : RawFrame}
      {emitted : List Message} :
      Decodes decode start past before → (decode before frame).Runs emitted (.ok after) →
        Decodes decode start (past ++ [⟨frame, before, emitted, after⟩]) after

end DataFeed.Venue
