import DataFeed.Foundation.Transition

/-! # A pipeline's queues

One thread pushes values into a bounded queue, one at a time, and waits while it is
full (`PushBlocking`); another consumes them until a stop is requested and the queue is
empty (`Drain`). Every read of the flag, of the stop request and of the queue is a step
of its own, so a push, the stop or the give-up flag may come between any two of them.
-/

namespace DataFeed.Core.Spsc

open Foundation

/-- Where the thread is that calls `PushBlocking` on one value after another. -/
inductive Producer (Value : Type*) where
  /-- Is about to push the value. -/
  | pushing (value : Value) (rest : List Value)
  /-- The queue was full; looks at the give-up flag. -/
  | refused (value : Value) (rest : List Value)
  /-- The last call has returned. -/
  | returned

/-- Where the thread that runs `Drain` is. -/
inductive Consumer (Value : Type*) where
  /-- Is about to ask whether a stop was requested. -/
  | checkStop
  /-- It was; asks for the size of the queue. -/
  | checkSize
  /-- Is about to consume a value, if there is one. -/
  | consume
  /-- The value at the front was consumed and is about to leave the queue. -/
  | pop (value : Value)
  /-- The consumer threw on the value; `on_fail` is about to be called. -/
  | thrown (value : Value)
  /-- `Drain` has returned after the stop. -/
  | returned
  /-- `Drain` has returned after the consumer threw. -/
  | failed (value : Value)

/-- A queue with its two threads, and what has happened to them. -/
structure Channel (Value : Type*) where
  queue : List Value
  giveUp : Bool
  stop : Bool
  producer : Producer Value
  consumer : Consumer Value
  /-- What has entered the queue. -/
  pushed : List Value
  /-- What has been consumed. -/
  consumed : List Value
  /-- How often `on_fail` was called. -/
  failures : Nat

/-- Who takes a step. -/
inductive Action where
  | producer
  | consumer
  /-- The consumer throws a `std::exception` on the value at the front, the only thing that
  the consumers throw and that the loop catches. -/
  | throws
  | giveUp
  | requestStop
  deriving DecidableEq, Repr

variable {Value : Type*}

namespace Producer

/-- Goes on to the next value. -/
def start : List Value → Producer Value
  | [] => .returned
  | value :: rest => .pushing value rest

/-- What it has yet to push. -/
def remaining : Producer Value → List Value
  | .pushing value rest | .refused value rest => value :: rest
  | .returned => []

/-- Nothing has been taken from a producer that just started. -/
@[simp] theorem remaining_start (values : List Value) : (start values).remaining = values := by
  cases values <;> rfl

end Producer

namespace Consumer

/-- The value that the consumer threw on. -/
def threwOn : Consumer Value → Option Value
  | .thrown value | .failed value => some value
  | .checkStop | .checkSize | .consume | .pop _ | .returned => none

/-- `Drain` has returned. -/
def Done : Consumer Value → Prop
  | .returned | .failed _ => True
  | .checkStop | .checkSize | .consume | .pop _ | .thrown _ => False

end Consumer

namespace Channel

/-- An empty queue, and a producer with a list of values. -/
def init (values : List Value) : Channel Value where
  queue := []
  giveUp := false
  stop := false
  producer := .start values
  consumer := .checkStop
  pushed := []
  consumed := []
  failures := 0

variable (channel : Channel Value)

/-- A step of `PushBlocking`; `push` fails exactly when the queue is full. -/
def pushBlocking (capacity : Nat) : Option (Channel Value) :=
  match channel.producer with
  | .pushing value rest =>
      if channel.queue.length < capacity then
        some { channel with
          queue := channel.queue ++ [value]
          pushed := channel.pushed ++ [value]
          producer := .start rest }
      else some { channel with producer := .refused value rest }
  | .refused value rest =>
      some { channel with
        producer := if channel.giveUp then .start rest else .pushing value rest }
  | .returned => none

/-- A step of `Drain`. A value leaves the queue after it was consumed. -/
def drain : Option (Channel Value) :=
  match channel.consumer with
  | .checkStop =>
      some { channel with consumer := if channel.stop then .checkSize else .consume }
  | .checkSize =>
      some { channel with consumer := if channel.queue = [] then .returned else .consume }
  | .consume =>
      match channel.queue with
      | [] => some { channel with consumer := .checkStop }
      | value :: _ =>
          some { channel with
            consumer := .pop value
            consumed := channel.consumed ++ [value] }
  | .pop _ => some { channel with consumer := .checkStop, queue := channel.queue.tail }
  | .thrown value =>
      some { channel with consumer := .failed value, failures := channel.failures + 1 }
  | .returned | .failed _ => none

/-- The consumer throws. -/
def throws : Option (Channel Value) :=
  match channel.consumer, channel.queue with
  | .consume, value :: _ => some { channel with consumer := .thrown value }
  | _, _ => none

/-- The stop comes after the last push has returned. -/
def requestStop : Option (Channel Value) :=
  match channel.producer with
  | .returned => some { channel with stop := true }
  | .pushing _ _ | .refused _ _ => none

/-- What a step does, if it is possible. -/
def step (capacity : Nat) : Action → Option (Channel Value)
  | .producer => channel.pushBlocking capacity
  | .consumer => channel.drain
  | .throws => channel.throws
  | .giveUp => some { channel with giveUp := true }
  | .requestStop => channel.requestStop

end Channel

/-- A queue of some capacity, a list to be pushed, and every order of steps. -/
def system (capacity : Nat) (values : List Value) : System (Channel Value) Action where
  init := .init values
  step channel := channel.step capacity

namespace Channel

/-- What entered the queue was consumed or is there. -/
def Balanced (channel : Channel Value) : Prop :=
  channel.pushed = channel.consumed ++ channel.queue

/-- What holds when the consumer's thread is at a place. -/
def At (channel : Channel Value) : Consumer Value → Prop
  | .checkStop | .consume => channel.Balanced ∧ channel.failures = 0
  | .checkSize => channel.Balanced ∧ channel.failures = 0 ∧ channel.stop = true
  | .pop value => channel.failures = 0 ∧
      ∃ waiting, channel.queue = value :: waiting ∧ channel.pushed = channel.consumed ++ waiting
  | .thrown value => channel.failures = 0 ∧
      ∃ rest, channel.queue = value :: rest ∧ channel.pushed = channel.consumed ++ value :: rest
  | .failed value => channel.failures = 1 ∧
      ∃ rest, channel.queue = value :: rest ∧ channel.pushed = channel.consumed ++ value :: rest
  | .returned => channel.failures = 0 ∧ channel.queue = [] ∧ channel.stop = true ∧
      channel.pushed = channel.consumed

/-- What holds however the steps are ordered. -/
structure Sound (values : List Value) (channel : Channel Value) : Prop where
  place : channel.At channel.consumer
  /-- Nothing is left out unless the flag was set. -/
  whole : channel.giveUp = false → channel.pushed ++ channel.producer.remaining = values
  /-- No push comes after the stop. -/
  last : channel.stop = true → channel.producer = .returned

namespace Sound

variable {values : List Value} {channel next : Channel Value} {capacity : Nat}

/-- In the beginning nothing is queued or consumed. -/
theorem init (values : List Value) : Sound values (.init values) where
  place := ⟨rfl, rfl⟩
  whole _ := Producer.remaining_start values
  last stopped := Bool.noConfusion stopped

/-- A push leaves the consumer's thread where it is. -/
theorem place_push {consumer : Consumer Value} (place : channel.At consumer)
    (running : channel.stop = false) (value : Value) (producer : Producer Value) :
    At { channel with
      queue := channel.queue ++ [value]
      pushed := channel.pushed ++ [value]
      producer := producer } consumer := by
  cases consumer with
  | checkStop | consume =>
      obtain ⟨balanced, failures⟩ := place
      exact ⟨(congrArg (· ++ [value]) balanced).trans (List.append_assoc _ _ _), failures⟩
  | checkSize => exact Bool.noConfusion (running.symm.trans place.2.2)
  | returned => exact Bool.noConfusion (running.symm.trans place.2.2.1)
  | pop | thrown | failed =>
      obtain ⟨failures, waiting, queue, pushed⟩ := place
      refine ⟨failures, waiting ++ [value], congrArg (· ++ [value]) queue, ?_⟩
      exact (congrArg (· ++ [value]) pushed).trans (List.append_assoc _ _ _)

/-- A push, or a look at the flag. -/
theorem pushBlocking (sound : Sound values channel)
    (stepped : channel.pushBlocking capacity = some next) : Sound values next := by
  have running : channel.producer ≠ .returned → channel.stop = false := by
    intro running
    rw [Bool.eq_false_iff]
    exact fun stopped => running (sound.last stopped)
  have whole := sound.whole
  unfold Channel.pushBlocking at stepped
  split at stepped
  · rename_i value rest pushing
    rw [pushing] at running whole
    have running := running (fun same => by cases same)
    split at stepped
    · obtain rfl := Option.some.inj stepped
      refine ⟨place_push sound.place running value _, fun kept => ?_, fun stopped => ?_⟩
      · rw [Producer.remaining_start, List.append_assoc]
        exact whole kept
      · exact Bool.noConfusion (running.symm.trans stopped)
    · obtain rfl := Option.some.inj stepped
      exact ⟨sound.place, whole, fun stopped => Bool.noConfusion (running.symm.trans stopped)⟩
  · rename_i value rest refused
    rw [refused] at running whole
    have running := running (fun same => by cases same)
    obtain rfl := Option.some.inj stepped
    refine ⟨sound.place, fun kept => ?_, fun stopped => ?_⟩
    · dsimp only at kept ⊢
      rw [kept]
      exact whole kept
    · exact Bool.noConfusion (running.symm.trans stopped)
  · contradiction

/-- A step of the consumer's thread. -/
theorem drain (sound : Sound values channel) (stepped : channel.drain = some next) :
    Sound values next := by
  have place := sound.place
  unfold Channel.drain at stepped
  split at stepped
  · rename_i consumer
    rw [consumer] at place
    obtain rfl := Option.some.inj stepped
    refine ⟨?_, sound.whole, sound.last⟩
    dsimp only
    split
    · rename_i stopped
      exact ⟨place.1, place.2, stopped⟩
    · exact place
  · rename_i consumer
    rw [consumer] at place
    obtain ⟨balanced, failures, stopped⟩ := place
    obtain rfl := Option.some.inj stepped
    refine ⟨?_, sound.whole, sound.last⟩
    dsimp only
    split
    · rename_i empty
      refine ⟨failures, empty, stopped, ?_⟩
      rw [Balanced, empty, List.append_nil] at balanced
      exact balanced
    · exact ⟨balanced, failures⟩
  · rename_i consumer
    rw [consumer] at place
    obtain ⟨balanced, failures⟩ := place
    split at stepped
    · obtain rfl := Option.some.inj stepped
      exact ⟨⟨balanced, failures⟩, sound.whole, sound.last⟩
    · rename_i value waiting front
      obtain rfl := Option.some.inj stepped
      refine ⟨⟨failures, waiting, front, ?_⟩, sound.whole, sound.last⟩
      rw [Balanced, front] at balanced
      rw [List.append_assoc]
      exact balanced
  · rename_i value consumer
    rw [consumer] at place
    obtain ⟨failures, waiting, queue, pushed⟩ := place
    obtain rfl := Option.some.inj stepped
    refine ⟨⟨?_, failures⟩, sound.whole, sound.last⟩
    rw [Balanced, queue]
    exact pushed
  · rename_i value consumer
    rw [consumer] at place
    obtain ⟨failures, waiting⟩ := place
    obtain rfl := Option.some.inj stepped
    exact ⟨⟨congrArg (· + 1) failures, waiting⟩, sound.whole, sound.last⟩
  · contradiction
  · contradiction

/-- The consumer throws. -/
theorem throws (sound : Sound values channel) (stepped : channel.throws = some next) :
    Sound values next := by
  unfold Channel.throws at stepped
  split at stepped
  · rename_i value rest consumer queue
    have place := sound.place
    rw [consumer] at place
    obtain ⟨balanced, failures⟩ := place
    obtain rfl := Option.some.inj stepped
    refine ⟨⟨failures, rest, queue, ?_⟩, sound.whole, sound.last⟩
    rw [Balanced, queue] at balanced
    exact balanced
  · contradiction

/-- The stop leaves the consumer's thread where it is. -/
theorem place_stop {consumer : Consumer Value} (place : channel.At consumer) :
    At { channel with stop := true } consumer := by
  cases consumer with
  | checkStop | consume | pop | thrown | failed => exact place
  | checkSize => exact ⟨place.1, place.2.1, rfl⟩
  | returned => exact ⟨place.1, place.2.1, rfl, place.2.2.2⟩

/-- The stop is requested. -/
theorem requestStop (sound : Sound values channel) (stepped : channel.requestStop = some next) :
    Sound values next := by
  unfold Channel.requestStop at stepped
  split at stepped
  · rename_i returned
    obtain rfl := Option.some.inj stepped
    exact ⟨place_stop sound.place, sound.whole, fun _ => returned⟩
  · contradiction
  · contradiction

/-- Every step keeps the values in order, between producer and consumer. -/
theorem step {action : Action} (sound : Sound values channel)
    (stepped : channel.step capacity action = some next) : Sound values next := by
  cases action with
  | producer => exact sound.pushBlocking stepped
  | consumer => exact sound.drain stepped
  | throws => exact sound.throws stepped
  | requestStop => exact sound.requestStop stepped
  | giveUp =>
      obtain rfl := Option.some.inj stepped
      exact ⟨sound.place, fun kept => Bool.noConfusion kept, sound.last⟩

/-- In every reachable state the values are in order. -/
theorem of_reachable (reachable : (system capacity values).Reachable channel) :
    Sound values channel := by
  apply reachable.invariant
  · exact init values
  · exact fun _ _ _ sound stepped => sound.step stepped

/-- What was consumed is what was pushed first. -/
theorem consumed_first (sound : Sound values channel) : channel.consumed <+: channel.pushed := by
  have place := sound.place
  cases consumer : channel.consumer with
  | checkStop | consume | checkSize =>
      rw [consumer] at place
      exact ⟨channel.queue, place.1.symm⟩
  | pop | thrown | failed =>
      rw [consumer] at place
      obtain ⟨_, waiting, _, pushed⟩ := place
      exact ⟨_, pushed.symm⟩
  | returned =>
      rw [consumer] at place
      exact ⟨[], (List.append_nil _).trans place.2.2.2.symm⟩

/-- What the consumer threw on is the value after those it consumed. -/
theorem threw (sound : Sound values channel) {value : Value}
    (threw : channel.consumer.threwOn = some value) :
    ∃ rest, channel.pushed = channel.consumed ++ value :: rest := by
  have place := sound.place
  cases consumer : channel.consumer with
  | thrown | failed =>
      rw [consumer] at place threw
      obtain rfl := Option.some.inj threw
      obtain ⟨_, rest, _, pushed⟩ := place
      exact ⟨rest, pushed⟩
  | checkStop | consume | checkSize | pop | returned =>
      rw [consumer] at threw
      contradiction

end Sound

variable {channel next final : Channel Value} {capacity : Nat} {values : List Value}

/-- Once the consumer threw nothing is consumed, and `on_fail` is called once. -/
theorem step_threw {action : Action} {value : Value} (threw : channel.consumer.threwOn = some value)
    (stepped : channel.step capacity action = some next) :
    next.consumed = channel.consumed ∧ next.consumer.threwOn = some value := by
  have thrown : channel.consumer = .thrown value ∨ channel.consumer = .failed value := by
    cases consumer : channel.consumer with
    | thrown | failed =>
        rw [consumer] at threw
        obtain rfl := Option.some.inj threw
        simp only [true_or, or_true]
    | checkStop | consume | checkSize | pop | returned =>
        rw [consumer] at threw
        contradiction
  cases action with
  | producer =>
      simp only [step, pushBlocking] at stepped
      split at stepped
      · split at stepped <;> obtain rfl := Option.some.inj stepped <;> exact ⟨rfl, threw⟩
      · obtain rfl := Option.some.inj stepped
        exact ⟨rfl, threw⟩
      · contradiction
  | consumer =>
      rcases thrown with thrown | failed
      · simp only [step, drain, thrown] at stepped
        obtain rfl := Option.some.inj stepped
        exact ⟨rfl, rfl⟩
      · simp only [step, drain, failed] at stepped
        contradiction
  | throws =>
      rcases thrown with thrown | failed
      · simp only [step, throws, thrown] at stepped
        contradiction
      · simp only [step, throws, failed] at stepped
        contradiction
  | giveUp =>
      obtain rfl := Option.some.inj stepped
      exact ⟨rfl, threw⟩
  | requestStop =>
      simp only [step, requestStop] at stepped
      split at stepped
      · obtain rfl := Option.some.inj stepped
        exact ⟨rfl, threw⟩
      · contradiction
      · contradiction

/-- A consumer that threw consumes nothing more. -/
theorem runFrom_threw {value : Value} (threw : channel.consumer.threwOn = some value)
    {actions : List Action}
    (reached : (system capacity values).runFrom channel actions = some final) :
    final.consumed = channel.consumed ∧ final.consumer.threwOn = some value := by
  have every : ∀ (state : Channel Value) (action : Action) (next : Channel Value), True →
      state.consumed = channel.consumed ∧ state.consumer.threwOn = some value →
        state.step capacity action = some next →
          next.consumed = channel.consumed ∧ next.consumer.threwOn = some value := by
    intro state action next _ held stepped
    obtain ⟨consumed, threw⟩ := held
    obtain ⟨same, still⟩ := step_threw threw stepped
    exact ⟨same.trans consumed, still⟩
  refine @System.runFrom_invariant _ _ (system capacity values) (fun state : Channel Value =>
    state.consumed = channel.consumed ∧ state.consumer.threwOn = some value) (fun _ => True)
    every _ _ _ ⟨rfl, threw⟩ (fun _ _ => trivial) reached

/-- Only giving up sets the flag, and a consumer that does not throw does not fail. -/
theorem step_flags {action : Action} (stepped : channel.step capacity action = some next) :
    (action ≠ .giveUp → next.giveUp = channel.giveUp) ∧
      (action ≠ .throws → channel.consumer.threwOn = none → next.consumer.threwOn = none) := by
  cases action with
  | producer =>
      simp only [step, pushBlocking] at stepped
      split at stepped
      · split at stepped <;> obtain rfl := Option.some.inj stepped <;>
          exact ⟨fun _ => rfl, fun _ still => still⟩
      · obtain rfl := Option.some.inj stepped
        exact ⟨fun _ => rfl, fun _ still => still⟩
      · contradiction
  | consumer =>
      simp only [step, drain] at stepped
      split at stepped
      · obtain rfl := Option.some.inj stepped
        refine ⟨fun _ => rfl, fun _ _ => ?_⟩
        dsimp only
        split <;> rfl
      · obtain rfl := Option.some.inj stepped
        refine ⟨fun _ => rfl, fun _ _ => ?_⟩
        dsimp only
        split <;> rfl
      · split at stepped <;> obtain rfl := Option.some.inj stepped <;>
          exact ⟨fun _ => rfl, fun _ _ => rfl⟩
      · obtain rfl := Option.some.inj stepped
        exact ⟨fun _ => rfl, fun _ _ => rfl⟩
      · rename_i thrown
        obtain rfl := Option.some.inj stepped
        rw [thrown]
        exact ⟨fun _ => rfl, fun _ still => still⟩
      · contradiction
      · contradiction
  | throws =>
      simp only [step, throws] at stepped
      split at stepped
      · obtain rfl := Option.some.inj stepped
        exact ⟨fun _ => rfl, fun never => (never rfl).elim⟩
      · contradiction
  | giveUp =>
      obtain rfl := Option.some.inj stepped
      exact ⟨fun never => (never rfl).elim, fun _ still => still⟩
  | requestStop =>
      simp only [step, requestStop] at stepped
      split at stepped
      · obtain rfl := Option.some.inj stepped
        exact ⟨fun _ => rfl, fun _ still => still⟩
      · contradiction
      · contradiction

/-- What the flags say happened did happen in the run. -/
theorem run_flags {actions : List Action}
    (reached : (system capacity values).run actions = some channel) :
    (.giveUp ∉ actions → channel.giveUp = false) ∧
      (.throws ∉ actions → channel.consumer.threwOn = none) := by
  have every : ∀ (actions : List Action) (state : Channel Value) (action : Action)
      (next : Channel Value), (system capacity values).run actions = some state →
      (.giveUp ∉ actions → state.giveUp = false) ∧
        (.throws ∉ actions → state.consumer.threwOn = none) →
      state.step capacity action = some next →
        (.giveUp ∉ actions ++ [action] → next.giveUp = false) ∧
          (.throws ∉ actions ++ [action] → next.consumer.threwOn = none) := by
    intro actions state action next _ held stepped
    obtain ⟨keeps, runs⟩ := held
    obtain ⟨same, still⟩ := step_flags stepped
    simp only [List.mem_append, List.mem_singleton, not_or]
    refine ⟨fun ⟨never, other⟩ => ?_, fun ⟨never, other⟩ => ?_⟩
    · rw [same (Ne.symm other), keeps never]
    · exact still (Ne.symm other) (runs never)
  exact @System.run_induction _ _ (system capacity values)
    (fun actions (state : Channel Value) => (.giveUp ∉ actions → state.giveUp = false) ∧
      (.throws ∉ actions → state.consumer.threwOn = none))
    ⟨fun _ => rfl, fun _ => rfl⟩ every _ _ reached

/-- The consumer's thread alone gets from one state to another. Its steps depend neither
on the capacity nor on the values. -/
def Alone (channel next : Channel Value) : Prop :=
  ∃ steps, (system 0 []).runFrom channel (List.replicate steps .consumer) = some next

/-- A step of the drain is one it makes alone. -/
theorem Alone.step (stepped : channel.drain = some next) (later : Alone next final) :
    Alone channel final := by
  obtain ⟨steps, reached⟩ := later
  refine ⟨steps + 1, ?_⟩
  rw [List.replicate_succ, System.runFrom]
  exact Option.bind_eq_some_iff.mpr ⟨next, stepped, reached⟩

/-- The drain need not step. -/
theorem Alone.refl (channel : Channel Value) : Alone channel channel := ⟨0, rfl⟩

/-- After the stop, `Drain` comes to an end by its own steps, a round a value. -/
theorem drain_returns_of_checkStop (queue : List Value) :
    ∀ channel : Channel Value, channel.queue = queue → channel.stop = true →
      channel.consumer = .checkStop → ∃ final, Alone channel final ∧ final.consumer.Done := by
  induction queue with
  | nil =>
      intro channel empty stopped place
      have asks : channel.drain = some { channel with consumer := .checkSize } := by
        simp only [drain, place, stopped, if_true]
      have returns : drain { channel with consumer := .checkSize } =
          some { channel with consumer := .returned } := by
        simp only [drain, empty, if_true]
      exact ⟨_, .step asks (.step returns (.refl _)), trivial⟩
  | cons value queue ih =>
      intro channel front stopped place
      have asks : channel.drain = some { channel with consumer := .checkSize } := by
        simp only [drain, place, stopped, if_true]
      have more : drain { channel with consumer := .checkSize } =
          some { channel with consumer := .consume } := by
        simp only [drain, front, reduceCtorEq, if_false]
      have consumes : drain { channel with consumer := .consume } =
          some { channel with
            consumer := .pop value, consumed := channel.consumed ++ [value] } := by
        simp only [drain, front]
      have pops : drain { channel with
            consumer := .pop value, consumed := channel.consumed ++ [value] } =
          some { channel with
            consumer := .checkStop
            queue := queue
            consumed := channel.consumed ++ [value] } := by
        simp only [drain, front, List.tail_cons]
      obtain ⟨final, reached, done⟩ := ih
        { channel with
          consumer := .checkStop
          queue := queue
          consumed := channel.consumed ++ [value] } rfl stopped rfl
      exact ⟨final, .step asks (.step more (.step consumes (.step pops reached))), done⟩

/-- Once asked to stop, the drain comes to its end by itself. -/
theorem drain_returns (stopped : channel.stop = true) :
    ∃ final, Alone channel final ∧ final.consumer.Done := by
  have onward : ∀ next : Channel Value, channel.drain = some next →
      (∃ final, Alone next final ∧ final.consumer.Done) →
        ∃ final, Alone channel final ∧ final.consumer.Done := by
    rintro next stepped ⟨final, reached, done⟩
    exact ⟨final, .step stepped reached, done⟩
  have pops : ∀ (channel : Channel Value) value, channel.stop = true →
      channel.consumer = .pop value → ∃ final, Alone channel final ∧ final.consumer.Done := by
    intro channel value stopped place
    obtain ⟨final, reached, done⟩ := drain_returns_of_checkStop channel.queue.tail
      { channel with consumer := .checkStop, queue := channel.queue.tail } rfl stopped rfl
    exact ⟨final, .step (by simp only [drain, place]) reached, done⟩
  have consumes : ∀ channel : Channel Value, channel.stop = true →
      channel.consumer = .consume → ∃ final, Alone channel final ∧ final.consumer.Done := by
    intro channel stopped place
    cases queue : channel.queue with
    | nil =>
        obtain ⟨final, reached, done⟩ := drain_returns_of_checkStop []
          { channel with consumer := .checkStop } queue stopped rfl
        exact ⟨final, .step (by simp only [drain, place, queue]) reached, done⟩
    | cons value rest =>
        obtain ⟨final, reached, done⟩ := pops
          { channel with consumer := .pop value, consumed := channel.consumed ++ [value] }
          value stopped rfl
        exact ⟨final, .step (by simp only [drain, place, queue]) reached, done⟩
  cases place : channel.consumer with
  | checkStop => exact drain_returns_of_checkStop channel.queue channel rfl stopped place
  | consume => exact consumes channel stopped place
  | pop value => exact pops channel value stopped place
  | checkSize =>
      by_cases empty : channel.queue = []
      · refine onward { channel with consumer := .returned } ?_ ⟨_, .refl _, trivial⟩
        simp only [drain, place, empty, if_true]
      · refine onward { channel with consumer := .consume } ?_ (consumes _ stopped rfl)
        simp only [drain, place, empty, if_false]
  | thrown value =>
      refine onward { channel with consumer := .failed value, failures := channel.failures + 1 }
        ?_ ⟨_, .refl _, trivial⟩
      simp only [drain, place]
  | returned | failed =>
      refine ⟨channel, .refl _, ?_⟩
      rw [place]
      trivial

end Channel

/-- **A queue loses, repeats and reorders nothing.** However the pushes, the reads of the
consumer's loop, the flag and the stop interleave, the values consumed are the first that
entered the queue, in order. If the flag is never set and the consumer does not throw,
`Drain` has consumed all the values that were to be pushed when it returns, and after the
stop it does return. A consumer that throws on a value has consumed exactly those before
it; from then on nothing is consumed, and when `Drain` has returned `on_fail` was called
once. -/
theorem drains_everything {capacity : Nat} {values : List Value} {actions : List Action}
    {channel : Channel Value}
    (reached : (system capacity values).run actions = some channel) :
    channel.consumed <+: channel.pushed ∧
      (.giveUp ∉ actions → channel.pushed <+: values) ∧
      (.giveUp ∉ actions → .throws ∉ actions → channel.consumer.Done →
        channel.consumed = values ∧ channel.failures = 0) ∧
      (channel.stop = true → ∃ final, channel.Alone final ∧ final.consumer.Done) ∧
      ∀ value, channel.consumer.threwOn = some value →
        (∃ rest, channel.pushed = channel.consumed ++ value :: rest) ∧
        (channel.consumer.Done → channel.failures = 1) ∧
        ∀ later final, (system capacity values).runFrom channel later = some final →
          final.consumed = channel.consumed ∧ final.failures ≤ 1 ∧
            (final.consumer.Done → final.failures = 1) := by
  have sound : ∀ {state : Channel Value}, (system capacity values).Reachable state →
      state.Sound values := Channel.Sound.of_reachable
  have once : ∀ {state : Channel Value} {value}, (system capacity values).Reachable state →
      state.consumer.threwOn = some value →
        state.failures ≤ 1 ∧ (state.consumer.Done → state.failures = 1) := by
    intro state value reachable threw
    have place := (sound reachable).place
    cases consumer : state.consumer with
    | failed =>
        rw [consumer] at place
        exact ⟨Nat.le_of_eq place.1, fun _ => place.1⟩
    | thrown =>
        rw [consumer] at place
        exact ⟨Nat.le_trans (Nat.le_of_eq place.1) (Nat.zero_le 1), False.elim⟩
    | checkStop | checkSize | consume | pop | returned =>
        rw [consumer] at threw
        contradiction
  have reachable : (system capacity values).Reachable channel := ⟨actions, reached⟩
  obtain ⟨keeps, runs⟩ := Channel.run_flags reached
  refine ⟨(sound reachable).consumed_first, fun never => ?_, fun never calm done => ?_,
    Channel.drain_returns, fun value threw => ⟨(sound reachable).threw threw,
      (once reachable threw).2, fun later final continued => ?_⟩⟩
  · exact ⟨_, (sound reachable).whole (keeps never)⟩
  · have whole := (sound reachable).whole (keeps never)
    have place := (sound reachable).place
    have calm := runs calm
    cases consumer : channel.consumer with
    | returned =>
        rw [consumer] at place
        obtain ⟨failures, _, stopped, pushed⟩ := place
        rw [(sound reachable).last stopped, pushed] at whole
        exact ⟨(List.append_nil _).symm.trans whole, failures⟩
    | failed =>
        rw [consumer] at calm
        contradiction
    | checkStop | checkSize | consume | pop | thrown =>
        rw [consumer] at done
        exact done.elim
  · obtain ⟨same, threw⟩ := Channel.runFrom_threw threw continued
    exact ⟨same, once (reachable.runFrom continued) threw⟩

/-- Three values go through a queue of one slot. -/
theorem drains_everything_one_slot :
    let actions : List Action :=
      [.consumer, .consumer, .producer, .producer, .producer, .consumer, .consumer, .consumer,
        .producer, .consumer, .consumer, .consumer, .producer, .requestStop, .consumer,
        .consumer, .consumer, .consumer, .consumer, .consumer]
    ∃ channel, (system 1 [10, 20, 30]).run actions = some channel ∧
      channel.consumed = [10, 20, 30] ∧ channel.failures = 0 := by
  intro actions
  have ran : ((system 1 [10, 20, 30]).run actions).isSome = true := by decide
  obtain ⟨channel, reached⟩ := Option.isSome_iff_exists.mp ran
  obtain ⟨_, _, all, _⟩ := drains_everything reached
  refine ⟨channel, reached, all (by decide) (by decide) ?_⟩
  obtain rfl := Option.some.inj reached
  trivial

end DataFeed.Core.Spsc
