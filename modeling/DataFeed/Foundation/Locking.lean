import Mathlib.Logic.Relation
import Mathlib.Order.WellFounded
import DataFeed.Foundation.Transition

/-! # Threads that wait for one another

Threads hold locks for the duration of a block, push into bounded queues until a slot is
free or the queue's consumer is known to have failed, and wait for other threads to end. What
depends on data is decided either way. Who waits for a lock, a slot or an end waits for the
thread that has to give it.

If locks, slots and ends can be ranked so that every thread waits only for what ranks below
all that it has to give to others, then no threads wait for one another
(`LockOrder.not_deadlocked`).
-/

namespace Foundation.Locking

/-- What a thread does, as far as it concerns other threads. -/
inductive Code (Lock Queue Thread : Type) where
  | skip
  | seq (first second : Code Lock Queue Thread)
  | either (first second : Code Lock Queue Thread)
  | any (branch : Nat → Code Lock Queue Thread)
  | loop (body : Code Lock Queue Thread)
  /-- Holds a lock for the duration of a block. -/
  | locked (lock : Lock) (body : Code Lock Queue Thread)
  /-- Waits for a free slot, unless the queue is given up. -/
  | push (queue : Queue)
  /-- Handles what is first in a queue, if there is anything, and frees its slot. -/
  | consume (queue : Queue) (body : Code Lock Queue Thread)
  /-- Empties a queue. -/
  | clear (queue : Queue)
  /-- Gives a queue up. -/
  | fail (queue : Queue)
  /-- Takes back that a queue is given up. -/
  | reset (queue : Queue)
  /-- Waits for a thread to end. -/
  | join (thread : Thread)
  /-- Starts a thread, once the last one of its name has ended. -/
  | start (thread : Thread)

/-- What a thread has left to do. -/
inductive Frame (Lock Queue Thread : Type) where
  | run (code : Code Lock Queue Thread)
  | unlock (lock : Lock)
  | free (queue : Queue)

/-- What a thread may wait for. -/
inductive Resource (Lock Queue Thread : Type) where
  | lock (lock : Lock)
  | slot (queue : Queue)
  | ending (thread : Thread)

variable {Lock Queue Thread : Type}

/-- One of several codes, or nothing. -/
def Code.oneOf (codes : List (Code Lock Queue Thread)) : Code Lock Queue Thread :=
  codes.foldr .either .skip

/-- What a thread waits for before it goes on with a frame, if that is not there. -/
def Frame.awaits : Frame Lock Queue Thread → Option (Resource Lock Queue Thread)
  | .run (.locked lock _) => some (.lock lock)
  | .run (.push queue) => some (.slot queue)
  | .run (.join thread) => some (.ending thread)
  | .run (.start thread) => some (.ending thread)
  | _ => none

/-- A lock is let go of. -/
def Frame.unlocks : Frame Lock Queue Thread → Bool
  | .unlock _ => true
  | _ => false

/-- The threads of a program and their queues. -/
structure Program (Lock Queue Thread : Type) where
  code : Thread → Code Lock Queue Thread
  /-- The threads that run from the beginning. -/
  runs : Thread → Bool
  capacity : Queue → Nat
  /-- The thread that frees the slots of a queue. -/
  consumer : Queue → Thread
  /-- The queue that a thread gives up as an exception ends it, if it catches any. -/
  fails : Thread → Option Queue

/-- What is left to do for each thread that has not ended, and what the threads share. -/
structure State (Lock Queue Thread : Type) where
  stack : Thread → Option (List (Frame Lock Queue Thread))
  owner : Lock → Option Thread
  length : Queue → Nat
  failed : Queue → Bool

/-- Who takes a step. -/
inductive Action (Thread : Type) where
  /-- A thread goes on, in the way that is chosen if there is a choice. -/
  | go (thread : Thread) (choice : Nat)
  /-- An exception is thrown in a thread that catches it as its last. -/
  | throw (thread : Thread)

section Steps

variable [DecidableEq Lock] [DecidableEq Queue] [DecidableEq Thread]
  (program : Program Lock Queue Thread) (state : State Lock Queue Thread)

/-- The threads as the program begins. -/
def State.init : State Lock Queue Thread where
  stack thread := if program.runs thread then some [.run (program.code thread)] else none
  owner _ := none
  length _ := 0
  failed _ := false

/-- Leaves a thread with something to do. -/
def State.goOn (thread : Thread) (stack : List (Frame Lock Queue Thread)) :
    State Lock Queue Thread :=
  { state with stack := Function.update state.stack thread (some stack) }

/-- A step of a thread that has some code before it, and something to do after that. -/
def codeStep (thread : Thread) (choice : Nat) (rest : List (Frame Lock Queue Thread)) :
    Code Lock Queue Thread → Option (State Lock Queue Thread)
  | .skip => some (state.goOn thread rest)
  | .seq first second => some (state.goOn thread (.run first :: .run second :: rest))
  | .either first second =>
      some (state.goOn thread (.run (if choice = 0 then first else second) :: rest))
  | .any branch => some (state.goOn thread (.run (branch choice) :: rest))
  | .loop body =>
      some (state.goOn thread (if choice = 0 then rest else .run body :: .run (.loop body) :: rest))
  | .locked lock body =>
      if state.owner lock = none then
        some { state.goOn thread (.run body :: .unlock lock :: rest) with
          owner := Function.update state.owner lock (some thread) }
      else none
  | .push queue =>
      if state.length queue < program.capacity queue then
        some { state.goOn thread rest with
          length := Function.update state.length queue (state.length queue + 1) }
      else if state.failed queue then some (state.goOn thread rest)
      else none
  | .consume queue body =>
      some (state.goOn thread
        (if state.length queue = 0 then rest else .run body :: .free queue :: rest))
  | .clear queue =>
      some { state.goOn thread rest with length := Function.update state.length queue 0 }
  | .fail queue =>
      some { state.goOn thread rest with failed := Function.update state.failed queue true }
  | .reset queue =>
      some { state.goOn thread rest with failed := Function.update state.failed queue false }
  | .join other => if state.stack other = none then some (state.goOn thread rest) else none
  | .start other =>
      if state.stack other = none then
        some ((state.goOn thread rest).goOn other [.run (program.code other)])
      else none

/-- A step of a thread that has not ended. -/
def frameStep (thread : Thread) (choice : Nat) :
    List (Frame Lock Queue Thread) → Option (State Lock Queue Thread)
  | [] => some { state with stack := Function.update state.stack thread none }
  | .run code :: rest => codeStep program state thread choice rest code
  | .unlock lock :: rest =>
      some { state.goOn thread rest with owner := Function.update state.owner lock none }
  | .free queue :: rest =>
      some { state.goOn thread rest with
        length := Function.update state.length queue (state.length queue - 1) }

/-- What a step does, if it is possible. An exception leaves a thread with the locks it holds
to let go of, and its queue to give up. -/
def step : Action Thread → Option (State Lock Queue Thread)
  | .go thread choice => (state.stack thread).bind (frameStep program state thread choice)
  | .throw thread =>
      (program.fails thread).bind fun queue => (state.stack thread).map fun stack =>
        state.goOn thread (stack.filter Frame.unlocks ++ [.run (.fail queue)])

/-- The threads of a program, in every order. -/
def system : System (State Lock Queue Thread) (Action Thread) where
  init := .init program
  step := step program

end Steps

section Waiting

variable (program : Program Lock Queue Thread) (state : State Lock Queue Thread)

/-- A thread has to give what others wait for: a lock that it holds, a slot of its queue, its
end. -/
def Owes (thread : Thread) : Resource Lock Queue Thread → Prop
  | .lock lock => state.owner lock = some thread
  | .slot queue => program.consumer queue = thread ∧
      ¬ state.length queue < program.capacity queue ∧ state.failed queue = false
  | .ending ended => ended = thread ∧ state.stack ended ≠ none

/-- A thread waits for another. -/
def Waits (thread other : Thread) : Prop :=
  ∃ frame rest resource, state.stack thread = some (frame :: rest) ∧
    frame.awaits = some resource ∧ Owes program state other resource

/-- Some threads each wait for one of them. -/
def Deadlocked : Prop :=
  ∃ threads : Set Thread, threads.Nonempty ∧
    ∀ thread ∈ threads, ∃ other ∈ threads, Waits program state thread other

end Waiting

section Blocked

variable [DecidableEq Lock] [DecidableEq Queue] [DecidableEq Thread]
  {program : Program Lock Queue Thread} {state : State Lock Queue Thread} {thread : Thread}

/-- A frame is in the way if and only if someone has to give what it waits for. -/
theorem frameStep_eq_none_iff {choice : Nat} {frame : Frame Lock Queue Thread}
    {rest : List (Frame Lock Queue Thread)} :
    frameStep program state thread choice (frame :: rest) = none ↔
      ∃ resource, frame.awaits = some resource ∧ ∃ other, Owes program state other resource := by
  cases frame with
  | unlock lock => simp [frameStep, Frame.awaits]
  | free queue => simp [frameStep, Frame.awaits]
  | run code =>
      cases code with
      | skip | seq | either | any | loop | consume | clear | fail | reset =>
          simp [frameStep, codeStep, Frame.awaits]
      | locked lock body =>
          simp [frameStep, codeStep, Frame.awaits, Owes, Option.ne_none_iff_exists']
      | push queue =>
          by_cases room : state.length queue < program.capacity queue
          · simp [frameStep, codeStep, Frame.awaits, Owes, room]
          · have full := Nat.not_lt.mp room
            cases given_up : state.failed queue <;>
              simp [frameStep, codeStep, Frame.awaits, Owes, room, full, given_up]
      | join other => simp [frameStep, codeStep, Frame.awaits, Owes]
      | start other => simp [frameStep, codeStep, Frame.awaits, Owes]

/-- **Who waits.** A thread that has not ended cannot go on, whatever it chooses, if and only
if it waits for some thread. -/
theorem step_eq_none_iff {choice : Nat} (running : state.stack thread ≠ none) :
    step program state (.go thread choice) = none ↔
      ∃ other, Waits program state thread other := by
  obtain ⟨stack, left⟩ := Option.ne_none_iff_exists'.mp running
  have steps : step program state (.go thread choice) =
      frameStep program state thread choice stack := by
    rw [step, left, Option.bind_some]
  rw [steps]
  cases stack with
  | nil =>
      refine ⟨(fun same => by cases same), ?_⟩
      rintro ⟨other, frame, rest, resource, same, _⟩
      cases left.symm.trans same
  | cons frame rest =>
      rw [frameStep_eq_none_iff]
      constructor
      · rintro ⟨resource, awaited, other, owed⟩
        exact ⟨other, frame, rest, resource, left, awaited, owed⟩
      · rintro ⟨other, _, _, resource, same, awaited, owed⟩
        cases left.symm.trans same
        exact ⟨resource, awaited, other, owed⟩

end Blocked

section Holding

/-- Who holds a lock has still to let go of it. -/
def Held (owner : Lock → Option Thread)
    (left : Thread → Option (List (Frame Lock Queue Thread))) : Prop :=
  ∀ lock thread, owner lock = some thread → ∃ stack ∈ left thread, .unlock lock ∈ stack

variable {owner : Lock → Option Thread}
  {left : Thread → Option (List (Frame Lock Queue Thread))} {thread : Thread}
  {stack rest : List (Frame Lock Queue Thread)}

/-- A thread that owns a lock has yet to unlock it. -/
theorem Held.mem {lock : Lock} (held : Held owner left) (owned : owner lock = some thread)
    (found : left thread = some stack) : .unlock lock ∈ stack := by
  obtain ⟨other, member, unlocks⟩ := held lock thread owned
  obtain rfl := Option.some.inj (found.symm.trans member)
  exact unlocks

variable [DecidableEq Thread]

/-- A thread goes on, with every lock of its own still to unlock. -/
theorem Held.update (held : Held owner left)
    (kept : ∀ lock, owner lock = some thread → .unlock lock ∈ stack) :
    Held owner (Function.update left thread (some stack)) := by
  intro lock other owned
  by_cases same : other = thread
  · subst same
    rw [Function.update_self]
    exact ⟨stack, rfl, kept lock owned⟩
  · rw [Function.update_of_ne same]
    exact held lock other owned

/-- A thread ends when it holds nothing, or starts when it has held nothing. -/
theorem Held.update_of_free {left' : Option (List (Frame Lock Queue Thread))}
    (held : Held owner left) (free : ∀ lock, owner lock ≠ some thread) :
    Held owner (Function.update left thread left') := by
  intro lock other owned
  have differ : other ≠ thread := by
    rintro rfl
    exact free lock owned
  rw [Function.update_of_ne differ]
  exact held lock other owned

variable [DecidableEq Lock]

/-- A thread takes a lock that it will unlock. -/
theorem Held.lock {lock : Lock} (held : Held owner (Function.update left thread (some stack)))
    (unlocks : .unlock lock ∈ stack) :
    Held (Function.update owner lock (some thread))
      (Function.update left thread (some stack)) := by
  intro other holder owned
  by_cases same : other = lock
  · subst same
    rw [Function.update_self] at owned
    obtain rfl := Option.some.inj owned
    exact ⟨stack, Function.update_self .., unlocks⟩
  · rw [Function.update_of_ne same] at owned
    exact held other holder owned

/-- A thread unlocks. -/
theorem Held.unlock {lock : Lock} (held : Held owner left)
    (found : left thread = some (.unlock lock :: rest)) :
    Held (Function.update owner lock none) (Function.update left thread (some rest)) := by
  intro other holder owned
  have differ : other ≠ lock := by
    rintro rfl
    rw [Function.update_self] at owned
    cases owned
  rw [Function.update_of_ne differ] at owned
  by_cases same : holder = thread
  · subst same
    refine ⟨rest, Function.update_self .., ?_⟩
    exact List.mem_of_ne_of_mem (fun same => differ (Frame.unlock.inj same)) (held.mem owned found)
  · rw [Function.update_of_ne same]
    exact held other holder owned

variable [DecidableEq Queue] {program : Program Lock Queue Thread}
  {state next : State Lock Queue Thread}

/-- A step of a thread's code. -/
theorem Held.codeStep {choice : Nat} {code : Code Lock Queue Thread}
    (held : Held state.owner state.stack)
    (kept : ∀ lock, state.owner lock = some thread → .unlock lock ∈ rest)
    (stepped : codeStep program state thread choice rest code = some next) :
    Held next.owner next.stack := by
  have pushed : ∀ frames : List (Frame Lock Queue Thread),
      Held state.owner (Function.update state.stack thread (some (frames ++ rest))) :=
    fun frames => held.update fun lock owned => List.mem_append_right frames (kept lock owned)
  cases code with
  | skip | clear | fail | reset =>
      obtain rfl := Option.some.inj stepped
      exact pushed []
  | seq first second =>
      obtain rfl := Option.some.inj stepped
      exact pushed [.run first, .run second]
  | either first second =>
      obtain rfl := Option.some.inj stepped
      exact pushed [.run (if choice = 0 then first else second)]
  | any branch =>
      obtain rfl := Option.some.inj stepped
      exact pushed [.run (branch choice)]
  | loop body =>
      simp only [Locking.codeStep] at stepped
      obtain rfl := Option.some.inj stepped
      split
      · exact pushed []
      · exact pushed [.run body, .run (.loop body)]
  | consume queue body =>
      simp only [Locking.codeStep] at stepped
      obtain rfl := Option.some.inj stepped
      split
      · exact pushed []
      · exact pushed [.run body, .free queue]
  | locked lock body =>
      obtain ⟨_, rfl⟩ := Option.ite_some_none_eq_some.mp stepped
      exact (pushed [.run body, .unlock lock]).lock
        (List.mem_cons_of_mem _ List.mem_cons_self)
  | push queue =>
      simp only [Locking.codeStep] at stepped
      split at stepped
      · obtain rfl := Option.some.inj stepped
        exact pushed []
      · obtain ⟨_, rfl⟩ := Option.ite_some_none_eq_some.mp stepped
        exact pushed []
  | join other =>
      obtain ⟨_, rfl⟩ := Option.ite_some_none_eq_some.mp stepped
      exact pushed []
  | start other =>
      obtain ⟨ended, rfl⟩ := Option.ite_some_none_eq_some.mp stepped
      refine (pushed []).update_of_free ?_
      intro lock owned
      obtain ⟨stack, found, _⟩ := held lock other owned
      cases ended.symm.trans found

/-- Every step keeps it so that locks are still to be let go of. -/
theorem Held.step {action : Action Thread} (held : Held state.owner state.stack)
    (stepped : step program state action = some next) : Held next.owner next.stack := by
  cases action with
  | go thread choice =>
      obtain ⟨stack, found, stepped⟩ := Option.bind_eq_some_iff.mp stepped
      cases stack with
      | nil =>
          obtain rfl := Option.some.inj stepped
          refine held.update_of_free ?_
          intro lock owned
          cases held.mem owned found
      | cons frame rest =>
          cases frame with
          | run code =>
              refine held.codeStep ?_ stepped
              intro lock owned
              exact List.mem_of_ne_of_mem (fun same => by cases same) (held.mem owned found)
          | unlock lock =>
              obtain rfl := Option.some.inj stepped
              exact held.unlock found
          | free queue =>
              obtain rfl := Option.some.inj stepped
              refine held.update ?_
              intro lock owned
              exact List.mem_of_ne_of_mem (fun same => by cases same) (held.mem owned found)
  | throw thread =>
      obtain ⟨queue, _, stepped⟩ := Option.bind_eq_some_iff.mp stepped
      obtain ⟨stack, found, rfl⟩ := Option.map_eq_some_iff.mp stepped
      refine held.update ?_
      intro lock owned
      exact List.mem_append_left _ (List.mem_filter.mpr ⟨held.mem owned found, rfl⟩)

/-- Every lock that is owned has yet to be unlocked, in every reachable state. -/
theorem held_of_reachable (reachable : (system program).Reachable state) :
    Held state.owner state.stack := by
  refine @System.Reachable.invariant _ _ _ (fun state => Held state.owner state.stack) _ reachable
    ?_ fun _ _ _ held stepped => held.step stepped
  intro lock thread owned
  cases owned

end Holding

section Order

/-- Code waits only for what ranks below a level, and in a block only for what ranks below
its lock. -/
def Code.Below {Rank : Type} [LT Rank] (rank : Resource Lock Queue Thread → Rank)
    (level : Rank) : Code Lock Queue Thread → Prop
  | .skip | .clear _ | .fail _ | .reset _ => True
  | .seq first second | .either first second => first.Below rank level ∧ second.Below rank level
  | .any branch => ∀ choice, (branch choice).Below rank level
  | .loop body | .consume _ body => body.Below rank level
  | .locked lock body => rank (.lock lock) < level ∧ body.Below rank (rank (.lock lock))
  | .push queue => rank (.slot queue) < level
  | .join thread | .start thread => rank (.ending thread) < level

/-- A choice is below a level if each of its codes is. -/
theorem Code.below_oneOf {Rank : Type} [LT Rank] {rank : Resource Lock Queue Thread → Rank}
    {level : Rank} {codes : List (Code Lock Queue Thread)}
    (below : ∀ code ∈ codes, code.Below rank level) : (Code.oneOf codes).Below rank level := by
  induction codes with
  | nil => trivial
  | cons first rest ih =>
      obtain ⟨head, tail⟩ := List.forall_mem_cons.mp below
      exact ⟨head, ih tail⟩

/-- A ranking of what is waited for. Every thread waits only for what ranks below its end,
the slots it frees and the locks it holds. -/
structure LockOrder (program : Program Lock Queue Thread) (Rank : Type) [Preorder Rank] where
  rank : Resource Lock Queue Thread → Rank
  /-- A bound for what a thread that holds no locks may wait for. -/
  base : Thread → Rank
  base_le_ending : ∀ thread, base thread ≤ rank (.ending thread)
  base_le_slot : ∀ queue, base (program.consumer queue) ≤ rank (.slot queue)
  below : ∀ thread, (program.code thread).Below rank (base thread)

namespace LockOrder

variable {program : Program Lock Queue Thread} {Rank : Type} [Preorder Rank]
  (order : LockOrder program Rank)

/-- The lowest rank among the locks that a thread has still to let go of, or its base. -/
def level (thread : Thread) : List (Frame Lock Queue Thread) → Rank
  | [] => order.base thread
  | .unlock lock :: _ => order.rank (.lock lock)
  | .run _ :: rest => level thread rest
  | .free _ :: rest => level thread rest

/-- Each frame waits only for what ranks below the locks that are let go of after it. -/
def Ordered (thread : Thread) : List (Frame Lock Queue Thread) → Prop
  | [] => True
  | .unlock lock :: rest => order.rank (.lock lock) < order.level thread rest ∧
      Ordered thread rest
  | .run code :: rest => code.Below order.rank (order.level thread rest) ∧ Ordered thread rest
  | .free _ :: rest => Ordered thread rest

/-- The stacks of all threads are ordered. -/
def Orderly (left : Thread → Option (List (Frame Lock Queue Thread))) : Prop :=
  ∀ thread, ∀ stack ∈ left thread, order.Ordered thread stack

/-- The level that a thread is at. -/
def levelAt (state : State Lock Queue Thread) (thread : Thread) : Rank :=
  match state.stack thread with
  | some stack => order.level thread stack
  | none => order.base thread

variable {order} {thread : Thread} {stack rest : List (Frame Lock Queue Thread)}

/-- No stack is above its thread's base. -/
theorem Ordered.level_le_base (ordered : order.Ordered thread stack) :
    order.level thread stack ≤ order.base thread := by
  induction stack with
  | nil => exact le_rfl
  | cons frame rest ih =>
      cases frame with
      | run code => exact ih ordered.2
      | unlock lock => exact ordered.1.le.trans (ih ordered.2)
      | free queue => exact ih ordered

/-- A lock that is held ranks no lower than the level. -/
theorem Ordered.level_le_lock {lock : Lock} (ordered : order.Ordered thread stack)
    (held : .unlock lock ∈ stack) : order.level thread stack ≤ order.rank (.lock lock) := by
  induction stack with
  | nil => cases held
  | cons frame rest ih =>
      cases frame with
      | run code => exact ih ordered.2 (List.mem_of_ne_of_mem (fun same => by cases same) held)
      | free queue => exact ih ordered (List.mem_of_ne_of_mem (fun same => by cases same) held)
      | unlock other =>
          rcases List.mem_cons.mp held with same | later
          · cases same
            exact le_rfl
          · exact ordered.1.le.trans (ih ordered.2 later)

/-- What is waited for ranks below the level. -/
theorem Ordered.awaits_lt {frame : Frame Lock Queue Thread} {resource : Resource Lock Queue Thread}
    (ordered : order.Ordered thread (frame :: rest)) (awaited : frame.awaits = some resource) :
    order.rank resource < order.level thread (frame :: rest) := by
  cases frame with
  | unlock lock => cases awaited
  | free queue => cases awaited
  | run code =>
      cases code <;> cases awaited
      · exact ordered.1.1
      · exact ordered.1
      · exact ordered.1
      · exact ordered.1

/-- An exception lets go of the same locks. -/
theorem level_unlocks (frames : List (Frame Lock Queue Thread)) (queue : Queue) :
    order.level thread (frames.filter Frame.unlocks ++ [.run (.fail queue)]) =
      order.level thread frames := by
  induction frames with
  | nil => rfl
  | cons frame frames ih =>
      cases frame with
      | run code => exact ih
      | unlock lock => rfl
      | free freed => exact ih

/-- A thread whose queue failed only unlocks. -/
theorem Ordered.unlocks (ordered : order.Ordered thread stack) (queue : Queue) :
    order.Ordered thread (stack.filter Frame.unlocks ++ [.run (.fail queue)]) := by
  induction stack with
  | nil => exact ⟨trivial, trivial⟩
  | cons frame rest ih =>
      cases frame with
      | run code => exact ih ordered.2
      | free freed => exact ih ordered
      | unlock lock =>
          refine ⟨?_, ih ordered.2⟩
          have below := ordered.1
          rw [← level_unlocks rest queue] at below
          exact below

/-- Every thread begins in order. -/
theorem orderly_init : order.Orderly (State.init program).stack := by
  intro thread stack found
  obtain ⟨_, rfl⟩ := Option.ite_some_none_eq_some.mp found
  exact ⟨order.below thread, trivial⟩

section Steps

variable [DecidableEq Thread] {left : Thread → Option (List (Frame Lock Queue Thread))}

/-- A thread goes on in order. -/
theorem Orderly.update (orderly : order.Orderly left) (ordered : order.Ordered thread stack) :
    order.Orderly (Function.update left thread (some stack)) := by
  intro other found member
  by_cases same : other = thread
  · subst same
    rw [Function.update_self] at member
    exact Option.some.inj member ▸ ordered
  · rw [Function.update_of_ne same] at member
    exact orderly other found member

/-- A thread has ended. -/
theorem Orderly.ended (orderly : order.Orderly left) :
    order.Orderly (Function.update left thread none) := by
  intro other found member
  by_cases same : other = thread
  · subst same
    rw [Function.update_self] at member
    cases member
  · rw [Function.update_of_ne same] at member
    exact orderly other found member

variable [DecidableEq Lock] [DecidableEq Queue] {state next : State Lock Queue Thread}

/-- A step of a thread's code keeps the order. -/
theorem Orderly.codeStep {choice : Nat} {code : Code Lock Queue Thread}
    (orderly : order.Orderly state.stack)
    (below : code.Below order.rank (order.level thread rest)) (ordered : order.Ordered thread rest)
    (stepped : codeStep program state thread choice rest code = some next) :
    order.Orderly next.stack := by
  cases code with
  | skip | clear | fail | reset =>
      obtain rfl := Option.some.inj stepped
      exact orderly.update ordered
  | seq first second =>
      obtain rfl := Option.some.inj stepped
      exact orderly.update ⟨below.1, below.2, ordered⟩
  | either first second =>
      obtain rfl := Option.some.inj stepped
      refine orderly.update ⟨?_, ordered⟩
      split
      · exact below.1
      · exact below.2
  | any branch =>
      obtain rfl := Option.some.inj stepped
      exact orderly.update ⟨below choice, ordered⟩
  | loop body =>
      obtain rfl := Option.some.inj stepped
      apply orderly.update
      split
      · exact ordered
      · exact ⟨below, below, ordered⟩
  | consume queue body =>
      obtain rfl := Option.some.inj stepped
      apply orderly.update
      split
      · exact ordered
      · exact ⟨below, ordered⟩
  | locked lock body =>
      obtain ⟨_, rfl⟩ := Option.ite_some_none_eq_some.mp stepped
      exact orderly.update ⟨below.2, below.1, ordered⟩
  | push queue =>
      simp only [Locking.codeStep] at stepped
      split at stepped
      · obtain rfl := Option.some.inj stepped
        exact orderly.update ordered
      · obtain ⟨_, rfl⟩ := Option.ite_some_none_eq_some.mp stepped
        exact orderly.update ordered
  | join other =>
      obtain ⟨_, rfl⟩ := Option.ite_some_none_eq_some.mp stepped
      exact orderly.update ordered
  | start other =>
      obtain ⟨_, rfl⟩ := Option.ite_some_none_eq_some.mp stepped
      exact (orderly.update ordered).update ⟨order.below other, trivial⟩

/-- Every step keeps the stacks in order. -/
theorem Orderly.step {action : Action Thread} (orderly : order.Orderly state.stack)
    (stepped : step program state action = some next) : order.Orderly next.stack := by
  cases action with
  | go thread choice =>
      obtain ⟨stack, found, stepped⟩ := Option.bind_eq_some_iff.mp stepped
      have ordered := orderly thread stack found
      cases stack with
      | nil =>
          obtain rfl := Option.some.inj stepped
          exact orderly.ended
      | cons frame rest =>
          cases frame with
          | run code => exact orderly.codeStep ordered.1 ordered.2 stepped
          | unlock lock =>
              obtain rfl := Option.some.inj stepped
              exact orderly.update ordered.2
          | free queue =>
              obtain rfl := Option.some.inj stepped
              exact orderly.update ordered
  | throw thread =>
      obtain ⟨queue, _, stepped⟩ := Option.bind_eq_some_iff.mp stepped
      obtain ⟨stack, found, rfl⟩ := Option.map_eq_some_iff.mp stepped
      exact orderly.update ((orderly thread stack found).unlocks queue)

/-- Every thread is in order in every reachable state. -/
theorem orderly_of_reachable (reachable : (system program).Reachable state) :
    order.Orderly state.stack :=
  @System.Reachable.invariant _ _ _ (fun state => order.Orderly state.stack) _ reachable
    orderly_init fun _ _ _ orderly stepped => orderly.step stepped

end Steps

/-- What a thread has to give ranks no lower than its level. -/
theorem levelAt_le_of_owes {state : State Lock Queue Thread}
    {resource : Resource Lock Queue Thread} (orderly : order.Orderly state.stack)
    (held : Held state.owner state.stack) (owes : Owes program state thread resource) :
    order.levelAt state thread ≤ order.rank resource := by
  have base : order.levelAt state thread ≤ order.base thread := by
    unfold levelAt
    split
    · rename_i stack found
      exact (orderly thread stack found).level_le_base
    · exact le_rfl
  cases resource with
  | ending ended =>
      obtain ⟨rfl, _⟩ := owes
      exact base.trans (order.base_le_ending ended)
  | slot queue =>
      obtain ⟨rfl, _⟩ := owes
      exact base.trans (order.base_le_slot queue)
  | lock lock =>
      obtain ⟨stack, found, unlocks⟩ := held lock thread owes
      unfold levelAt
      rw [found]
      exact (orderly thread stack found).level_le_lock unlocks

/-- Who is waited for is at a lower level. -/
theorem levelAt_lt_of_waits {state : State Lock Queue Thread} {other : Thread}
    (orderly : order.Orderly state.stack) (held : Held state.owner state.stack)
    (waits : Waits program state thread other) :
    order.levelAt state other < order.levelAt state thread := by
  obtain ⟨frame, rest, resource, found, awaited, owes⟩ := waits
  refine (levelAt_le_of_owes orderly held owes).trans_lt ?_
  unfold levelAt
  rw [found]
  exact (orderly thread _ found).awaits_lt awaited

variable [DecidableEq Lock] [DecidableEq Queue] [DecidableEq Thread] [WellFoundedLT Rank]
  {state : State Lock Queue Thread}

/-- **No threads wait for one another**, whatever the order of the steps. -/
theorem not_deadlocked (order : LockOrder program Rank)
    (reachable : (system program).Reachable state) : ¬ Deadlocked program state := by
  rintro ⟨threads, nonempty, each⟩
  have orderly := @orderly_of_reachable _ _ _ _ _ _ order _ _ _ _ reachable
  have held := held_of_reachable reachable
  obtain ⟨thread, member, least⟩ :=
    (InvImage.wf (order.levelAt state) wellFounded_lt).has_min threads nonempty
  obtain ⟨other, among, waits⟩ := each thread member
  exact least other among (levelAt_lt_of_waits orderly held waits)

/-- Who waits does so in the end for a thread that can go on, or that has left a full queue. -/
theorem waits_for_going (order : LockOrder program Rank)
    (reachable : (system program).Reachable state) (thread : Thread) :
    ∃ other, Relation.ReflTransGen (Waits program state) thread other ∧
      (state.stack other = none ∨ ∀ choice, step program state (.go other choice) ≠ none) := by
  have orderly := @orderly_of_reachable _ _ _ _ _ _ order _ _ _ _ reachable
  have held := held_of_reachable reachable
  induction thread using (InvImage.wf (order.levelAt state) wellFounded_lt).induction with
  | h thread ih =>
      by_cases waiting : ∃ other, Waits program state thread other
      · obtain ⟨next, waits⟩ := waiting
        obtain ⟨other, later, goes⟩ := ih next (levelAt_lt_of_waits orderly held waits)
        exact ⟨other, .head waits later, goes⟩
      · refine ⟨thread, .refl, ?_⟩
        by_cases ended : state.stack thread = none
        · exact .inl ended
        · exact .inr fun choice blocked => waiting ((step_eq_none_iff ended).mp blocked)

end LockOrder

end Order

end Foundation.Locking
