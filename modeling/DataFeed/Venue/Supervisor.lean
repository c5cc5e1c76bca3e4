import DataFeed.Core.Scaling
import DataFeed.Foundation.Transition
import DataFeed.Venue.SubscriptionId

/-! # Reconnecting venues

The supervisor looks at each venue in passes, and connects those that are not healthy and
are due. How long a venue waits after a failure is found from its own failures only, and
no attempt is begun before that (`supervisor_waits`), as long as no time that is computed
leaves the range of the clock.
-/

namespace DataFeed.Venue

open Foundation DataFeed.Core

/-- The waits after failures, in milliseconds. -/
structure Backoff where
  initial : Int64
  max : Int64
  deriving DecidableEq, Repr

/-- When a venue is next tried, in nanoseconds of the clock, and how long it waits if that
fails. -/
structure Retry where
  nextAttempt : Int64
  delay : Int64
  deriving DecidableEq, Repr

/-- Where the supervisor is. -/
inductive SupervisorPlace where
  | between
  /-- In a pass that began at a time, with some venues left. -/
  | looking (now : Int64) (left : List VenueId)
  /-- About to connect a venue. -/
  | due (now : Int64) (venue : VenueId) (left : List VenueId)
  | connecting (now : Int64) (venue : VenueId) (left : List VenueId)
  deriving DecidableEq, Repr

/-- What the supervisor did. -/
inductive SupervisorEvent where
  | found (venue : VenueId) (healthy : Bool)
  | started (venue : VenueId) (time : Int64)
  | connected (venue : VenueId)
  /-- An attempt ended in a failure, and the clock was read after it. -/
  | failed (venue : VenueId) (ended read : Int64)
  deriving DecidableEq, Repr

namespace SupervisorEvent

/-- The venue that an event is about. -/
def venue : SupervisorEvent → VenueId
  | found venue _ | started venue _ | connected venue | failed venue _ _ => venue

end SupervisorEvent

/-- The supervisor, the clock, and what it did, the last first. -/
structure Supervisor where
  retries : VenueId → Retry
  place : SupervisorPlace
  clock : Int64
  history : List SupervisorEvent

namespace Supervisor

/-- A supervisor that has just been started, at some time. -/
def init (backoff : Backoff) (clock : Int64) : Supervisor where
  retries _ := ⟨0, backoff.initial⟩
  place := .between
  clock := clock
  history := []

/-- The steps of the supervisor, with what the clock and the venues say. -/
inductive Action where
  /-- A pass begins. -/
  | begin (now : Int64)
  /-- Asks the next venue, and skips it if it is healthy or not due. -/
  | look (healthy : Bool)
  | connect (time : Int64)
  | succeed (time : Int64)
  /-- The attempt fails, and the clock is read. -/
  | fail (ended read : Int64)
  /-- The pass is over. -/
  | sleep
  deriving DecidableEq, Repr

/-- What becomes of a venue's waits after a failure, with the arithmetic of 64 bits. -/
def retryAfter (backoff : Backoff) (retry : Retry) (read : Int64) : Retry where
  nextAttempt := read + retry.delay * 1000000
  delay := if backoff.max < retry.delay * 2 then backoff.max else retry.delay * 2

variable (backoff : Backoff) (managers : List VenueId) (state : Supervisor)

/-- What a step does, if it is possible. -/
def step : Action → Option Supervisor
  | .begin now =>
      match state.place with
      | .between =>
          if state.clock ≤ now then
            some { state with place := .looking now managers, clock := now }
          else none
      | _ => none
  | .look healthy =>
      match state.place with
      | .looking now (venue :: left) =>
          some { state with
            place :=
              if healthy ∨ now < (state.retries venue).nextAttempt then .looking now left
              else .due now venue left
            history := .found venue healthy :: state.history }
      | _ => none
  | .connect time =>
      match state.place with
      | .due now venue left =>
          if state.clock ≤ time then
            some { state with
              place := .connecting now venue left
              clock := time
              history := .started venue time :: state.history }
          else none
      | _ => none
  | .succeed time =>
      match state.place with
      | .connecting now venue left =>
          if state.clock ≤ time then
            some { state with
              retries := Function.update state.retries venue
                { state.retries venue with delay := backoff.initial }
              place := .looking now left
              clock := time
              history := .connected venue :: state.history }
          else none
      | _ => none
  | .fail ended read =>
      match state.place with
      | .connecting now venue left =>
          if state.clock ≤ ended ∧ ended ≤ read then
            some { state with
              retries := Function.update state.retries venue
                (retryAfter backoff (state.retries venue) read)
              place := .looking now left
              clock := read
              history := .failed venue ended read :: state.history }
          else none
      | _ => none
  | .sleep =>
      match state.place with
      | .looking _ [] => some { state with place := .between }
      | _ => none

/-- The supervisor of some venues, with every clock and every answer of the venues. -/
def system (clock : Int64) : System Supervisor Action where
  init := init backoff clock
  step := step backoff managers

end Supervisor

/-! ## The waits that are meant -/

namespace Backoff

variable (backoff : Backoff)

/-- The wait after some failures and one more, in milliseconds. -/
def wait (failures : Nat) : Int := min (backoff.initial.toInt * 2 ^ failures) backoff.max.toInt

end Backoff

/-- The failures of a venue since it was last connected. -/
def failures (venue : VenueId) : List SupervisorEvent → Nat
  | [] => 0
  | .connected other :: past => if other = venue then 0 else failures venue past
  | .failed other _ _ :: past => if other = venue then failures venue past + 1 else failures venue past
  | .found _ _ :: past | .started _ _ :: past => failures venue past

/-- The time before which a venue is not tried: its wait after the last reading of the clock
that followed a failure of its. -/
def dueAt (backoff : Backoff) (venue : VenueId) : List SupervisorEvent → Int
  | [] => 0
  | .failed other _ read :: past =>
      if other = venue then read.toInt + backoff.wait (failures venue past) * 1000000
      else dueAt backoff venue past
  | .found _ _ :: past | .started _ _ :: past | .connected _ :: past => dueAt backoff venue past

/-- An event is the outcome of an attempt of a venue. -/
def SupervisorEvent.Settles (venue : VenueId) : SupervisorEvent → Prop
  | .connected other | .failed other _ _ => other = venue
  | .found _ _ | .started _ _ => False

/-- Every attempt is of a venue that has just been found unhealthy, and not before the wait
after its last failure has passed. -/
def Backoff.Respected (backoff : Backoff) (history : List SupervisorEvent) : Prop :=
  ∀ later venue time past, history = later ++ .started venue time :: past →
    past.head? = some (.found venue false) ∧
      ∀ between ended read before, past = between ++ .failed venue ended read :: before →
        (∀ event ∈ between, ¬ event.Settles venue) →
          ended.toInt + backoff.wait (failures venue before) * 1000000 ≤ time.toInt

/-! ## What holds in every pass -/

section Wait

variable {backoff : Backoff}

/-- After no failure the wait is the initial one. -/
theorem Backoff.wait_zero (ordered : backoff.initial ≤ backoff.max) :
    backoff.wait 0 = backoff.initial.toInt := by
  unfold wait
  rw [pow_zero, mul_one]
  exact min_eq_left (Int64.le_iff_toInt_le.mp ordered)

/-- Each further wait is twice as long, up to the maximum. -/
theorem Backoff.wait_succ (positive : 0 < backoff.initial) (ordered : backoff.initial ≤ backoff.max)
    (count : Nat) : backoff.wait (count + 1) = min (backoff.wait count * 2) backoff.max.toInt := by
  have initial : 0 < backoff.initial.toInt := Int64.lt_iff_toInt_lt.mp positive
  have most : backoff.initial.toInt ≤ backoff.max.toInt := Int64.le_iff_toInt_le.mp ordered
  unfold wait
  rw [pow_succ, ← mul_assoc]
  generalize backoff.initial.toInt * 2 ^ count = grown
  omega

/-- No wait is longer than the maximum. -/
theorem Backoff.wait_le_max (backoff : Backoff) (count : Nat) :
    backoff.wait count ≤ backoff.max.toInt :=
  min_le_right _ _

/-- Every wait is longer than nothing, if the initial one is. -/
theorem Backoff.wait_pos (positive : 0 < backoff.initial) (ordered : backoff.initial ≤ backoff.max)
    (count : Nat) : 0 < backoff.wait count := by
  have initial : 0 < backoff.initial.toInt := Int64.lt_iff_toInt_lt.mp positive
  have most : backoff.initial.toInt ≤ backoff.max.toInt := Int64.le_iff_toInt_le.mp ordered
  exact lt_min (by positivity) (lt_of_lt_of_le initial most)

/-- A sum within 64 bits is the sum. -/
theorem toInt_add_of_fits {first second : Int64} (fits : FitsI64 (first.toInt + second.toInt)) :
    (first + second).toInt = first.toInt + second.toInt := by
  rw [← toInt_ofInt_of_fits fits, Int64.ofInt_add, Int64.ofInt_toInt, Int64.ofInt_toInt]

/-- A product within 64 bits is the product. -/
theorem toInt_mul_of_fits {first second : Int64} (fits : FitsI64 (first.toInt * second.toInt)) :
    (first * second).toInt = first.toInt * second.toInt := by
  rw [← toInt_ofInt_of_fits fits, Int64.ofInt_mul, Int64.ofInt_toInt, Int64.ofInt_toInt]

/-- The arithmetic after a failure is exact as long as its times are in range. -/
theorem retryAfter_exact (retry : Retry) (read : Int64)
    (delay_fits : FitsI64 (retry.delay.toInt * 1000000))
    (fits : FitsI64 (read.toInt + retry.delay.toInt * 1000000)) :
    (Supervisor.retryAfter backoff retry read).nextAttempt.toInt =
        read.toInt + retry.delay.toInt * 1000000 ∧
      (Supervisor.retryAfter backoff retry read).delay.toInt =
        min (retry.delay.toInt * 2) backoff.max.toInt := by
  have nanos : (retry.delay * 1000000).toInt = retry.delay.toInt * 1000000 :=
    toInt_mul_of_fits delay_fits
  have double : (retry.delay * 2).toInt = retry.delay.toInt * 2 := by
    have doubled : FitsI64 (retry.delay.toInt * 2) := by
      obtain ⟨least, most⟩ := delay_fits
      constructor <;> omega
    exact toInt_mul_of_fits doubled
  constructor
  · unfold Supervisor.retryAfter
    dsimp only
    rw [toInt_add_of_fits (by rwa [nanos]), nanos]
  · unfold Supervisor.retryAfter
    dsimp only
    split
    · rename_i capped
      rw [Int64.lt_iff_toInt_lt, double] at capped
      exact (min_eq_right capped.le).symm
    · rename_i below
      rw [Int64.lt_iff_toInt_lt, double] at below
      rw [double]
      exact (min_eq_left (Int.not_lt.mp below)).symm

end Wait

/-- An event is in its order after the earlier ones. -/
def SupervisorEvent.Fair (backoff : Backoff) (past : List SupervisorEvent) :
    SupervisorEvent → Prop
  | .started venue time =>
      past.head? = some (.found venue false) ∧ dueAt backoff venue past ≤ time.toInt
  | .failed _ ended read => ended ≤ read
  | .found _ _ | .connected _ => True

/-- All events are in their order. -/
def Waited (backoff : Backoff) : List SupervisorEvent → Prop
  | [] => True
  | event :: past => event.Fair backoff past ∧ Waited backoff past

/-- Waits kept by a whole history were kept by what came before. -/
theorem Waited.of_append {backoff : Backoff} {later past : List SupervisorEvent}
    (waited : Waited backoff (later ++ past)) : Waited backoff past := by
  induction later with
  | nil => exact waited
  | cons event later ih => exact ih waited.2

/-- Nothing but a further outcome moves the time that a failure has set. -/
theorem dueAt_between {backoff : Backoff} {venue : VenueId} {between past : List SupervisorEvent}
    (quiet : ∀ event ∈ between, ¬ event.Settles venue) :
    dueAt backoff venue (between ++ past) = dueAt backoff venue past := by
  induction between with
  | nil => rfl
  | cons event between ih =>
      have others := ih fun other member => quiet other (List.mem_cons_of_mem _ member)
      have first := quiet event List.mem_cons_self
      cases event with
      | found _ _ => exact others
      | started _ _ => exact others
      | connected _ => exact others
      | failed other ended read =>
          have another : ¬ other = venue := first
          rw [List.cons_append, dueAt, if_neg another]
          exact others

/-- Attempts that are in their order respect the waits. -/
theorem Waited.respected {backoff : Backoff} {history : List SupervisorEvent}
    (waited : Waited backoff history) : backoff.Respected history := by
  intro later venue time past same
  subst same
  obtain ⟨⟨found, due⟩, waited⟩ := waited.of_append
  refine ⟨found, ?_⟩
  intro between ended read before same quiet
  subst same
  obtain ⟨order, _⟩ := waited.of_append
  have read_later : ended.toInt ≤ read.toInt := Int64.le_iff_toInt_le.mp order
  rw [dueAt_between quiet, dueAt, if_pos rfl] at due
  omega

/-- The events of a venue. -/
def ownEvents (venue : VenueId) (history : List SupervisorEvent) : List SupervisorEvent :=
  history.filter fun event => event.venue = venue

/-- An event of the venue is among the venue's own. -/
theorem ownEvents_cons_own {event : SupervisorEvent} {venue : VenueId} (own : event.venue = venue)
    (past : List SupervisorEvent) :
    ownEvents venue (event :: past) = event :: ownEvents venue past :=
  List.filter_cons_of_pos (decide_eq_true own)

/-- An event of another venue is not among the venue's own. -/
theorem ownEvents_cons_other {event : SupervisorEvent} {venue : VenueId}
    (other : ¬ event.venue = venue) (past : List SupervisorEvent) :
    ownEvents venue (event :: past) = ownEvents venue past :=
  List.filter_cons_of_neg (by rwa [decide_eq_true_eq])

/-- A venue's failures are counted among its own events. -/
theorem failures_ownEvents (venue : VenueId) (history : List SupervisorEvent) :
    failures venue (ownEvents venue history) = failures venue history := by
  induction history with
  | nil => rfl
  | cons event past ih =>
      by_cases own : event.venue = venue
      · rw [ownEvents_cons_own own]
        cases event with
        | found _ _ => exact ih
        | started _ _ => exact ih
        | connected other =>
            have same : other = venue := own
            rw [failures, failures, if_pos same, if_pos same]
        | failed other _ _ =>
            have same : other = venue := own
            rw [failures, failures, if_pos same, if_pos same, ih]
      · rw [ownEvents_cons_other own, ih]
        cases event with
        | found _ _ => rfl
        | started _ _ => rfl
        | connected other => exact (if_neg own).symm
        | failed other _ _ => exact (if_neg own).symm

/-- A venue's next attempt is due by its own events. -/
theorem dueAt_ownEvents (backoff : Backoff) (venue : VenueId) (history : List SupervisorEvent) :
    dueAt backoff venue (ownEvents venue history) = dueAt backoff venue history := by
  induction history with
  | nil => rfl
  | cons event past ih =>
      by_cases own : event.venue = venue
      · rw [ownEvents_cons_own own]
        cases event with
        | found _ _ => exact ih
        | started _ _ => exact ih
        | connected _ => exact ih
        | failed other _ _ =>
            have same : other = venue := own
            rw [dueAt, dueAt, if_pos same, if_pos same, failures_ownEvents]
      · rw [ownEvents_cons_other own, ih]
        cases event with
        | found _ _ => rfl
        | started _ _ => rfl
        | connected _ => rfl
        | failed other _ _ => exact (if_neg own).symm

namespace Supervisor

/-- Where the supervisor is fits what it has seen. -/
def Placed (state : Supervisor) : SupervisorPlace → Prop
  | .between => True
  | .looking now _ | .connecting now _ _ => now ≤ state.clock
  | .due now venue _ => now ≤ state.clock ∧ (state.retries venue).nextAttempt ≤ now ∧
      state.history.head? = some (.found venue false)

/-- What holds as long as no time leaves its range. -/
structure Sound (backoff : Backoff) (state : Supervisor) : Prop where
  delays : ∀ venue, (state.retries venue).delay.toInt = backoff.wait (failures venue state.history)
  attempts : ∀ venue,
    (state.retries venue).nextAttempt.toInt = dueAt backoff venue state.history
  placed : state.Placed state.place
  waited : Waited backoff state.history

/-- The times after a failure are in the range of the clock. -/
def Fits (state : Supervisor) : Action → Prop
  | .fail _ read => ∀ now venue left, state.place = .connecting now venue left →
      FitsI64 ((state.retries venue).delay.toInt * 1000000) ∧
        FitsI64 (read.toInt + (state.retries venue).delay.toInt * 1000000)
  | _ => True

/-- A supervisor that has done nothing has broken no wait. -/
theorem sound_init {backoff : Backoff} (ordered : backoff.initial ≤ backoff.max) (clock : Int64) :
    (init backoff clock).Sound backoff :=
  ⟨fun _ => (Backoff.wait_zero ordered).symm, fun _ => rfl, trivial, trivial⟩

variable {backoff : Backoff} {managers : List VenueId} {state next : Supervisor} {action : Action}

/-- Events that settle nothing leave the waits as they are. -/
theorem Sound.of_unsettled (sound : state.Sound backoff) {event : SupervisorEvent}
    {place : SupervisorPlace} {clock : Int64} (unsettled : ∀ venue, ¬ event.Settles venue)
    (fair : event.Fair backoff state.history)
    (placed : Placed ⟨state.retries, place, clock, event :: state.history⟩ place) :
    Sound backoff ⟨state.retries, place, clock, event :: state.history⟩ := by
  refine ⟨?_, ?_, placed, fair, sound.waited⟩
  · intro venue
    rw [sound.delays venue]
    cases event with
    | found _ _ => rfl
    | started _ _ => rfl
    | connected other => exact absurd rfl (unsettled other)
    | failed other _ _ => exact absurd rfl (unsettled other)
  · intro venue
    rw [sound.attempts venue]
    cases event with
    | found _ _ => rfl
    | started _ _ => rfl
    | connected _ => rfl
    | failed other _ _ => exact absurd rfl (unsettled other)

/-- A venue is looked at. -/
theorem Sound.look (sound : state.Sound backoff) {now : Int64} {venue : VenueId}
    {left : List VenueId} (looking : state.place = .looking now (venue :: left)) (healthy : Bool) :
    Sound backoff { state with
      place :=
        if healthy ∨ now < (state.retries venue).nextAttempt then .looking now left
        else .due now venue left
      history := .found venue healthy :: state.history } := by
  have placed := sound.placed
  rw [looking] at placed
  apply sound.of_unsettled
  · exact fun _ settles => settles
  · trivial
  · split
    · exact placed
    · rename_i tried
      rw [not_or, Bool.not_eq_true] at tried
      obtain ⟨unhealthy, due⟩ := tried
      refine ⟨placed, Int64.not_lt.mp due, ?_⟩
      rw [unhealthy]
      rfl

/-- An attempt is begun. -/
theorem Sound.connect (sound : state.Sound backoff) {now time : Int64} {venue : VenueId}
    {left : List VenueId} (due : state.place = .due now venue left) (later : state.clock ≤ time) :
    Sound backoff { state with
      place := .connecting now venue left
      clock := time
      history := .started venue time :: state.history } := by
  have placed := sound.placed
  rw [due] at placed
  obtain ⟨passed, attempt, found⟩ := placed
  apply sound.of_unsettled
  · exact fun _ settles => settles
  · refine ⟨found, ?_⟩
    rw [← sound.attempts venue]
    exact Int64.le_iff_toInt_le.mp (Int64.le_trans attempt (Int64.le_trans passed later))
  · exact Int64.le_trans passed later

/-- An attempt succeeds. -/
theorem Sound.succeed (ordered : backoff.initial ≤ backoff.max) (sound : state.Sound backoff)
    {now time : Int64} {venue : VenueId} {left : List VenueId}
    (connecting : state.place = .connecting now venue left) (later : state.clock ≤ time) :
    Sound backoff { state with
      retries := Function.update state.retries venue
        { state.retries venue with delay := backoff.initial }
      place := .looking now left
      clock := time
      history := .connected venue :: state.history } := by
  have placed := sound.placed
  rw [connecting] at placed
  refine ⟨?_, ?_, Int64.le_trans placed later, trivial, sound.waited⟩
  · intro other
    by_cases same : other = venue
    · subst same
      dsimp only
      rw [Function.update_self, failures, if_pos rfl, Backoff.wait_zero ordered]
    · dsimp only
      rw [Function.update_of_ne same, failures, if_neg (Ne.symm same), sound.delays]
  · intro other
    by_cases same : other = venue
    · subst same
      dsimp only
      rw [Function.update_self, dueAt, sound.attempts]
    · dsimp only
      rw [Function.update_of_ne same, dueAt, sound.attempts]

/-- An attempt fails. -/
theorem Sound.fail (positive : 0 < backoff.initial) (ordered : backoff.initial ≤ backoff.max)
    (sound : state.Sound backoff) {now ended read : Int64} {venue : VenueId}
    {left : List VenueId} (connecting : state.place = .connecting now venue left)
    (later : state.clock ≤ ended) (order : ended ≤ read)
    (fits : FitsI64 ((state.retries venue).delay.toInt * 1000000) ∧
      FitsI64 (read.toInt + (state.retries venue).delay.toInt * 1000000)) :
    Sound backoff { state with
      retries := Function.update state.retries venue
        (retryAfter backoff (state.retries venue) read)
      place := .looking now left
      clock := read
      history := .failed venue ended read :: state.history } := by
  have placed := sound.placed
  rw [connecting] at placed
  obtain ⟨attempt, delay⟩ :=
    @retryAfter_exact backoff (state.retries venue) read fits.1 fits.2
  refine ⟨?_, ?_, Int64.le_trans placed (Int64.le_trans later order), order, sound.waited⟩
  · intro other
    by_cases same : other = venue
    · subst same
      dsimp only
      rw [Function.update_self, failures, if_pos rfl, delay, sound.delays,
        Backoff.wait_succ positive ordered]
    · dsimp only
      rw [Function.update_of_ne same, failures, if_neg (Ne.symm same), sound.delays]
  · intro other
    by_cases same : other = venue
    · subst same
      dsimp only
      rw [Function.update_self, dueAt, if_pos rfl, attempt, sound.delays]
    · dsimp only
      rw [Function.update_of_ne same, dueAt, if_neg (Ne.symm same), sound.attempts]

/-- Every step keeps what holds, if its times are in range. -/
theorem Sound.step (positive : 0 < backoff.initial) (ordered : backoff.initial ≤ backoff.max)
    (sound : state.Sound backoff) (fits : state.Fits action)
    (stepped : Supervisor.step backoff managers state action = some next) :
    next.Sound backoff := by
  cases action with
  | begin now =>
      simp only [Supervisor.step] at stepped
      split at stepped
      · split at stepped
        · obtain rfl := Option.some.inj stepped
          exact ⟨sound.delays, sound.attempts, Int64.le_refl now, sound.waited⟩
        · cases stepped
      · cases stepped
  | look healthy =>
      simp only [Supervisor.step] at stepped
      split at stepped
      · rename_i now venue left looking
        obtain rfl := Option.some.inj stepped
        exact sound.look looking healthy
      · cases stepped
  | connect time =>
      simp only [Supervisor.step] at stepped
      split at stepped
      · rename_i now venue left due
        split at stepped
        · rename_i later
          obtain rfl := Option.some.inj stepped
          exact sound.connect due later
        · cases stepped
      · cases stepped
  | succeed time =>
      simp only [Supervisor.step] at stepped
      split at stepped
      · rename_i now venue left connecting
        split at stepped
        · rename_i later
          obtain rfl := Option.some.inj stepped
          exact sound.succeed ordered connecting later
        · cases stepped
      · cases stepped
  | fail ended read =>
      simp only [Supervisor.step] at stepped
      split at stepped
      · rename_i now venue left connecting
        split at stepped
        · rename_i order
          obtain rfl := Option.some.inj stepped
          exact sound.fail positive ordered connecting order.1 order.2
            (fits now venue left connecting)
        · cases stepped
      · cases stepped
  | sleep =>
      simp only [Supervisor.step] at stepped
      split at stepped
      · obtain rfl := Option.some.inj stepped
        exact ⟨sound.delays, sound.attempts, trivial, sound.waited⟩
      · cases stepped

/-- **No venue is tried before its wait has passed.** In every run in which the times after
failures are in the range of the clock, the supervisor connects only venues that it has just
found unhealthy, and none before the wait after its last failure; and what a venue waits is
found from its own attempts. -/
theorem supervisor_waits {clock : Int64} {actions : List Action} (positive : 0 < backoff.initial)
    (ordered : backoff.initial ≤ backoff.max)
    (fits : (system backoff managers clock).Throughout Fits actions)
    (reached : (system backoff managers clock).run actions = some state) :
    backoff.Respected state.history ∧ ∀ venue,
      (state.retries venue).nextAttempt.toInt =
          dueAt backoff venue (ownEvents venue state.history) ∧
        (state.retries venue).delay.toInt =
          backoff.wait (failures venue (ownEvents venue state.history)) := by
  have sound := fits.invariant (sound_init ordered clock)
    (fun _ _ _ fits sound stepped => sound.step positive ordered fits stepped) reached
  refine ⟨sound.waited.respected, fun venue => ?_⟩
  rw [dueAt_ownEvents, failures_ownEvents]
  exact ⟨sound.attempts venue, sound.delays venue⟩

/-- The times after failures are in range where the maximum after each of them is. -/
theorem fits_of_max {clock : Int64} {actions : List Action} (positive : 0 < backoff.initial)
    (ordered : backoff.initial ≤ backoff.max) (max_fits : FitsI64 (backoff.max.toInt * 1000000))
    (reads : ∀ ended read, .fail ended read ∈ actions →
      FitsI64 (read.toInt + backoff.max.toInt * 1000000))
    (reached : (system backoff managers clock).run actions = some state) :
    (system backoff managers clock).Throughout Fits actions := by
  refine (@System.run_induction _ _ (system backoff managers clock)
    (fun actions state => (∀ ended read, .fail ended read ∈ actions →
      FitsI64 (read.toInt + backoff.max.toInt * 1000000)) →
        (system backoff managers clock).Throughout Fits actions ∧ state.Sound backoff)
    ?_ ?_ _ _ reached reads).1
  · intro _
    refine ⟨?_, sound_init ordered clock⟩
    intro before action after _ same
    cases before <;> cases same
  · intro past before action next earlier held stepped reads
    obtain ⟨met, sound⟩ := held fun ended read listed =>
      reads ended read (List.mem_append_left _ listed)
    have fits : before.Fits action := by
      cases action with
      | fail ended read =>
          intro now venue left _
          have inside := reads ended read (List.mem_append_right _ (List.mem_singleton_self _))
          have below := backoff.wait_le_max (failures venue before.history)
          have above := Backoff.wait_pos positive ordered (failures venue before.history)
          have least := (fitsI64_toInt read).1
          rw [sound.delays venue]
          obtain ⟨_, most⟩ := max_fits
          obtain ⟨_, latest⟩ := inside
          constructor <;> constructor <;> omega
      | _ => trivial
    refine ⟨met.concat ?_, sound.step positive ordered fits stepped⟩
    intro other reached
    obtain rfl := Option.some.inj (earlier.symm.trans reached)
    exact fits

/-- A venue that fails twice, by the waits of the router's own test, with the 100 ms of sleep
between two passes. -/
def twoFailures : List Action :=
  [.begin 5, .look false, .connect 6, .fail 1000006 1000007, .sleep,
    .begin 101000010, .look false, .sleep, .begin 201000015, .look false, .sleep,
    .begin 301000020, .look false, .connect 301000021, .fail 301000022 301000022]

/-- The third attempt waits for the maximum. -/
theorem supervisor_waits_twice :
    ∃ state, (system ⟨250, 400⟩ [VenueId.kraken] 0).run twoFailures = some state ∧
      Backoff.Respected ⟨250, 400⟩ state.history ∧ ∀ venue,
        (state.retries venue).nextAttempt.toInt =
            dueAt ⟨250, 400⟩ venue (ownEvents venue state.history) ∧
          (state.retries venue).delay.toInt =
            Backoff.wait ⟨250, 400⟩ (failures venue (ownEvents venue state.history)) := by
  have runs : ((system ⟨250, 400⟩ [VenueId.kraken] 0).run twoFailures).isSome = true := by
    decide +kernel
  obtain ⟨state, reached⟩ := Option.isSome_iff_exists.mp runs
  refine ⟨state, reached, supervisor_waits (by decide) (by decide) ?_ reached⟩
  apply fits_of_max (by decide) (by decide) (by decide) _ reached
  intro ended read listed
  simp only [twoFailures, List.mem_cons, reduceCtorEq, Action.fail.injEq, false_or,
    List.not_mem_nil, or_false] at listed
  rcases listed with ⟨rfl, rfl⟩ | ⟨rfl, rfl⟩ <;> decide

/-- A wait that is longer than the clock's range. -/
def endless : Backoff := ⟨10000000000000, 10000000000000⟩

/-- The wait of 317 years is over by the next pass, 100 ms after the failure. -/
theorem supervisor_hurries :
    ¬ ∀ (backoff : Backoff) (managers : List VenueId) (clock : Int64) (actions : List Action)
      (state : Supervisor), 0 < backoff.initial → backoff.initial ≤ backoff.max →
        (system backoff managers clock).run actions = some state →
          backoff.Respected state.history := by
  intro respected
  have runs : ((system endless [VenueId.kraken] 0).run
      [.begin 0, .look false, .connect 0, .fail 1 1, .sleep, .begin 100000002, .look false,
        .connect 100000002]).any (fun state => state.history =
      [.started VenueId.kraken 100000002, .found VenueId.kraken false, .failed VenueId.kraken 1 1,
        .started VenueId.kraken 0, .found VenueId.kraken false]) = true := by
    decide +kernel
  obtain ⟨state, reached, history⟩ := (Option.any_eq_true _ _).mp runs
  have waited := (respected endless _ _ _ state (by decide) (by decide) reached [] VenueId.kraken
    100000002 _ (of_decide_eq_true history)).2 [.found VenueId.kraken false] 1 1 _ rfl (by
      intro event member
      rw [List.mem_singleton.mp member]
      exact fun settles => settles)
  exact absurd waited (by decide +kernel)

end Supervisor

end DataFeed.Venue
