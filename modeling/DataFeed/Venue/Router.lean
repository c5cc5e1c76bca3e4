import DataFeed.Foundation.Transition
import DataFeed.Venue.SubscriptionId
import Mathlib.Data.List.Nodup
import Mathlib.Data.List.Perm.Subperm

/-! # Handing out subscription ids

The router finds the manager of a venue, takes the next counter and hands the manager an
id made of the counter, the venue and the sink. Calls run beside one another, so another
call may take a counter between any two steps of one. The counter keeps growing once the
ids are used up, and comes round only after as many calls as it has values.
-/

namespace DataFeed.Venue

open Foundation L2

/-- What a call of `Subscribe` asks for. -/
structure SubscribeCall where
  venue : VenueId
  sink : Sink
  book : BookSpec
  deriving DecidableEq, Repr

/-- Where a call of `Subscribe` is. -/
inductive RouterCall where
  /-- Has found the venue's manager. -/
  | found (asked : SubscribeCall)
  /-- Has taken a counter. -/
  | counted (asked : SubscribeCall) (counter : UInt64)
  /-- Has called the venue's manager. -/
  | given (id : SubscriptionId)
  | failed (error : Error)
  deriving DecidableEq, Repr

/-- A subscription that was handed to its venue's manager. -/
structure Handed where
  call : Nat
  asked : SubscribeCall
  counter : UInt64
  id : SubscriptionId
  deriving DecidableEq, Repr

/-- The router, its calls, and what it has done so far. -/
structure Router where
  /-- The venues that have a manager. -/
  managers : List VenueId
  nextCounter : UInt64
  calls : Nat → Option RouterCall
  /-- The calls that were made. -/
  made : List (Nat × SubscribeCall)
  /-- The counters that were taken, each with the call that took it. -/
  counters : List (Nat × UInt64)
  handed : List Handed

namespace Router

/-- A router that has just been built. -/
def init (managers : List VenueId) : Router := ⟨managers, 1, fun _ => none, [], [], []⟩

def unknownVenue (venue : VenueId) : Error :=
  { code := .unknownVenue, detail := "No venue " ++ toString venue }

def idsExhausted : Error :=
  { code := .idsExhausted
    detail := "All " ++ toString maxSubscriptionsAllowed ++ " subscription ids are taken" }

/-- Who takes a step. -/
inductive Action where
  /-- A call of `Subscribe` is made, and looks for the venue's manager. -/
  | subscribe (call : Nat) (asked : SubscribeCall)
  /-- A call takes the next counter. -/
  | count (call : Nat)
  /-- A call makes its id and calls the manager, or fails. -/
  | hand (call : Nat)
  deriving DecidableEq, Repr

variable (router : Router)

/-- What a step does, if it is possible. -/
def step : Action → Option Router
  | .subscribe call asked =>
      match router.calls call with
      | some _ => none
      | none =>
          some { router with
            calls := Function.update router.calls call (some
              (if asked.venue ∈ router.managers then .found asked
                else .failed (unknownVenue asked.venue)))
            made := router.made ++ [(call, asked)] }
  | .count call =>
      match router.calls call with
      | some (.found asked) =>
          some { router with
            nextCounter := router.nextCounter + 1
            calls := Function.update router.calls call (some (.counted asked router.nextCounter))
            counters := router.counters ++ [(call, router.nextCounter)] }
      | _ => none
  | .hand call =>
      match router.calls call with
      | some (.counted asked counter) =>
          if counter > maxSubscriptionsAllowed then
            some { router with
              calls := Function.update router.calls call (some (.failed idsExhausted)) }
          else
            some { router with
              calls := Function.update router.calls call
                (some (.given (makeSubscriptionId counter asked.venue asked.sink)))
              handed := router.handed ++
                [⟨call, asked, counter, makeSubscriptionId counter asked.venue asked.sink⟩] }
      | _ => none

/-- The manager that `Unsubscribe` of an id reaches, if any. -/
def managerOf (id : SubscriptionId) : Option VenueId :=
  if venueOf id ∈ router.managers then some (venueOf id) else none

/-- A router for some venues, with every order of its calls' steps. -/
def system (managers : List VenueId) : System Router Action where
  init := init managers
  step := step

/-- What the router's records say of a call. -/
def Recorded (router : Router) (call : Nat) : RouterCall → Prop
  | .found asked => (call, asked) ∈ router.made ∧ asked.venue ∈ router.managers ∧
      call ∉ router.counters.map Prod.fst
  | .counted asked counter => (call, asked) ∈ router.made ∧ asked.venue ∈ router.managers ∧
      (call, counter) ∈ router.counters ∧ call ∉ router.handed.map Handed.call
  | .given id => ∃ handed ∈ router.handed, handed.call = call ∧ handed.id = id
  | .failed error => ∃ asked, (call, asked) ∈ router.made ∧
      (asked.venue ∈ router.managers → error.code = .idsExhausted)

/-- What holds however the calls interleave. -/
structure Sound (managers : List VenueId) (router : Router) : Prop where
  managers : router.managers = managers
  recorded : ∀ call state, router.calls call = some state → router.Recorded call state
  once : (router.made.map Prod.fst).Nodup
  unmade : ∀ call, router.calls call = none → call ∉ router.made.map Prod.fst
  taken : ∀ call ∈ router.counters.map Prod.fst, call ∈ router.made.map Prod.fst
  takenOnce : (router.counters.map Prod.fst).Nodup
  numbered : ∀ (position : Nat) (entry : Nat × UInt64), router.counters[position]? = some entry →
    entry.2 = UInt64.ofNat (position + 1)
  next : router.nextCounter = UInt64.ofNat (router.counters.length + 1)
  handed : ∀ handed ∈ router.handed, (handed.call, handed.counter) ∈ router.counters ∧
    handed.counter ≤ maxSubscriptionsAllowed ∧ handed.asked.venue ∈ router.managers ∧
      handed.id = makeSubscriptionId handed.counter handed.asked.venue handed.asked.sink
  handedOnce : (router.handed.map Handed.call).Nodup

variable {router} {next : Router} {managers : List VenueId}

/-- What other calls do leaves a call's record as it is. -/
theorem Recorded.mono {call : Nat} {state : RouterCall} (recorded : router.Recorded call state)
    (managers : next.managers = router.managers)
    (made : ∀ entry ∈ router.made, entry ∈ next.made)
    (counters : ∀ entry ∈ router.counters, entry ∈ next.counters)
    (own : call ∈ next.counters.map Prod.fst → call ∈ router.counters.map Prod.fst)
    (handed : ∀ entry ∈ router.handed, entry ∈ next.handed)
    (ownHanded : call ∈ next.handed.map Handed.call → call ∈ router.handed.map Handed.call) :
    next.Recorded call state := by
  cases state with
  | found asked =>
      obtain ⟨listed, managed, waits⟩ := recorded
      exact ⟨made _ listed, managers ▸ managed, fun taken => waits (own taken)⟩
  | counted asked counter =>
      obtain ⟨listed, managed, taken, waits⟩ := recorded
      exact ⟨made _ listed, managers ▸ managed, counters _ taken, fun gave => waits (ownHanded gave)⟩
  | given id =>
      obtain ⟨entry, listed, same⟩ := recorded
      exact ⟨entry, handed _ listed, same⟩
  | failed error =>
      obtain ⟨asked, listed, refused⟩ := recorded
      exact ⟨asked, made _ listed, fun managed => refused (managers ▸ managed)⟩

namespace Sound

theorem init (managers : List VenueId) : Sound managers (.init managers) where
  managers := rfl
  recorded _ _ found := (Option.some_ne_none _ found.symm).elim
  once := List.nodup_nil
  unmade _ _ := List.not_mem_nil
  taken _ member := (List.not_mem_nil member).elim
  takenOnce := List.nodup_nil
  numbered _ _ found := by
    rw [Router.init, List.getElem?_nil] at found
    contradiction
  next := rfl
  handed _ member := (List.not_mem_nil member).elim
  handedOnce := List.nodup_nil

/-- A call is made. -/
theorem subscribe (sound : Sound managers router) {call : Nat} {asked : SubscribeCall}
    (stepped : router.step (.subscribe call asked) = some next) : Sound managers next := by
  simp only [step] at stepped
  split at stepped
  · contradiction
  · rename_i fresh
    obtain rfl := Option.some.inj stepped
    have unmade := sound.unmade call fresh
    have grows : ∀ entry ∈ router.made, entry ∈ router.made ++ [(call, asked)] :=
      fun _ member => List.mem_append_left _ member
    have last : (call, asked) ∈ router.made ++ [(call, asked)] :=
      List.mem_append_right _ List.mem_cons_self
    refine { sound with recorded := ?_, once := ?_, unmade := ?_, taken := ?_ }
    · intro other state found
      dsimp only at found
      by_cases same : other = call
      · subst same
        rw [Function.update_self] at found
        obtain rfl := Option.some.inj found
        split
        · rename_i managed
          exact ⟨last, managed, fun taken => unmade (sound.taken _ taken)⟩
        · rename_i unmanaged
          exact ⟨asked, last, fun managed => (unmanaged managed).elim⟩
      · rw [Function.update_of_ne same] at found
        exact (sound.recorded other state found).mono rfl grows (fun _ member => member) id
          (fun _ member => member) id
    · rw [List.map_append, List.map_singleton, ← List.concat_eq_append]
      exact sound.once.concat unmade
    · intro other missing
      dsimp only at missing
      have apart : other ≠ call := by
        rintro rfl
        rw [Function.update_self] at missing
        contradiction
      rw [Function.update_of_ne apart] at missing
      rw [List.map_append, List.mem_append, List.map_singleton, List.mem_singleton, not_or]
      exact ⟨sound.unmade other missing, apart⟩
    · intro other member
      rw [List.map_append, List.mem_append]
      exact .inl (sound.taken other member)

/-- A call takes a counter. -/
theorem count (sound : Sound managers router) {call : Nat}
    (stepped : router.step (.count call) = some next) : Sound managers next := by
  simp only [step] at stepped
  split at stepped
  · rename_i asked found
    obtain rfl := Option.some.inj stepped
    obtain ⟨listed, managed, waits⟩ := sound.recorded call _ found
    have idle : call ∉ router.handed.map Handed.call := by
      intro member
      obtain ⟨handed, given, rfl⟩ := List.mem_map.mp member
      exact waits (List.mem_map.mpr ⟨_, (sound.handed handed given).1, rfl⟩)
    have grows : ∀ entry ∈ router.counters,
        entry ∈ router.counters ++ [(call, router.nextCounter)] :=
      fun _ member => List.mem_append_left _ member
    refine
      { sound with
        recorded := ?_, unmade := ?_, taken := ?_, takenOnce := ?_, numbered := ?_, next := ?_
        handed := ?_ }
    · intro other state current
      dsimp only at current
      by_cases same : other = call
      · subst same
        rw [Function.update_self] at current
        obtain rfl := Option.some.inj current
        exact ⟨listed, managed, List.mem_append_right _ List.mem_cons_self, idle⟩
      · rw [Function.update_of_ne same] at current
        refine (sound.recorded other state current).mono rfl (fun _ member => member) grows ?_
          (fun _ member => member) id
        rw [List.map_append, List.mem_append, List.map_singleton, List.mem_singleton]
        exact fun member => member.resolve_right same
    · intro other missing
      refine sound.unmade other ?_
      dsimp only at missing
      have apart : other ≠ call := by
        rintro rfl
        rw [Function.update_self] at missing
        contradiction
      rwa [Function.update_of_ne apart] at missing
    · intro other member
      rw [List.map_append, List.mem_append, List.map_singleton, List.mem_singleton] at member
      rcases member with old | rfl
      · exact sound.taken other old
      · exact List.mem_map.mpr ⟨_, listed, rfl⟩
    · rw [List.map_append, List.map_singleton, ← List.concat_eq_append]
      exact sound.takenOnce.concat waits
    · intro position entry here
      rw [List.getElem?_append] at here
      split at here
      · exact sound.numbered position entry here
      · rename_i beyond
        rw [List.getElem?_singleton] at here
        split at here
        · rename_i last
          obtain rfl := Option.some.inj here
          have position_eq : position = router.counters.length := by omega
          rw [position_eq]
          exact sound.next
        · contradiction
    · dsimp only
      rw [sound.next, List.length_append, List.length_singleton]
      exact (UInt64.ofNat_add _ 1).symm
    · intro handed member
      obtain ⟨taken, rest⟩ := sound.handed handed member
      exact ⟨grows _ taken, rest⟩
  · contradiction

/-- A call hands its id to the manager, or fails. -/
theorem hand (sound : Sound managers router) {call : Nat}
    (stepped : router.step (.hand call) = some next) : Sound managers next := by
  simp only [step] at stepped
  split at stepped
  · rename_i asked counter current
    obtain ⟨listed, managed, taken, waits⟩ := sound.recorded call _ current
    have unmade : ∀ state other, Function.update router.calls call (some state) other = none →
        other ∉ router.made.map Prod.fst := by
      intro state other missing
      refine sound.unmade other ?_
      have apart : other ≠ call := by
        rintro rfl
        rw [Function.update_self] at missing
        contradiction
      rwa [Function.update_of_ne apart] at missing
    split at stepped
    · obtain rfl := Option.some.inj stepped
      refine { sound with recorded := ?_, unmade := unmade _ }
      intro other state found
      dsimp only at found
      by_cases same : other = call
      · subst same
        rw [Function.update_self] at found
        obtain rfl := Option.some.inj found
        exact ⟨asked, listed, fun _ => rfl⟩
      · rw [Function.update_of_ne same] at found
        exact (sound.recorded other state found).mono rfl (fun _ member => member)
          (fun _ member => member) id (fun _ member => member) id
    · rename_i allowed
      have allowed : counter ≤ maxSubscriptionsAllowed := UInt64.not_lt.mp allowed
      obtain rfl := Option.some.inj stepped
      refine { sound with recorded := ?_, unmade := unmade _, handed := ?_, handedOnce := ?_ }
      · intro other state found
        dsimp only at found
        by_cases same : other = call
        · subst same
          rw [Function.update_self] at found
          obtain rfl := Option.some.inj found
          exact ⟨_, List.mem_append_right _ List.mem_cons_self, rfl, rfl⟩
        · rw [Function.update_of_ne same] at found
          refine (sound.recorded other state found).mono rfl (fun _ member => member)
            (fun _ member => member) id (fun _ member => List.mem_append_left _ member) ?_
          rw [List.map_append, List.mem_append, List.map_singleton, List.mem_singleton]
          exact fun member => member.resolve_right same
      · intro handed member
        rcases List.mem_append.mp member with old | new
        · exact sound.handed handed old
        · obtain rfl := List.mem_singleton.mp new
          exact ⟨taken, allowed, managed, rfl⟩
      · rw [List.map_append, List.map_singleton, ← List.concat_eq_append]
        exact sound.handedOnce.concat waits
  · contradiction

theorem step {action : Action} (sound : Sound managers router)
    (stepped : router.step action = some next) : Sound managers next := by
  cases action with
  | subscribe call asked => exact sound.subscribe stepped
  | count call => exact sound.count stepped
  | hand call => exact sound.hand stepped

theorem of_reachable (reachable : (system managers).Reachable router) : Sound managers router := by
  apply reachable.invariant
  · exact init managers
  · exact fun _ _ _ sound stepped => sound.step stepped

/-- As many counters as calls at most. -/
theorem counters_le (sound : Sound managers router) :
    router.counters.length ≤ router.made.length := by
  have subset : router.counters.map Prod.fst ⊆ router.made.map Prod.fst := sound.taken
  have sizes := (List.subperm_of_subset sound.takenOnce subset).length_le
  rwa [List.length_map, List.length_map] at sizes

/-- What a counter says of its place among those taken. -/
theorem toNat_counter (sound : Sound managers router) (few : router.made.length < UInt64.size)
    {position : Nat} {entry : Nat × UInt64} (here : router.counters[position]? = some entry) :
    entry.2.toNat = position + 1 := by
  have inside : position < router.counters.length := (List.getElem?_eq_some_iff.mp here).1
  have bounded := sound.counters_le
  rw [sound.numbered position entry here]
  exact UInt64.toNat_ofNat_of_lt (by omega)

/-- A counter is taken by one call. -/
theorem call_unique (sound : Sound managers router) (few : router.made.length < UInt64.size)
    {first second : Nat} {counter : UInt64} (one : (first, counter) ∈ router.counters)
    (two : (second, counter) ∈ router.counters) : first = second := by
  obtain ⟨position, here⟩ := List.mem_iff_getElem?.mp one
  obtain ⟨place, there⟩ := List.mem_iff_getElem?.mp two
  have here_eq := sound.toNat_counter few here
  have there_eq := sound.toNat_counter few there
  obtain rfl : position = place := Nat.succ.inj (here_eq.symm.trans there_eq)
  exact congrArg Prod.fst (Option.some.inj (here.symm.trans there))

theorem counter_pos (sound : Sound managers router) (few : router.made.length < UInt64.size)
    {entry : Nat × UInt64} (taken : entry ∈ router.counters) : 0 < entry.2.toNat := by
  obtain ⟨position, here⟩ := List.mem_iff_getElem?.mp taken
  rw [sound.toNat_counter few here]
  exact Nat.succ_pos position

/-- Different subscriptions that were handed over have different counters. -/
theorem handed_unique (sound : Sound managers router) (few : router.made.length < UInt64.size)
    {first second : Handed} (one : first ∈ router.handed) (two : second ∈ router.handed)
    (same : first.counter = second.counter) : first = second := by
  refine List.inj_on_of_nodup_map sound.handedOnce one two (sound.call_unique few
    (sound.handed first one).1 ?_)
  exact same ▸ (sound.handed second two).1

end Sound

/-- Counters are only added. -/
theorem counters_step {action : Action} (stepped : router.step action = some next) :
    router.counters <+: next.counters := by
  cases action with
  | subscribe =>
      simp only [step] at stepped
      split at stepped
      · contradiction
      · obtain rfl := Option.some.inj stepped
        exact List.prefix_rfl
  | hand =>
      simp only [step] at stepped
      split at stepped
      · split at stepped <;> obtain rfl := Option.some.inj stepped <;> exact List.prefix_rfl
      · contradiction
  | count =>
      simp only [step] at stepped
      split at stepped
      · obtain rfl := Option.some.inj stepped
        exact List.prefix_append _ _
      · contradiction

theorem counters_runFrom {actions : List Action}
    (reached : (system managers).runFrom router actions = some next) :
    router.counters <+: next.counters := by
  have every : ∀ (state : Router) (action : Action) (after : Router), True →
      router.counters <+: state.counters → state.step action = some after →
        router.counters <+: after.counters :=
    fun _ _ _ _ grown stepped => grown.trans (counters_step stepped)
  exact @System.runFrom_invariant _ _ (system managers)
    (fun state : Router => router.counters <+: state.counters) (fun _ => True) every _ _ _
    List.prefix_rfl (fun _ _ => trivial) reached

/-- A call whose counter is beyond the ids can go on, to its failure. -/
theorem step_hand_exhausted {call : Nat} {asked : SubscribeCall} {counter : UInt64}
    (counted : router.calls call = some (.counted asked counter))
    (beyond : maxSubscriptionsAllowed < counter) :
    ∃ after, router.step (.hand call) = some after ∧
      after.calls call = some (.failed idsExhausted) ∧ after.handed = router.handed := by
  have stepped : router.step (.hand call) = some { router with
      calls := Function.update router.calls call (some (.failed idsExhausted)) } := by
    simp only [step, counted]
    exact if_pos beyond
  exact ⟨_, stepped, Function.update_self _ _ _, rfl⟩

/-- **Ids are unique, ordered and name what they are for.** However the calls interleave,
as long as there are fewer than the counter has values: no id is handed to a manager twice
and none is zero; each is read back as the counter, venue and sink it was made of, compares
with the others like its counter, and `Unsubscribe` of it reaches the manager that was given
it. Once all the ids are used up, a later call for a venue with a manager reaches no
manager: having taken its counter it goes on, always, to fail as `idsExhausted`, and it
never fails otherwise. -/
theorem ids_unique (reachable : (system managers).Reachable router)
    (few : router.made.length < UInt64.size) :
    (router.handed.map Handed.id).Nodup ∧
      (∀ handed ∈ router.handed, handed.id ≠ 0 ∧ counterOf handed.id = handed.counter ∧
        venueOf handed.id = handed.asked.venue ∧ sinkOf handed.id = some handed.asked.sink ∧
          router.managerOf handed.id = some handed.asked.venue) ∧
      (∀ first ∈ router.handed, ∀ second ∈ router.handed,
        first.id < second.id ↔ first.counter < second.counter) ∧
      ∀ actions next, maxSubscriptionsAllowed.toNat ≤ router.counters.length →
        (system managers).runFrom router actions = some next →
        next.made.length < UInt64.size → ∀ call asked, router.calls call = none →
          (call, asked) ∈ next.made → asked.venue ∈ managers →
            call ∉ next.handed.map Handed.call ∧ (∀ id, next.calls call ≠ some (.given id)) ∧
              (∀ error, next.calls call = some (.failed error) → error.code = .idsExhausted) ∧
              ∀ counter, next.calls call = some (.counted asked counter) →
                ∃ after, next.step (.hand call) = some after ∧
                  after.calls call = some (.failed idsExhausted) ∧
                  after.handed = next.handed := by
  have sound := Sound.of_reachable reachable
  have decode : ∀ handed ∈ router.handed, counterOf handed.id = handed.counter := by
    intro handed member
    obtain ⟨_, allowed, _, id⟩ := sound.handed handed member
    rw [id]
    exact counterOf_makeSubscriptionId allowed
  refine ⟨?_, ?_, ?_, ?_⟩
  · refine List.Nodup.map_on (fun first one second two same => ?_)
      (List.Nodup.of_map Handed.call sound.handedOnce)
    refine sound.handed_unique few one two ?_
    rw [← decode first one, ← decode second two, same]
  · intro handed member
    obtain ⟨taken, allowed, managed, id⟩ := sound.handed handed member
    have venue : venueOf handed.id = handed.asked.venue := by
      rw [id]
      exact venueOf_makeSubscriptionId allowed
    refine ⟨?_, decode handed member, venue, ?_, ?_⟩
    · intro zero
      have counter := decode handed member
      rw [zero] at counter
      have positive := sound.counter_pos few taken
      rw [← counter] at positive
      exact Nat.lt_irrefl 0 positive
    · rw [id]
      exact sinkOf_makeSubscriptionId allowed
    · rw [managerOf, venue, if_pos managed]
  · intro first one second two
    obtain ⟨_, allowed, _, id⟩ := sound.handed first one
    obtain ⟨_, also, _, other⟩ := sound.handed second two
    rw [id, other]
    refine ⟨fun less => ?_, fun less => makeSubscriptionId_lt allowed also less _ _ _ _⟩
    by_contra more
    rcases UInt64.lt_or_eq_of_le (UInt64.not_lt.mp more) with greater | same
    · exact UInt64.lt_asymm less (makeSubscriptionId_lt also allowed greater _ _ _ _)
    · obtain rfl := sound.handed_unique few one two same.symm
      exact UInt64.lt_irrefl _ (id ▸ other ▸ less)
  · intro actions next used reached few call asked fresh listed managed
    have later := Sound.of_reachable (reachable.runFrom reached)
    obtain ⟨more, grown⟩ := counters_runFrom reached
    have beyond : ∀ counter, (call, counter) ∈ next.counters →
        maxSubscriptionsAllowed < counter := by
      intro counter taken
      obtain ⟨position, here⟩ := List.mem_iff_getElem?.mp taken
      have number := later.toNat_counter few here
      have new : router.counters.length ≤ position := by
        by_contra old
        rw [← grown, List.getElem?_append_left (Nat.lt_of_not_le old)] at here
        have before := List.mem_of_getElem? here
        exact sound.unmade call fresh (sound.taken call (List.mem_map.mpr ⟨_, before, rfl⟩))
      rw [UInt64.lt_iff_toNat_lt]
      dsimp only at number
      omega
    have unhanded : call ∉ next.handed.map Handed.call := by
      intro member
      obtain ⟨handed, given, rfl⟩ := List.mem_map.mp member
      obtain ⟨taken, allowed, _⟩ := later.handed handed given
      exact UInt64.not_le.mpr (beyond _ taken) allowed
    refine ⟨unhanded, fun id given => ?_, fun error failed => ?_, fun counter counted => ?_⟩
    · obtain ⟨handed, member, same, _⟩ := later.recorded call _ given
      exact unhanded (List.mem_map.mpr ⟨handed, member, same⟩)
    · obtain ⟨other, made, exhausted⟩ := later.recorded call _ failed
      obtain rfl : other = asked := by
        have same := List.inj_on_of_nodup_map later.once made listed rfl
        exact congrArg Prod.snd same
      exact exhausted (later.managers ▸ managed)
    · obtain ⟨_, _, taken, _⟩ := later.recorded call _ counted
      exact step_hand_exhausted counted (beyond counter taken)

/-- Two calls of which the second takes its counter first. -/
theorem ids_unique_overtaken :
    let live : SubscribeCall := ⟨.kraken, .live, ⟨"BTC/USD", 10⟩⟩
    let record : SubscribeCall := ⟨.coinbase, .record, ⟨"BTC-USD", 0⟩⟩
    ∃ router, (system [.kraken, .coinbase]).run
        [.subscribe 0 live, .subscribe 1 record, .count 1, .count 0, .hand 0, .hand 1] =
          some router ∧
      router.handed.map Handed.id = [131072, 65793] ∧ sinkOf 65793 = some .record ∧
      router.managerOf 65793 = some .coinbase := by
  intro live record
  have ran : ((system [.kraken, .coinbase]).run
      [.subscribe 0 live, .subscribe 1 record, .count 1, .count 0, .hand 0, .hand 1]).map
        (fun router => (router.made, router.handed)) =
      some ([(0, live), (1, record)], [⟨0, live, 2, 131072⟩, ⟨1, record, 1, 65793⟩]) := by
    decide +kernel
  obtain ⟨router, reached, seen⟩ := Option.map_eq_some_iff.mp ran
  obtain ⟨made, handed⟩ := Prod.mk.inj seen
  have few : router.made.length < UInt64.size := by
    rw [made]
    decide
  obtain ⟨_, decoded, _⟩ := ids_unique ⟨_, reached⟩ few
  obtain ⟨_, _, _, sink, manager⟩ := decoded ⟨1, record, 1, 65793⟩ (by
    rw [handed]
    exact List.mem_cons_of_mem _ List.mem_cons_self)
  exact ⟨router, reached, by rw [handed]; rfl, sink, manager⟩

end Router

end DataFeed.Venue
