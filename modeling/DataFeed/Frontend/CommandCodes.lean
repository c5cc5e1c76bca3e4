import DataFeed.Frontend.StopWatch
import DataFeed.Venue.Progress

/-! # The codes that `Stop` and `Watch` are answered with

The wire says which code tells what. A `Watch` asks the outbox and the table, and is
answered as the wire says. A `Stop` compares the sink that its id names before anybody is
asked, so it is answered with a mismatch also where no subscription has the id.
-/

namespace DataFeed.Frontend

open Foundation L2 Venue DataFeed.Core

namespace Backend

variable {Decoder : VenueId → Type} {adapters : ∀ venue, Adapter (Decoder venue)}
  {venues : List VenueId} {backend start after : Backend Decoder} {id : SubscriptionId}

@[simp] theorem other_ne (sink : Sink) : other sink ≠ sink := by cases sink <;> decide

theorem eq_other {sink named : Sink} (apart : named ≠ sink) : named = other sink := by
  cases sink <;> cases named <;> first | rfl | exact (apart rfl).elim

namespace Sound

variable (sound : Sound adapters venues backend)
include sound

/-- No venue but the one that an id names has it. -/
theorem absent_elsewhere {venue : VenueId} (other : venueOf id ≠ venue) :
    (backend.managers venue).subscriptions.find? id = none := by
  cases found : (backend.managers venue).subscriptions.find? id with
  | none => rfl
  | some subscription => exact (other (sound.rows venue id subscription found).2.1).elim

/-- Nobody is subscribed under an id that the venue it names does not have. -/
theorem not_subscribed
    (absent : (backend.managers (venueOf id)).subscriptions.find? id = none) (sink : Sink) :
    ¬ backend.Subscribed id sink := by
  intro ⟨venue, subscription, found, _⟩
  obtain ⟨_, named, _⟩ := sound.rows venue id subscription found
  subst named
  exact Option.some_ne_none _ (found.symm.trans absent)

/-- Who is subscribed under an id is so with the sink that it names. -/
theorem not_other {sink : Sink} (names : sinkOf id = some sink) :
    ¬ backend.Subscribed id (other sink) := by
  intro subscribed
  have named := (sound.subscribed_iff.mp subscribed).1
  exact other_ne sink (Option.some.inj (named.symm.trans names))

end Sound

/-! ## Stop -/

/-- A `Stop` that asks its manager is answered as the wire says. -/
theorem Halting.law {venue : VenueId} {call : Nat} {sink : Sink} {outcome : Outcome}
    (sound : Sound adapters venues start)
    (halting : Halting adapters venues start venue call id after)
    (names : sinkOf id = some sink) (named : venueOf id = venue)
    (ended : (after.managers venue).calls call = some (.ending outcome)) :
    start.StopLaw after id sink (Server.stopped outcome) := by
  have ends := halting.unsubscribed ended
  generalize tableAfter : (after.managers venue).subscriptions = table at ends
  subst named
  cases ends with
  | removed found erased =>
      rename_i subscription
      have subscribed : start.Subscribed id sink :=
        sound.subscribed_iff.mpr ⟨names, _, subscription, found⟩
      refine ⟨fun _ => ⟨rfl, ?_, halting.receivers, ?_⟩, ?_, ?_, fun fails => (fails rfl).elim⟩
      · intro other
        by_cases here : other = venueOf id
        · subst here
          exact tableAfter.trans erased
        · rw [halting.tables other here,
            OrderedMap.erase_absent (sound.absent_elsewhere fun same => here same.symm)]
      · obtain ⟨same, _⟩ | ⟨_, outbox, _⟩ := halting.outbox
        · have gone := congrArg (OrderedMap.find? · id) (same.symm.trans (tableAfter.trans erased))
          simp only [OrderedMap.find?_erase, if_true, found] at gone
          cases gone
        · exact outbox
      · exact iff_of_false (fun code => by cases code) (sound.not_other names)
      · exact iff_of_false (fun code => by cases code) fun none => none sink subscribed
  | unknown absent code same =>
      rename_i error
      have nobody := sound.not_subscribed absent
      have coded : (Server.stopped (.failed error)).code? = some .unknownId := by
        simp only [Server.stopped, Wire.Reply.code?, code, Wire.codeOf]
      refine ⟨fun subscribed => (nobody sink subscribed).elim, ?_, ?_, fun _ => ⟨?_, ?_, ?_⟩⟩
      · rw [coded]
        exact iff_of_false (fun code => by cases code) (nobody _)
      · exact iff_of_true coded nobody
      · intro other
        by_cases here : other = venueOf id
        · subst here
          exact tableAfter.trans same
        · exact halting.tables other here
      · exact halting.receivers
      · obtain ⟨_, outbox⟩ | ⟨_, _, present⟩ := halting.outbox
        · exact outbox
        · exact (present absent).elim

/-- A `Stop` whose id does not name its sink is answered as the wire says if somebody is
subscribed under the id. -/
theorem law_of_mismatch {sink : Sink} {text : String} (sound : Sound adapters venues backend)
    (apart : sinkOf id ≠ some sink) :
    backend.StopLaw backend id sink (failure .sinkMismatch text) ↔
      ∃ named, backend.Subscribed id named := by
  have coded : (failure .sinkMismatch text).code? = some .sinkMismatch := rfl
  constructor
  · exact fun law => ⟨_, law.mismatch.mp coded⟩
  · intro ⟨named, subscribed⟩
    have names := (sound.subscribed_iff.mp subscribed).1
    obtain rfl : named = other sink := eq_other fun same => apart (same ▸ names)
    refine ⟨fun matching => ?_, iff_of_true coded subscribed, ?_, fun _ => .refl backend⟩
    · exact (apart (sound.subscribed_iff.mp matching).1).elim
    · exact iff_of_false (fun code => by cases code) fun nobody => nobody _ subscribed

/-- A `Stop` of an id that no manager is found for is answered as the wire says. -/
theorem law_of_unmanaged {sink : Sink} {text : String} (sound : Sound adapters venues backend)
    (unmanaged : backend.router.managerOf id = none) :
    backend.StopLaw backend id sink (failure .unknownId text) := by
  have nobody : ∀ sink, ¬ backend.Subscribed id sink := by
    intro sink ⟨venue, subscription, found, _⟩
    obtain ⟨member, named, _⟩ := sound.rows venue id subscription found
    simp only [Router.managerOf, named, sound.router.managers, member, if_true] at unmanaged
    cases unmanaged
  refine ⟨fun subscribed => (nobody sink subscribed).elim, ?_, ?_, fun _ => .refl backend⟩
  · exact iff_of_false (fun code => by cases code) (nobody _)
  · exact iff_of_true rfl nobody

/-- When a `Stop` is answered as the wire says. -/
theorem stop_law_iff {sink : Sink} {reply : Wire.Reply} (sound : Sound adapters venues backend)
    (idle : backend.Idle) (stops : backend.Stops adapters venues id sink reply after) :
    backend.StopLaw after id sink reply ↔
      sinkOf id = some sink ∨ ∃ named, backend.Subscribed id named := by
  cases stops with
  | atOnce answered =>
      unfold Server.stop at answered
      split at answered
      · rename_i apart
        obtain rfl := Except.error.inj answered
        rw [law_of_mismatch sound apart, or_iff_right apart]
      · rename_i names
        refine iff_of_true ?_ (.inl (not_not.mp names))
        split at answered
        · rename_i unmanaged
          obtain rfl := Except.error.inj answered
          exact law_of_unmanaged sound unmanaged
        · cases answered
  | asked asks stepped background reached ended =>
      obtain ⟨names, named, _⟩ := stop_ok asks
      have begun := Halting.begin sound idle asks stepped
      have halting := System.runFrom_invariant
        (fun _ _ _ background before stepped => before.step background stepped)
        begun background reached
      exact iff_of_true (halting.law sound names named ended) (.inl names)

/-! ## Watch -/

/-- A List names the ids that are subscribed under. -/
theorem mem_infos {subscriptions : Subscriptions} :
    (∃ listing ∈ L2Manager.infos subscriptions, listing.id = id) ↔
      ∃ subscription, subscriptions.find? id = some subscription := by
  simp only [L2Manager.infos, List.mem_map, OrderedMap.find?_eq_some_iff]
  constructor
  · rintro ⟨listing, ⟨entry, member, rfl⟩, rfl⟩
    exact ⟨entry.2, member⟩
  · intro recorded
    obtain ⟨subscription, member⟩ := recorded
    exact ⟨_, ⟨_, member, rfl⟩, rfl⟩

/-- A `Watch` without a stream tells a recording that is listed from anything else. -/
theorem code_unwatched (id : SubscriptionId) (listed : List SubscriptionInfo) :
    (Server.unwatched id listed).code? =
      if (∃ listing ∈ listed, listing.id = id) ∧ sinkOf id = some .record then
        some .sinkMismatch
      else some .unknownId := by
  have told : (listed.any fun listing => listing.id = id && sinkOf listing.id = some .record) ↔
      (∃ listing ∈ listed, listing.id = id) ∧ sinkOf id = some .record := by
    simp only [List.any_eq_true, Bool.and_eq_true, decide_eq_true_eq]
    constructor
    · rintro ⟨listing, member, rfl, record⟩
      exact ⟨⟨listing, member, rfl⟩, record⟩
    · rintro ⟨⟨listing, member, rfl⟩, record⟩
      exact ⟨listing, member, rfl, record⟩
  unfold Server.unwatched
  by_cases recording : (∃ listing ∈ listed, listing.id = id) ∧ sinkOf id = some .record
  · rw [if_pos (told.mpr recording), if_pos recording]
    rfl
  · rw [if_neg fun same => recording (told.mp same), if_neg recording]
    rfl

namespace Sound

/-- What all the managers list of an id. -/
theorem listed_iff (sound : Sound adapters venues backend)
    {listed : VenueId → List SubscriptionInfo}
    (lists : ∀ venue ∈ backend.router.managers,
      listed venue = L2Manager.infos (backend.managers venue).subscriptions) :
    (∃ listing ∈ backend.router.managers.flatMap listed, listing.id = id) ↔
      ∃ venue subscription, (backend.managers venue).subscriptions.find? id = some subscription := by
  constructor
  · intro ⟨listing, member, same⟩
    obtain ⟨venue, managed, among⟩ := List.mem_flatMap.mp member
    rw [lists venue managed] at among
    exact ⟨venue, mem_infos.mp ⟨listing, among, same⟩⟩
  · intro ⟨venue, subscription, found⟩
    have managed : venue ∈ backend.router.managers :=
      sound.router.managers ▸ (sound.rows venue id subscription found).1
    obtain ⟨listing, among, same⟩ := mem_infos.mpr ⟨subscription, found⟩
    exact ⟨listing, List.mem_flatMap.mpr ⟨venue, managed, lists venue managed ▸ among⟩, same⟩

/-- A stream is registered under an id for whoever is subscribed live. -/
theorem streamed_iff (sound : Sound adapters venues backend) :
    (backend.streams.outbox.find? id).isSome = true ↔ backend.Subscribed id .live :=
  (sound.registered id).trans (by rfl)

end Sound

/-- **A `Watch` is answered as the wire says.** -/
theorem watch_law {session : WatcherId} {reply : Wire.Reply} (sound : Sound adapters venues backend)
    (idle : backend.Idle) (watches : backend.Watches adapters venues session id reply after) :
    backend.WatchLaw after id reply := by
  have apart {first second : Sink} (one : backend.Subscribed id first)
      (other : backend.Subscribed id second) : first = second :=
    Option.some.inj ((sound.subscribed_iff.mp one).1.symm.trans (sound.subscribed_iff.mp other).1)
  have ran {actions : List Action} (background : ∀ action ∈ actions, action.Background)
      (reached : (system adapters venues).runFrom backend actions = some after) :
      Undisturbed adapters venues backend after :=
    (Undisturbed.refl sound idle).runFrom background reached
  cases watches with
  | found streamed background reached =>
      rename_i stream actions
      have live : backend.Subscribed id .live :=
        sound.streamed_iff.mp (Option.isSome_iff_exists.mpr ⟨_, streamed⟩)
      have calls : (Action.call stream (.watch session)).Background := trivial
      have kept := ran (List.forall_mem_cons.mpr ⟨calls, background⟩) reached
      refine ⟨fun _ => rfl, ?_, ?_, kept.unchanged⟩
      · exact iff_of_false (fun code => by cases code) fun record => by cases apart live record
      · exact iff_of_false (fun code => by cases code) fun nobody => nobody _ live
  | missing unstreamed background reached asked =>
      rename_i actions listed
      have kept := ran background reached
      have lists : ∀ venue ∈ backend.router.managers,
          listed venue = L2Manager.infos (backend.managers venue).subscriptions := by
        intro venue managed
        obtain ⟨call, fresh, responded⟩ := asked venue managed
        exact kept.lists venue call (listed venue) fresh (.inr responded)
      have silent : ¬ backend.Subscribed id .live := by
        intro live
        have streamed := sound.streamed_iff.mpr live
        rw [unstreamed] at streamed
        cases streamed
      have recording :
          (∃ listing ∈ backend.router.managers.flatMap listed, listing.id = id) ∧
              sinkOf id = some .record ↔ backend.Subscribed id .record := by
        rw [sound.listed_iff lists, and_comm]
        exact sound.subscribed_iff.symm
      by_cases record : backend.Subscribed id .record
      · have coded := (code_unwatched id _).trans (if_pos (recording.mpr record))
        refine ⟨fun live => (silent live).elim, iff_of_true coded record, ?_, kept.unchanged⟩
        rw [coded]
        exact iff_of_false (fun code => by cases code) fun nobody => nobody _ record
      · have coded := (code_unwatched id _).trans (if_neg fun same => record (recording.mp same))
        refine ⟨fun live => (silent live).elim, ?_, iff_of_true coded ?_, kept.unchanged⟩
        · rw [coded]
          exact iff_of_false (fun code => by cases code) record
        · intro sink
          cases sink with
          | live => exact silent
          | record => exact record

/-! ## That they are answered -/

/-- A manager's step without a change of the subscriptions is one of the backend. -/
theorem advance_of_step {venue : VenueId} {action : L2Manager.Action}
    {manager : L2Manager (Decoder venue)}
    (apart : ∀ holder request precision,
      (backend.managers venue).lock ≠ some (holder, .resolveAgain request precision))
    (stepped : L2Manager.step (adapters venue) (backend.managers venue) action = some manager) :
    ∃ next, backend.advance adapters venue action = some next ∧ next.managers venue = manager := by
  have moves : ∃ station, (backend.station venue).step (adapters venue)
      (.manager action (sinkFor (backend.managers venue).lock)) = some station ∧
        station.manager = manager := Station.step_of_manager apart stepped
  obtain ⟨station, moved, same⟩ := moves
  refine ⟨backend.put venue station, ?_, same ▸ managers_put_self venue station⟩
  rw [advance, moved, Option.map_some]

/-- A manager can be called. -/
theorem advance_of_invoke {venue : VenueId} {call : Nat} (operation : Operation)
    (apart : ∀ holder request precision,
      (backend.managers venue).lock ≠ some (holder, .resolveAgain request precision))
    (fresh : (backend.managers venue).calls call = none) :
    ∃ next, backend.advance adapters venue (.invoke call operation) = some next ∧
      (next.managers venue).calls call = some (L2Manager.begin (adapters venue) operation) := by
  obtain ⟨next, advanced, same⟩ := advance_of_step apart (L2Manager.step_invoke.mpr ⟨fresh, rfl⟩)
  refine ⟨next, advanced, ?_⟩
  rw [same]
  exact Function.update_self _ _ _

theorem step_manager {venue : VenueId} {action : L2Manager.Action}
    (managed : venue ∈ backend.router.managers)
    (apart : ∀ call operation, action ≠ .invoke call operation) :
    step adapters backend (.manager venue action) = backend.advance adapters venue action := by
  cases action with
  | invoke call operation => exact (apart call operation rfl).elim
  | _ => exact if_pos managed

/-- A call that is served in its manager is served in the background. -/
theorem leads_of_manager {venue : VenueId} {call : Nat} {kept : Backend Decoder → Prop}
    {goal : L2Manager (Decoder venue) → Prop}
    (managed : ∀ backend, kept backend → venue ∈ backend.router.managers ∧
      ∀ holder request precision,
        (backend.managers venue).lock ≠ some (holder, .resolveAgain request precision))
    (keeps : ∀ backend action next, action.Background → kept backend →
      step adapters backend action = some next → kept next) (initial : kept backend)
    (leads : (L2Manager.system (adapters venue)).Leads (L2Manager.Serves call)
      (backend.managers venue) goal) :
    (system adapters venues).Leads Action.Background backend fun next =>
      goal (next.managers venue) ∧ kept next := by
  refine System.Leads.lift (fun backend => backend.managers venue) kept ?_ initial leads
  intro backend action manager serves held stepped
  obtain ⟨member, apart⟩ := managed backend held
  obtain ⟨next, advanced, same⟩ := advance_of_step apart stepped
  have moved : step adapters backend (.manager venue action) = some next := by
    refine (step_manager member ?_).trans advanced
    rintro _ _ rfl
    obtain drives | acquires := serves
    · exact drives
    · cases acquires
  have background : (Action.manager venue action).Background := trivial
  exact ⟨_, next, background, moved, same, keeps _ _ _ background held moved⟩

/-- **A `Stop` is answered.** -/
theorem exists_stops (sound : Sound adapters venues backend) (idle : backend.Idle)
    (id : SubscriptionId) (sink : Sink) :
    ∃ reply after, backend.Stops adapters venues id sink reply after := by
  cases asks : Server.stop backend.router id sink with
  | error reply => exact ⟨reply, backend, .atOnce asks⟩
  | ok venue =>
      obtain ⟨bound, unused⟩ := L2Manager.exists_fresh (sound.reachable venue)
      have fresh := unused bound le_rfl
      obtain ⟨started, advanced, waits⟩ := advance_of_invoke (.unsubscribe id)
        (fun holder request precision held => idle venue _ _ (.inr ⟨_, held, rfl⟩)) fresh
      have stepped : backend.step adapters (.stop bound id sink) = some started := by
        simp only [Backend.step, asks]
        exact advanced
      have halting := Halting.begin sound idle asks stepped
      have apart : ∀ holder current, (started.managers venue).lock = some (holder, current) →
          current.change? = none := fun _ _ held =>
        halting.alone.still (halting.sound.reachable venue) waits CallState.noConfusion held
      have managed (next : Backend Decoder)
          (halting : Halting adapters venues backend venue bound id next) :
          venue ∈ next.router.managers := by
        rw [halting.sound.router.managers, ← sound.router.managers]
        exact (stop_ok asks).2.2
      have ends := L2Manager.leads_ending (halting.sound.reachable venue) apart waits
        (L2Manager.finishes_unsubscribe id)
      obtain ⟨actions, after, background, reached, ⟨outcome, ended, _⟩, _⟩ :=
        @leads_of_manager _ _ venues _ _ _ _ _
          (fun next halting => ⟨managed next halting, halting.not_adding⟩)
          (fun _ _ _ background before moved => before.step background moved) halting ends
      exact ⟨_, after, .asked asks stepped background reached ended⟩

/-- A manager has listed what it had in a state. -/
def Listed (start backend : Backend Decoder) (venue : VenueId) : Prop :=
  ∃ call, (start.managers venue).calls call = none ∧
    .respond call (.listed (L2Manager.infos (start.managers venue).subscriptions)) ∈
      (backend.managers venue).history

theorem Listed.step {venue : VenueId} {action : Action} (listed : Listed start backend venue)
    (background : action.Background) (stepped : step adapters backend action = some after) :
    Listed start after venue := by
  obtain ⟨call, fresh, recorded⟩ := listed
  refine ⟨call, fresh, ?_⟩
  obtain ⟨other, act, _, advanced⟩ | ⟨streams, rfl, _⟩ := background_cases background stepped
  · obtain ⟨station, _, ran, rfl⟩ := advance_cases advanced
    by_cases here : venue = other
    · subst here
      rw [managers_put_self]
      exact L2Manager.recorded_step ran recorded
    · rw [managers_put_other here]
      exact recorded
  · exact recorded

namespace Undisturbed

/-- No subscription is added. -/
theorem not_adding (undisturbed : Undisturbed adapters venues start backend) (venue : VenueId)
    (holder : Holder) (request : SubscribeRequest) (precision : PairPrecision) :
    (backend.managers venue).lock ≠ some (holder, .resolveAgain request precision) :=
  fun held => undisturbed.idle venue _ _ (.inr ⟨_, held, rfl⟩)

/-- A manager that is asked to List does so. -/
theorem leads_listed (sound : Sound adapters venues start)
    (undisturbed : Undisturbed adapters venues start backend) {venue : VenueId}
    (member : venue ∈ venues) :
    (system adapters venues).Leads Action.Background backend fun next =>
      Listed start next venue ∧ Undisturbed adapters venues start next := by
  have managed (next : Backend Decoder) (undisturbed : Undisturbed adapters venues start next) :
      venue ∈ next.router.managers := undisturbed.sound.router.managers ▸ member
  obtain ⟨first, unused⟩ := L2Manager.exists_fresh (sound.reachable venue)
  obtain ⟨second, still⟩ := L2Manager.exists_fresh (undisturbed.sound.reachable venue)
  obtain ⟨asked, advanced, waits⟩ := advance_of_invoke .list (undisturbed.not_adding venue)
    (still (max first second) (le_max_right _ _))
  have asks : (Action.ask venue (max first second) .list).Background := trivial
  have stepped : (system adapters venues).step backend
      (.ask venue (max first second) .list) = some asked :=
    (if_pos ⟨managed backend undisturbed, rfl⟩).trans advanced
  have later := undisturbed.step asks stepped
  have apart : ∀ holder current, (asked.managers venue).lock = some (holder, current) →
      current.change? = none := by
    intro holder current held
    cases goes : current.change? with
    | none => rfl
    | some change => exact (later.idle venue holder change (.inr ⟨current, held, goes⟩)).elim
  have ends := L2Manager.leads_ending (later.sound.reachable venue) apart waits
    L2Manager.finishes_list
  have served := @leads_of_manager _ _ venues _ _ _ _ _
    (fun next kept => ⟨managed next kept, kept.not_adding venue⟩)
    (fun _ _ _ background before moved => before.step background moved) later ends
  refine .after stepped asks (served.trans ?_)
  rintro next ⟨⟨_, ending, listed, rfl⟩, kept⟩
  have answers := @L2Manager.step_respond _ (adapters venue) _ _ _ ending
  obtain ⟨after, moved, same⟩ := advance_of_step (kept.not_adding venue) answers
  have responds : (Action.manager venue (.respond (max first second))).Background := trivial
  have moved : (system adapters venues).step next
      (.manager venue (.respond (max first second))) = some after :=
    (step_manager (managed next kept) fun _ _ => L2Manager.Action.noConfusion).trans moved
  have fresh := unused (max first second) (le_max_left _ _)
  refine .after moved responds (.here ⟨⟨_, fresh, ?_⟩, kept.step responds moved⟩)
  obtain rfl := kept.lists venue _ listed fresh (.inl ending)
  rw [same]
  exact List.mem_append_right _ (List.mem_singleton.mpr rfl)

/-- Managers that are asked to List do so in turn. -/
theorem leads_listed_all (sound : Sound adapters venues start) (todo : List VenueId)
    (members : ∀ venue ∈ todo, venue ∈ venues)
    (undisturbed : Undisturbed adapters venues start backend) :
    (system adapters venues).Leads Action.Background backend fun next =>
      ∀ venue ∈ todo, Listed start next venue := by
  induction todo generalizing backend with
  | nil => exact .here fun _ member => (List.not_mem_nil member).elim
  | cons venue rest ih =>
      obtain ⟨member, others⟩ := List.forall_mem_cons.mp members
      refine (undisturbed.leads_listed sound member).trans ?_
      intro next ⟨listed, kept⟩
      have keeps : ∀ state action next, Action.Background action → Listed start state venue →
          (system adapters venues).step state action = some next → Listed start next venue :=
        fun _ _ _ background listed stepped => listed.step background stepped
      have later := (ih others kept).invariant keeps listed
      exact later.mono (fun _ => id) fun _ ⟨rest, first⟩ => List.forall_mem_cons.mpr ⟨first, rest⟩

end Undisturbed

/-- **A `Watch` is answered.** -/
theorem exists_watches (sound : Sound adapters venues backend) (idle : backend.Idle)
    (session : WatcherId) (id : SubscriptionId) :
    ∃ reply after, backend.Watches adapters venues session id reply after := by
  cases streamed : backend.streams.outbox.find? id with
  | some stream =>
      refine ⟨_, _, .found streamed (fun _ member => (List.not_mem_nil member).elim) rfl⟩
  | none =>
      have listing := (Undisturbed.refl sound idle).leads_listed_all sound
        backend.router.managers fun venue member => sound.router.managers ▸ member
      obtain ⟨actions, after, background, reached, listed⟩ := listing
      exact ⟨_, after, .missing streamed background reached listed⟩

/-- **What `Stop` and `Watch` are answered.** While no other command changes the
subscriptions, each is answered: a `Watch` as the wire says, a `Stop` as the wire says if and
only if its id names its sink or somebody is subscribed under the id. -/
theorem stop_and_watch_codes (reachable : (system adapters venues).Reachable backend)
    (idle : backend.Idle) (id : SubscriptionId) :
    (∀ sink,
      (∃ reply after, backend.Stops adapters venues id sink reply after) ∧
        ∀ reply after, backend.Stops adapters venues id sink reply after →
          (backend.StopLaw after id sink reply ↔
            sinkOf id = some sink ∨ ∃ named, backend.Subscribed id named)) ∧
      ∀ session,
        (∃ reply after, backend.Watches adapters venues session id reply after) ∧
          ∀ reply after, backend.Watches adapters venues session id reply after →
            backend.WatchLaw after id reply := by
  have sound := Sound.of_reachable reachable
  refine ⟨fun sink => ⟨exists_stops sound idle id sink, ?_⟩, fun session =>
    ⟨exists_watches sound idle session id, ?_⟩⟩
  · exact fun reply after stops => stop_law_iff sound idle stops
  · exact fun reply after watches => watch_law sound idle watches

/-- A live subscription is stopped and watched. -/
theorem stop_and_watch_codes_live :
    let adapter : Adapter Unit :=
      { name := "kraken", depths := [10], bookChecksum := none, checkSymbol := fun _ => .ok ()
        connectRequests := [], makeBookRequest := fun _ book => book.symbol
        makeDecoder := (), decode := fun decoder _ => .done decoder }
    let served : List L2Manager.Action :=
      [.acquire (.call 0), .run, .fetch 0, .acquire (.call 0), .run, .run, .run, .respond 0]
    let actions : List Action :=
      [.subscribe 0 ⟨.kraken, .live, ⟨"XBT/USD", 10⟩⟩, .count 0,
        .hand 0 0 (.ok ⟨1, 8⟩) (fun _ => .ok ()) 7] ++ served.map (.manager .kraken)
    ∃ backend, (system (fun _ => adapter) [.kraken]).run actions = some backend ∧
      backend.Subscribed 65536 .live ∧
      (∃ reply after, backend.Stops (fun _ => adapter) [.kraken] 65536 .live reply after ∧
        reply = .ok ∧ backend.Removed after 65536) ∧
      (∃ reply after, backend.Stops (fun _ => adapter) [.kraken] 65536 .record reply after ∧
        reply.code? = some .sinkMismatch ∧ backend.Unchanged after) ∧
      ∃ reply after, backend.Watches (fun _ => adapter) [.kraken] 3 65536 reply after ∧
        reply = .ok := by
  intro adapter served actions
  have ran : ((system (fun _ => adapter) [.kraken]).run actions).map (fun backend =>
      ((backend.managers .kraken).allReturned,
        ((backend.managers .kraken).subscriptions.find? 65536).map fun subscription =>
          backend.transmitters .kraken subscription.receiver)) = some (true, some true) := by
    decide +kernel
  obtain ⟨backend, reached, seen⟩ := Option.map_eq_some_iff.mp ran
  obtain ⟨returned, found⟩ := Prod.mk.inj seen
  obtain ⟨subscription, found, transmits⟩ := Option.map_eq_some_iff.mp found
  have live : backend.Subscribed 65536 .live := ⟨_, subscription, found, transmits⟩
  have idle : backend.Idle := by
    refine idle_of_returned ⟨_, reached⟩ fun venue managed => ?_
    obtain rfl := List.mem_singleton.mp managed
    exact returned
  obtain ⟨stop, watch⟩ := stop_and_watch_codes ⟨_, reached⟩ idle 65536
  obtain ⟨⟨reply, after, stops⟩, stopLaw⟩ := stop .live
  obtain ⟨⟨refusal, left, refused⟩, refusalLaw⟩ := stop .record
  obtain ⟨⟨answer, watched, watches⟩, watchLaw⟩ := watch 3
  have law := (stopLaw reply after stops).mpr (.inr ⟨_, live⟩)
  have mismatch := (refusalLaw refusal left refused).mpr (.inr ⟨_, live⟩)
  have coded := mismatch.mismatch.mpr live
  obtain ⟨ok, removed⟩ := law.stopped live
  refine ⟨backend, reached, live, ⟨reply, after, stops, ok, removed⟩,
    ⟨refusal, left, refused, coded, mismatch.failed ?_⟩,
    answer, watched, watches, (watchLaw answer watched watches).watched live⟩
  rintro rfl
  cases coded

/-- A `Stop` of an id that nobody was ever given is answered that it has another sink. -/
theorem stop_law_fails :
    let adapters : VenueId → Adapter Unit := fun _ =>
      { name := "kraken", depths := [10], bookChecksum := none, checkSymbol := fun _ => .ok ()
        connectRequests := [], makeBookRequest := fun _ book => book.symbol
        makeDecoder := (), decode := fun decoder _ => .done decoder }
    ∃ backend, (system adapters [.kraken]).Reachable backend ∧ backend.Idle ∧
      ∃ reply after, backend.Stops adapters [.kraken] 65536 .record reply after ∧
        reply.code? = some .sinkMismatch ∧ (∀ sink, ¬ backend.Subscribed 65536 sink) ∧
          ¬ backend.StopLaw after 65536 .record reply := by
  intro adapters
  have unsubscribed (sink : Sink) : ¬ (init adapters [.kraken]).Subscribed 65536 sink := by
    intro ⟨_, _, found, _⟩
    exact Option.some_ne_none _ found.symm
  refine ⟨_, .init, ?_, _, _, .atOnce rfl, rfl, unsubscribed, fun law => ?_⟩
  · exact idle_of_returned .init fun _ _ => rfl
  · exact unsubscribed _ (law.mismatch.mp rfl)

end Backend

end DataFeed.Frontend
