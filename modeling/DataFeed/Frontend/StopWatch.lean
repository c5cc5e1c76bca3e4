import DataFeed.Frontend.Backend
import DataFeed.Venue.Registered

/-! # What `Stop` and `Watch` are answered

However the commands interleave, a subscription is recorded by the venue its id names, its
receiver is for the sink its id names, and a stream is registered exactly for the live ones
(`Sound`). So while no other `Start` or `Stop` is on its way, a `Watch` is answered as the
wire says, and so is a `Stop` whose id names its sink or belongs to a subscription. A
`Stop` of an id that names the other sink is answered that it does, also if nothing has
that id.
-/

namespace DataFeed.Frontend

open Foundation L2 Venue DataFeed.Core

namespace Backend

variable {Decoder : VenueId → Type} {adapters : ∀ venue, Adapter (Decoder venue)}
  {venues : List VenueId} {backend next : Backend Decoder}

/-- A manager's step is its station's, put back. -/
theorem advance_cases {venue : VenueId} {action : L2Manager.Action}
    (stepped : backend.advance adapters venue action = some next) :
    ∃ station, (backend.station venue).step (adapters venue)
        (.manager action (sinkFor (backend.managers venue).lock)) = some station ∧
      L2Manager.step (adapters venue) (backend.managers venue) action = some station.manager ∧
        next = backend.put venue station := by
  obtain ⟨station, moved, rfl⟩ := Option.map_eq_some_iff.mp stepped
  refine ⟨station, moved, ?_, rfl⟩
  by_cases runs : action = .run
  · subst runs
    simp only [Station.step] at moved
    split at moved
    · contradiction
    · obtain ⟨manager, ran, rest⟩ := Option.bind_eq_some_iff.mp moved
      obtain ⟨built, _, rfl⟩ := Option.map_eq_some_iff.mp rest
      exact ran
  · exact Station.step_beside_manager moved runs

/-- A venue's manager is the one of the station put there. -/
@[simp] theorem managers_put_self (venue : VenueId) (station : Station (Decoder venue)) :
    (backend.put venue station).managers venue = station.manager := Function.update_self _ _ _

/-- The managers of other venues stay what they were. -/
theorem managers_put_other {venue other : VenueId} (apart : other ≠ venue)
    (station : Station (Decoder venue)) :
    (backend.put venue station).managers other = backend.managers other :=
  Function.update_of_ne apart _ _

/-- A venue's transmitters are those of the station put there. -/
@[simp] theorem transmitters_put_self (venue : VenueId) (station : Station (Decoder venue)) :
    (backend.put venue station).transmitters venue = station.transmitters :=
  Function.update_self _ _ _

/-- The transmitters of other venues stay what they were. -/
theorem transmitters_put_other {venue other : VenueId} (apart : other ≠ venue)
    (station : Station (Decoder venue)) :
    (backend.put venue station).transmitters other = backend.transmitters other :=
  Function.update_of_ne apart _ _

/-- The sink that an id's receiver is for. -/
def IsFor (transmits : Bool) (id : SubscriptionId) : Prop :=
  ∃ sink, sinkOf id = some sink ∧ transmits = decide (sink = .live)

/-- The ids that the router hands to a venue's manager. -/
def Handed (venues : List VenueId) (venue : VenueId) (id : SubscriptionId) : Prop :=
  venue ∈ venues ∧ venueOf id = venue ∧ (sinkOf id).isSome

variable (adapters venues backend) in
/-- What holds of the subscriptions however the commands interleave. -/
structure Sound : Prop where
  router : Router.Sound venues backend.router
  reachable : ∀ venue, (L2Manager.system (adapters venue)).Reachable (backend.managers venue)
  asked : ∀ venue holder request,
    (backend.managers venue).Changing holder (.subscribe request) → Handed venues venue request.id
  rows : ∀ venue id subscription,
    (backend.managers venue).subscriptions.find? id = some subscription →
      venue ∈ venues ∧ venueOf id = venue ∧
        IsFor (backend.transmitters venue subscription.receiver) id
  registered : ∀ id, (backend.streams.outbox.find? id).isSome = true ↔
    ∃ venue, (backend.station venue).Live id

namespace Sound

/-- A backend that was just made is sound. -/
theorem init : Sound adapters venues (.init adapters venues) where
  router := .init venues
  reachable _ := .init
  asked venue holder request changing := by
    obtain ⟨_, _, _, stands, _⟩ | ⟨_, locked, _⟩ := changing
    · exact (Option.some_ne_none _ stands.symm).elim
    · exact (Option.some_ne_none _ locked.symm).elim
  rows _ _ _ found := (Option.some_ne_none _ found.symm).elim
  registered id := by
    refine iff_of_false Bool.false_ne_true ?_
    intro ⟨_, _, found, _⟩
    exact Option.some_ne_none _ found.symm

/-- A receiver's name is younger than those of the table. -/
theorem named (sound : Sound adapters venues backend) (venue : VenueId) (id : SubscriptionId)
    (subscription : Subscription)
    (found : (backend.managers venue).subscriptions.find? id = some subscription) :
    subscription.receiver < (backend.managers venue).nextReceiver :=
  (L2Manager.Streams.of_reachable (sound.reachable venue)).2.2.named id subscription found

/-- The rows of a manager that has moved. -/
theorem rows_step (sound : Sound adapters venues backend) {venue : VenueId}
    {station : Station (Decoder venue)}
    (books : Station.Books (sinkFor (backend.managers venue).lock) (backend.station venue) station)
    (id : SubscriptionId) (subscription : Subscription)
    (found : station.manager.subscriptions.find? id = some subscription) :
    venue ∈ venues ∧ venueOf id = venue ∧ IsFor (station.transmitters subscription.receiver) id := by
  cases books with
  | still table transmitters outbox =>
      rw [table] at found
      rw [transmitters]
      exact sound.rows venue id subscription found
  | added held absent table transmitters registered =>
      rename_i holder request precision
      rw [table, OrderedMap.find?_insert] at found
      rw [transmitters]
      split at found
      · rename_i same
        obtain rfl := Option.some.inj found
        obtain ⟨managed, named, sink⟩ := sound.asked venue holder request (.inr ⟨_, held, rfl⟩)
        obtain ⟨sink, named_sink⟩ := Option.isSome_iff_exists.mp sink
        rw [same, Function.update_self]
        refine ⟨managed, named, sink, named_sink, ?_⟩
        have held : (backend.managers venue).lock = some (holder, .resolveAgain request precision) :=
          held
        simp only [held, sinkFor, named_sink, Option.getD_some]
      · have older := sound.named venue id subscription found
        have kept := sound.rows venue id subscription found
        rw [show (backend.station venue).manager = backend.managers venue from rfl,
          Function.update_of_ne older.ne]
        exact kept
  | removed held present table transmitters streams =>
      rw [table, OrderedMap.find?_erase] at found
      rw [transmitters]
      split at found
      · contradiction
      · exact sound.rows venue id subscription found

/-- An id is live with the venue it names only. -/
theorem venue_of_live (sound : Sound adapters venues backend) {venue : VenueId}
    {id : SubscriptionId} (live : (backend.station venue).Live id) : venueOf id = venue := by
  obtain ⟨subscription, found, _⟩ := live
  exact (sound.rows venue id subscription found).2.1

/-- The registered streams after a manager has moved. -/
theorem registered_step (sound : Sound adapters venues backend) {venue : VenueId}
    {station : Station (Decoder venue)} (keeps : Station.Keeps (backend.station venue) station)
    (id : SubscriptionId) :
    (station.streams.outbox.find? id).isSome = true ↔
      ∃ other, ((backend.put venue station).station other).Live id := by
  have here : ((backend.put venue station).station venue).Live id ↔ station.Live id := by
    unfold Station.Live
    simp only [Backend.station, managers_put_self, transmitters_put_self]
  have there {other : VenueId} (apart : other ≠ venue) :
      ((backend.put venue station).station other).Live id ↔ (backend.station other).Live id := by
    unfold Station.Live
    simp only [Backend.station, managers_put_other apart, transmitters_put_other apart]
  have split : (∃ other, ((backend.put venue station).station other).Live id) ↔
      station.Live id ∨ ∃ other, other ≠ venue ∧ (backend.station other).Live id := by
    constructor
    · intro alive
      obtain ⟨other, live⟩ := alive
      by_cases same : other = venue
      · subst same
        exact .inl (here.mp live)
      · exact .inr ⟨other, same, (there same).mp live⟩
    · rintro (live | ⟨other, apart, live⟩)
      · exact ⟨venue, here.mpr live⟩
      · exact ⟨other, (there apart).mpr live⟩
  have before : (backend.station venue).Registered id ↔
      (backend.station venue).Live id ∨
        ∃ other, other ≠ venue ∧ (backend.station other).Live id := by
    refine (sound.registered id).trans ⟨fun alive => ?_, ?_⟩
    · obtain ⟨other, live⟩ := alive
      by_cases same : other = venue
      · subst same
        exact .inl live
      · exact .inr ⟨other, same, live⟩
    · rintro (live | ⟨other, _, live⟩)
      · exact ⟨venue, live⟩
      · exact ⟨other, live⟩
  rw [split]
  change station.Registered id ↔ _
  cases keeps with
  | same live registered => rw [live, registered, before]
  | adds added live registered => rw [live, registered, before, or_assoc]
  | drops dropped present live registered =>
      rw [live, registered, before]
      constructor
      · intro alive
        obtain ⟨other, either⟩ := alive
        exact either.imp_left fun live => ⟨other, live⟩
      · rintro (⟨other, live⟩ | ⟨other, apart, elsewhere⟩)
        · exact ⟨other, .inl live⟩
        · refine ⟨?_, .inr ⟨other, apart, elsewhere⟩⟩
          rintro rfl
          exact apart ((sound.venue_of_live elsewhere).symm.trans (sound.venue_of_live present))

/-- A manager takes a step, in which nobody calls it to subscribe but with an id that the
router hands to it. -/
theorem advance (sound : Sound adapters venues backend) {venue : VenueId}
    {action : L2Manager.Action}
    (asks : ∀ call request, action = .invoke call (.subscribe request) →
      Handed venues venue request.id)
    (stepped : backend.advance adapters venue action = some next) :
    Sound adapters venues next := by
  obtain ⟨station, moved, ran, rfl⟩ := advance_cases stepped
  have books := Station.books_of_step (sound.reachable venue) moved
  refine ⟨sound.router, ?_, ?_, ?_, ?_⟩
  · intro other
    by_cases same : other = venue
    · subst same
      rw [managers_put_self]
      exact (sound.reachable other).step ran
    · rw [managers_put_other same]
      exact sound.reachable other
  · intro other holder request changing
    by_cases same : other = venue
    · subst same
      rw [managers_put_self] at changing
      obtain before | ⟨call, operation, _, rfl, goes⟩ := L2Manager.changing_step ran changing
      · exact sound.asked other holder request before
      · cases operation with
        | subscribe wanted =>
            cases goes
            exact asks call request rfl
        | connect | disconnect | healthy | unsubscribe | list => cases goes
    · rw [managers_put_other same] at changing
      exact sound.asked other holder request changing
  · intro other id subscription found
    by_cases same : other = venue
    · subst same
      rw [managers_put_self] at found
      rw [transmitters_put_self]
      exact sound.rows_step books id subscription found
    · rw [managers_put_other same] at found
      rw [transmitters_put_other same]
      exact sound.rows other id subscription found
  · exact sound.registered_step (books.keeps (sound.named venue))

/-- What the router hands to a manager names the venue and a sink. -/
theorem handed_of_hand {router after : Router} (sound : Router.Sound venues router) {call : Nat}
    {asked : SubscribeCall} {counter : UInt64} {id : SubscriptionId}
    (counted : router.calls call = some (.counted asked counter))
    (stepped : router.step (.hand call) = some after)
    (given : after.calls call = some (.given id)) : Handed venues asked.venue id := by
  obtain ⟨_, managed, _⟩ := sound.recorded call _ counted
  simp only [Router.step, counted] at stepped
  split at stepped
  · obtain rfl := Option.some.inj stepped
    dsimp only at given
    rw [Function.update_self] at given
    cases given
  · rename_i allowed
    have allowed : counter ≤ maxSubscriptionsAllowed := UInt64.not_lt.mp allowed
    obtain rfl := Option.some.inj stepped
    dsimp only at given
    rw [Function.update_self] at given
    cases given
    refine ⟨sound.managers ▸ managed, venueOf_makeSubscriptionId allowed, ?_⟩
    rw [sinkOf_makeSubscriptionId allowed]
    rfl

/-- Every step of a caller, a manager or a thread keeps the backend sound. -/
theorem step {action : Action} (sound : Sound adapters venues backend)
    (stepped : Backend.step adapters backend action = some next) :
    Sound adapters venues next := by
  cases action with
  | subscribe call asked =>
      obtain ⟨router, moved, rfl⟩ := Option.map_eq_some_iff.mp stepped
      exact { sound with router := sound.router.step moved }
  | count call =>
      obtain ⟨router, moved, rfl⟩ := Option.map_eq_some_iff.mp stepped
      exact { sound with router := sound.router.step moved }
  | hand call inner precision makeReceiver nowNs =>
      obtain ⟨router, moved, rest⟩ := Option.bind_eq_some_iff.mp stepped
      have later : Sound adapters venues { backend with router := router } :=
        { sound with router := sound.router.step moved }
      split at rest
      · rename_i asked counter id counted given
        refine later.advance ?_ rest
        rintro _ _ ⟨⟩
        exact handed_of_hand sound.router counted moved given
      · obtain rfl := Option.some.inj rest
        exact later
  | stop call id sink =>
      simp only [Backend.step] at stepped
      split at stepped
      · exact Option.some.inj stepped ▸ sound
      · refine sound.advance ?_ stepped
        rintro _ _ ⟨⟩
  | ask venue call operation =>
      simp only [Backend.step] at stepped
      split at stepped
      · rename_i allowed
        refine sound.advance ?_ stepped
        rintro _ _ ⟨⟩
        cases allowed.2
      · contradiction
  | manager venue action =>
      have advances : ∀ other, (∀ call operation, other ≠ L2Manager.Action.invoke call operation) →
          (if venue ∈ backend.router.managers then backend.advance adapters venue other
            else none) = some next → Sound adapters venues next := by
        intro other apart moved
        split at moved
        · exact sound.advance (fun call request same => (apart call _ same).elim) moved
        · contradiction
      cases action with
      | invoke => contradiction
      | _ => exact advances _ (fun _ _ => L2Manager.Action.noConfusion) stepped
  | call stream made =>
      obtain rfl := Option.some.inj stepped
      exact { sound with registered := sound.registered }

/-- Every reachable backend is sound. -/
theorem of_reachable (reachable : (system adapters venues).Reachable backend) :
    Sound adapters venues backend := by
  apply reachable.invariant
  · exact init
  · exact fun _ _ _ sound stepped => sound.step stepped

/-- The sink of a subscription is the one its id names. -/
theorem subscribed_iff (sound : Sound adapters venues backend) {id : SubscriptionId}
    {sink : Sink} : backend.Subscribed id sink ↔ sinkOf id = some sink ∧
      ∃ venue subscription, (backend.managers venue).subscriptions.find? id = some subscription := by
  constructor
  · intro ⟨venue, subscription, found, transmits⟩
    obtain ⟨_, _, named, names, same⟩ := sound.rows venue id subscription found
    rw [transmits] at same
    refine ⟨?_, venue, subscription, found⟩
    cases sink <;> cases named <;> first | exact names | cases same
  · intro ⟨names, venue, subscription, found⟩
    obtain ⟨_, _, stated, read, same⟩ := sound.rows venue id subscription found
    obtain rfl := Option.some.inj (names.symm.trans read)
    exact ⟨venue, subscription, found, same⟩

/-- No stream is registered for a recording. -/
theorem unregistered (sound : Sound adapters venues backend) {venue : VenueId}
    {id : SubscriptionId} {subscription : Subscription}
    (found : (backend.managers venue).subscriptions.find? id = some subscription)
    (records : ¬ backend.transmitters venue subscription.receiver = true) :
    backend.streams.outbox.find? id = none := by
  refine Option.not_isSome_iff_eq_none.mp fun registered => ?_
  obtain ⟨other, live⟩ := (sound.registered id).mp registered
  have same : other = venue :=
    (sound.venue_of_live live).symm.trans (sound.rows venue id subscription found).2.1
  subst same
  obtain ⟨streamed, present, transmits⟩ := live
  obtain rfl := Option.some.inj (found.symm.trans present)
  exact records transmits

end Sound

/-- A `Stop` that is not answered at once asks the manager that its id names. -/
theorem stop_ok {router : Router} {id : SubscriptionId} {sink : Sink} {venue : VenueId}
    (asks : Server.stop router id sink = .ok venue) :
    sinkOf id = some sink ∧ venueOf id = venue ∧ venue ∈ router.managers := by
  unfold Server.stop at asks
  split at asks
  · contradiction
  · rename_i names
    refine ⟨not_not.mp names, ?_⟩
    split at asks
    · contradiction
    · rename_i managed found
      obtain rfl := Except.ok.inj asks
      unfold Router.managerOf at found
      split at found
      · rename_i member
        obtain rfl := Option.some.inj found
        exact ⟨rfl, member⟩
      · contradiction

/-- A venue that nobody manages is left alone. -/
theorem unmanaged_step {action : Action} {venue : VenueId} (sound : Sound adapters venues backend)
    (unmanaged : venue ∉ venues) (stepped : step adapters backend action = some next) :
    next.managers venue = backend.managers venue := by
  have advanced {start : Backend Decoder} {other : VenueId} {act : L2Manager.Action}
      (managed : other ∈ venues) (moved : start.advance adapters other act = some next) :
      next.managers venue = start.managers venue := by
    obtain ⟨station, _, _, rfl⟩ := advance_cases moved
    refine managers_put_other ?_ station
    rintro rfl
    exact unmanaged managed
  have member {other : VenueId} (among : other ∈ backend.router.managers) : other ∈ venues :=
    sound.router.managers ▸ among
  cases action with
  | subscribe call asked =>
      obtain ⟨router, _, rfl⟩ := Option.map_eq_some_iff.mp stepped
      rfl
  | count call =>
      obtain ⟨router, _, rfl⟩ := Option.map_eq_some_iff.mp stepped
      rfl
  | hand call inner precision makeReceiver nowNs =>
      obtain ⟨router, _, rest⟩ := Option.bind_eq_some_iff.mp stepped
      split at rest
      · rename_i asked counter id counted given
        have managed := member (sound.router.recorded call _ counted).2.1
        exact (advanced managed rest).trans rfl
      · obtain rfl := Option.some.inj rest
        rfl
  | stop call id sink =>
      simp only [step] at stepped
      split at stepped
      · obtain rfl := Option.some.inj stepped
        rfl
      · rename_i asks
        exact advanced (member (stop_ok asks).2.2) stepped
  | ask other call operation =>
      simp only [step] at stepped
      split at stepped
      · rename_i allowed
        exact advanced (member allowed.1) stepped
      · contradiction
  | manager other act =>
      have moves (moved : (if other ∈ backend.router.managers then
          backend.advance adapters other act else none) = some next) :
          next.managers venue = backend.managers venue := by
        split at moved
        · rename_i managed
          exact advanced (member managed) moved
        · contradiction
      cases act with
      | invoke => contradiction
      | _ => exact moves stepped
  | call stream made =>
      obtain rfl := Option.some.inj stepped
      rfl

/-- The commands are all over when every call of a manager has returned. -/
theorem idle_of_returned (reachable : (system adapters venues).Reachable backend)
    (returned : ∀ venue ∈ venues, (backend.managers venue).allReturned = true) :
    backend.Idle := by
  intro venue
  by_cases managed : venue ∈ venues
  · exact L2Manager.unchanging_of_returned ((Sound.of_reachable reachable).reachable venue)
      (returned venue managed)
  · have same : backend.managers venue = .init (adapters venue) := by
      apply reachable.induction
      · rfl
      · exact fun _ _ _ reached same stepped =>
          (unmanaged_step (Sound.of_reachable reached) managed stepped).trans same
    rw [same]
    exact L2Manager.unchanging_of_returned .init rfl

/-- A step in the background is one of a manager that nobody calls for a change, or leaves
the managers and the outbox as they are. -/
theorem background_cases {action : Action} (background : action.Background)
    (stepped : step adapters backend action = some next) :
    (∃ venue act, L2Manager.Action.Calm act ∧ backend.advance adapters venue act = some next) ∨
      ∃ streams, next = { backend with streams := streams } ∧
        streams.outbox = backend.streams.outbox := by
  cases action with
  | subscribe | count | hand | stop => exact background.elim
  | ask venue call operation =>
      simp only [step] at stepped
      split at stepped
      · rename_i allowed
        refine .inl ⟨venue, _, ?_, stepped⟩
        rintro _ _ ⟨⟩
        exact Option.isNone_iff_eq_none.mp allowed.2
      · contradiction
  | manager venue action =>
      have advances : ∀ other, (∀ call operation, other ≠ L2Manager.Action.invoke call operation) →
          (if venue ∈ backend.router.managers then backend.advance adapters venue other
            else none) = some next →
              ∃ venue act, L2Manager.Action.Calm act ∧
                backend.advance adapters venue act = some next := by
        intro other apart moved
        split at moved
        · exact ⟨venue, other, fun call operation same => (apart call operation same).elim, moved⟩
        · contradiction
      cases action with
      | invoke => contradiction
      | _ => exact .inl (advances _ (fun _ _ => L2Manager.Action.noConfusion) stepped)
  | call stream made =>
      obtain rfl := Option.some.inj stepped
      exact .inr ⟨_, rfl, rfl⟩

/-- A manager that nobody changes the subscriptions of, and nobody calls to, keeps them. -/
theorem calm_step (sound : Sound adapters venues backend) {venue : VenueId}
    {station : Station (Decoder venue)} {act : L2Manager.Action} {sink : Sink}
    (idle : ∀ holder change, ¬ (backend.managers venue).Changing holder change)
    (calm : L2Manager.Action.Calm act)
    (moved : (backend.station venue).step (adapters venue) (.manager act sink) = some station)
    (ran : L2Manager.step (adapters venue) (backend.managers venue) act = some station.manager) :
    (∀ holder change, ¬ station.manager.Changing holder change) ∧
      station.manager.subscriptions = (backend.managers venue).subscriptions ∧
        station.transmitters = backend.transmitters venue ∧
          station.streams.outbox = backend.streams.outbox := by
  constructor
  · intro holder change changing
    obtain before | ⟨_, operation, _, rfl, goes⟩ := L2Manager.changing_step ran changing
    · exact idle holder change before
    · exact Option.some_ne_none _ (goes.symm.trans (calm _ _ rfl))
  · cases Station.books_of_step (sound.reachable venue) moved with
    | still table transmitters outbox => exact ⟨table, transmitters, outbox⟩
    | added held => exact (idle _ _ (.inr ⟨_, held, rfl⟩)).elim
    | removed held => exact (idle _ _ (.inr ⟨_, held, rfl⟩)).elim

/-- The receivers that are transmitters, after a manager has moved that made none. -/
theorem transmitters_put {venue : VenueId} {station : Station (Decoder venue)}
    (same : station.transmitters = backend.transmitters venue) :
    (backend.put venue station).transmitters = backend.transmitters := by
  funext other
  by_cases here : other = venue
  · subst here
    rw [transmitters_put_self, same]
  · rw [transmitters_put_other here]

/-- What holds of the manager that moved and of the others holds of all. -/
theorem forall_put (property : ∀ other, L2Manager (Decoder other) → Prop) {venue : VenueId}
    {station : Station (Decoder venue)} (here : property venue station.manager)
    (there : ∀ other, other ≠ venue → property other (backend.managers other)) (other : VenueId) :
    property other ((backend.put venue station).managers other) := by
  by_cases same : other = venue
  · subst same
    rw [managers_put_self]
    exact here
  · rw [managers_put_other same]
    exact there other same

/-- A backend is unchanged from itself. -/
theorem Unchanged.refl (backend : Backend Decoder) : Unchanged backend backend :=
  ⟨fun _ => rfl, rfl, rfl⟩

/-- What goes on while nobody changes a subscription, since a state in which a command is
begun. -/
structure Undisturbed (adapters : ∀ venue, Adapter (Decoder venue)) (venues : List VenueId)
    (start backend : Backend Decoder) : Prop where
  sound : Sound adapters venues backend
  idle : backend.Idle
  unchanged : Unchanged start backend
  lists : ∀ venue, L2Manager.Lists (start.managers venue) (backend.managers venue)

namespace Undisturbed

variable {start : Backend Decoder}

/-- A backend in which nobody is inside a call is undisturbed. -/
theorem refl (sound : Sound adapters venues start) (idle : start.Idle) :
    Undisturbed adapters venues start start :=
  ⟨sound, idle, .refl start, fun venue => .refl (sound.reachable venue)⟩

/-- A background step leaves the backend undisturbed. -/
theorem step {action : Action} (undisturbed : Undisturbed adapters venues start backend)
    (background : action.Background) (stepped : Backend.step adapters backend action = some next) :
    Undisturbed adapters venues start next := by
  have sound := undisturbed.sound.step stepped
  obtain ⟨tables, receivers, outbox⟩ := undisturbed.unchanged
  obtain ⟨venue, act, calm, advanced⟩ | ⟨streams, rfl, same⟩ := background_cases background stepped
  · obtain ⟨station, moved, ran, rfl⟩ := advance_cases advanced
    obtain ⟨idle, table, transmitters, streams⟩ :=
      calm_step undisturbed.sound (undisturbed.idle venue) calm moved ran
    refine ⟨sound, ?_, ⟨?_, ?_, streams.trans outbox⟩, ?_⟩
    · apply forall_put (fun _ manager => ∀ holder change, ¬ manager.Changing holder change)
      · exact idle
      · exact fun other _ => undisturbed.idle other
    · apply forall_put fun other manager =>
        manager.subscriptions = (start.managers other).subscriptions
      · exact table.trans (tables venue)
      · exact fun other _ => tables other
    · exact (transmitters_put transmitters).trans receivers
    · apply forall_put fun other manager => L2Manager.Lists (start.managers other) manager
      · exact (undisturbed.lists venue).step (tables venue) ran
      · exact fun other _ => undisturbed.lists other
  · exact ⟨sound, undisturbed.idle, ⟨tables, receivers, same.trans outbox⟩, undisturbed.lists⟩

/-- A whole run of background steps leaves the backend undisturbed. -/
theorem runFrom {actions : List Action} {final : Backend Decoder}
    (undisturbed : Undisturbed adapters venues start backend)
    (background : ∀ action ∈ actions, action.Background)
    (reached : (system adapters venues).runFrom backend actions = some final) :
    Undisturbed adapters venues start final :=
  System.runFrom_invariant (fun _ _ _ background before stepped => before.step background stepped)
    undisturbed background reached

end Undisturbed

/-- Where a `Stop` stands that has called a manager, in a state in which nobody else changes
a subscription. -/
structure Halting (adapters : ∀ venue, Adapter (Decoder venue)) (venues : List VenueId)
    (start : Backend Decoder) (venue : VenueId) (call : Nat) (id : SubscriptionId)
    (backend : Backend Decoder) : Prop where
  sound : Sound adapters venues backend
  alone : (backend.managers venue).Alone call
  idle : ∀ other, other ≠ venue → ∀ holder change,
    ¬ (backend.managers other).Changing holder change
  tables : ∀ other, other ≠ venue →
    (backend.managers other).subscriptions = (start.managers other).subscriptions
  receivers : backend.transmitters = start.transmitters
  stands : L2Manager.Unsubscribing (start.managers venue).subscriptions call id
    (backend.managers venue)
  outbox :
    (backend.managers venue).subscriptions = (start.managers venue).subscriptions ∧
        backend.streams.outbox = start.streams.outbox ∨
      (backend.managers venue).subscriptions = (start.managers venue).subscriptions.erase id ∧
        backend.streams.outbox = start.streams.outbox.erase id ∧
          (start.managers venue).subscriptions.find? id ≠ none

namespace Halting

variable {start : Backend Decoder} {venue : VenueId} {call : Nat} {id : SubscriptionId}

/-- A `Stop` calls the manager. -/
theorem begin (sound : Sound adapters venues start) (idle : start.Idle) {sink : Sink}
    (asks : Server.stop start.router id sink = .ok venue)
    (stepped : start.step adapters (.stop call id sink) = some backend) :
    Halting adapters venues start venue call id backend := by
  have later := sound.step stepped
  simp only [Backend.step, asks] at stepped
  obtain ⟨station, moved, ran, rfl⟩ := advance_cases stepped
  have books := Station.books_of_step (sound.reachable venue) moved
  obtain ⟨table, transmitters, outbox⟩ :
      station.manager.subscriptions = (start.managers venue).subscriptions ∧
        station.transmitters = start.transmitters venue ∧
          station.streams.outbox = start.streams.outbox := by
    cases books with
    | still table transmitters outbox => exact ⟨table, transmitters, outbox⟩
    | added held => exact (idle venue _ _ (.inr ⟨_, held, rfl⟩)).elim
    | removed held => exact (idle venue _ _ (.inr ⟨_, held, rfl⟩)).elim
  refine ⟨later, ?_, ?_, ?_, transmitters_put transmitters, ?_, ?_⟩
  · rw [managers_put_self]
    intro holder change other changing
    obtain before | ⟨_, _, same, called, _⟩ := L2Manager.changing_step ran changing
    · exact idle venue holder change before
    · cases called
      exact other same
  · intro other apart
    rw [managers_put_other apart]
    exact idle other
  · intro other apart
    rw [managers_put_other apart]
  · rw [managers_put_self]
    refine .waits ?_ table
    rw [(L2Manager.step_invoke.mp ran).2]
    exact Function.update_self _ _ _
  · rw [managers_put_self]
    exact .inl ⟨table, outbox⟩

/-- The lock's holder is not at another change than the `Stop`'s. -/
theorem removing (halting : Halting adapters venues start venue call id backend)
    {holder : Holder} {current : Section} {change : Change}
    (held : (backend.managers venue).lock = some (holder, current))
    (goes : current.change? = some change) (early : current ≠ .unsubscribe id) :
    ((∃ book, current = .sendUnsubscribe id book) ∨ current = .erase id) ∧
      (∃ subscription, (start.managers venue).subscriptions.find? id = some subscription) ∧
        (backend.managers venue).subscriptions = (start.managers venue).subscriptions := by
  have own : holder = .call call := by
    by_contra other
    exact halting.alone holder change other (.inr ⟨current, held, goes⟩)
  subst own
  have inside := L2Manager.inside_of_held (halting.sound.reachable venue) held
  cases halting.stands with
  | waits waiting => cases inside.symm.trans waiting
  | looks locked => exact (early (Prod.mk.inj (Option.some.inj (held.symm.trans locked))).2).elim
  | removes locked stage found same =>
      obtain ⟨_, rfl⟩ := Prod.mk.inj (Option.some.inj (held.symm.trans locked))
      exact ⟨stage, ⟨_, found⟩, same⟩
  | ended stood => obtain ending | returned := stood <;> cases inside.symm.trans ‹_›

/-- No subscription is added. -/
theorem not_adding (halting : Halting adapters venues start venue call id backend)
    (holder : Holder) (request : SubscribeRequest) (precision : PairPrecision) :
    (backend.managers venue).lock ≠ some (holder, .resolveAgain request precision) := by
  intro held
  obtain ⟨⟨_, other⟩ | other, _⟩ := halting.removing held rfl Section.noConfusion <;> cases other

/-- The manager that was called takes a step. -/
theorem advance (halting : Halting adapters venues start venue call id backend)
    {station : Station (Decoder venue)} {act : L2Manager.Action} {sink : Sink}
    (calm : L2Manager.Action.Calm act)
    (sound : Sound adapters venues (backend.put venue station))
    (moved : (backend.station venue).step (adapters venue) (.manager act sink) = some station)
    (ran : L2Manager.step (adapters venue) (backend.managers venue) act = some station.manager) :
    Halting adapters venues start venue call id (backend.put venue station) := by
  have reachable := halting.sound.reachable venue
  have alone := halting.alone.step calm ran
  have stands := halting.stands.step reachable halting.alone ran
  have rest {outbox : Outbox} (transmitters : station.transmitters = backend.transmitters venue)
      (same : station.streams.outbox = outbox)
      (either : station.manager.subscriptions = (start.managers venue).subscriptions ∧
          outbox = start.streams.outbox ∨
        station.manager.subscriptions = (start.managers venue).subscriptions.erase id ∧
          outbox = start.streams.outbox.erase id ∧
            (start.managers venue).subscriptions.find? id ≠ none) :
      Halting adapters venues start venue call id (backend.put venue station) := by
    refine ⟨sound, ?_, ?_, ?_, ?_, ?_, ?_⟩
    · rw [managers_put_self]
      exact alone
    · intro other apart
      rw [managers_put_other apart]
      exact halting.idle other apart
    · intro other apart
      rw [managers_put_other apart]
      exact halting.tables other apart
    · exact (transmitters_put transmitters).trans halting.receivers
    · rw [managers_put_self]
      exact stands
    · rw [managers_put_self]
      subst same
      exact either
  cases Station.books_of_step reachable moved with
  | still table transmitters outbox =>
      refine rest transmitters outbox ?_
      rw [table]
      exact halting.outbox
  | added held => exact (halting.not_adding _ _ _ held).elim
  | removed held found table transmitters streams =>
      obtain ⟨stage, ⟨subscription, present⟩, same⟩ :=
        halting.removing held rfl Section.noConfusion
      obtain ⟨_, other⟩ | here := stage
      · cases other
      · cases here
        refine rest transmitters rfl (.inr ⟨?_, ?_, ?_⟩)
        · exact table.trans (congrArg (OrderedMap.erase · id) same)
        · have before : backend.streams.outbox = start.streams.outbox := by
            obtain ⟨_, outbox⟩ | ⟨erased, _, _⟩ := halting.outbox
            · exact outbox
            · have gone := congrArg (OrderedMap.find? · id) (same.symm.trans erased)
              simp only [OrderedMap.find?_erase, if_true, present] at gone
              cases gone
          unfold Station.destroy at streams
          split at streams
          · rw [streams, ← before]
            rfl
          · rename_i records
            have unregistered := halting.sound.unregistered found records
            rw [before] at unregistered
            rw [streams, OrderedMap.erase_absent unregistered]
            exact before
        · exact present ▸ Option.some_ne_none subscription

/-- A background step leaves the stop under way, or over with its answer. -/
theorem step {action : Action} (halting : Halting adapters venues start venue call id backend)
    (background : action.Background) (stepped : Backend.step adapters backend action = some next) :
    Halting adapters venues start venue call id next := by
  have sound := halting.sound.step stepped
  obtain ⟨other, act, calm, advanced⟩ | ⟨streams, rfl, same⟩ := background_cases background stepped
  · obtain ⟨station, moved, ran, rfl⟩ := advance_cases advanced
    by_cases here : other = venue
    · subst here
      exact halting.advance calm sound moved ran
    · obtain ⟨idle, table, transmitters, outbox⟩ :=
        calm_step halting.sound (halting.idle other here) calm moved ran
      have away : venue ≠ other := fun same => here same.symm
      refine ⟨sound, ?_, ?_, ?_, ?_, ?_, ?_⟩
      · rw [managers_put_other away]
        exact halting.alone
      · apply forall_put fun third manager =>
          third ≠ venue → ∀ holder change, ¬ manager.Changing holder change
        · exact fun _ => idle
        · exact fun third _ => halting.idle third
      · apply forall_put fun third manager =>
          third ≠ venue → manager.subscriptions = (start.managers third).subscriptions
        · exact fun apart => table.trans (halting.tables other apart)
        · exact fun third _ => halting.tables third
      · exact (transmitters_put transmitters).trans halting.receivers
      · rw [managers_put_other away]
        exact halting.stands
      · rw [managers_put_other away]
        exact outbox.symm ▸ halting.outbox
  · exact ⟨sound, halting.alone, halting.idle, halting.tables, halting.receivers, halting.stands,
      same.symm ▸ halting.outbox⟩

/-- A `Stop` that is answered has removed the subscription, or found none. -/
theorem unsubscribed {outcome : Outcome}
    (halting : Halting adapters venues start venue call id backend)
    (ended : (backend.managers venue).calls call = some (.ending outcome)) :
    L2Manager.Unsubscribed (start.managers venue).subscriptions id
      (backend.managers venue).subscriptions outcome := by
  have outside {current : Section}
      (held : (backend.managers venue).lock = some (.call call, current)) : False := by
    cases (L2Manager.inside_of_held (halting.sound.reachable venue) held).symm.trans ended
  cases halting.stands with
  | waits waiting => cases waiting.symm.trans ended
  | looks held => exact (outside held).elim
  | removes held => exact (outside held).elim
  | ended _ ends sole => exact sole outcome ended ▸ ends

end Halting

end Backend

end DataFeed.Frontend
