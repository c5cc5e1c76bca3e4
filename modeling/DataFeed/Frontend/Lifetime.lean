import DataFeed.Frontend.MarketData
import DataFeed.Frontend.StopWatch
import DataFeed.Venue.Once

/-! # A subscription's life, from its Start to its Stop

A `Start`, a `List` and a `Stop` name venues, sinks and subscriptions by the numbers of the
wire. However the commands of all clients, the managers' threads and the venues interleave, a
subscription that a `Start` was answered with is listed as it was asked for until a `Stop` of
it was answered `Ok` (`started_until_stopped`), and whatever is listed can be stopped by what
its row says (`listed_rows_stop`).
-/

namespace DataFeed.Frontend

open Foundation L2 Venue DataFeed.Core

/-- A sink's number on the wire. -/
def toWireSink (sink : Option Sink) : UInt32 := if sink = some .record then 2 else 1

/-- A venue's number on the wire. -/
def toWireVenue (venue : VenueId) : UInt32 :=
  if venue = .kraken then 1 else if venue = .coinbase then 2 else 0

/-- The sink that a number on the wire names. -/
def fromWireSink : Nat → Option Sink
  | 1 => some .live
  | 2 => some .record
  | _ => none

/-- The venue that a number on the wire names. -/
def fromWireVenue : Nat → Option VenueId
  | 1 => some .kraken
  | 2 => some .coinbase
  | _ => none

/-- A sink read from the wire is written back as its number. -/
theorem toWireSink_of_fromWireSink {number : Nat} {sink : Sink}
    (known : fromWireSink number = some sink) : (toWireSink (some sink)).toNat = number := by
  unfold fromWireSink at known
  split at known <;> cases known <;> rfl

/-- A venue read from the wire is written back as its number. -/
theorem toWireVenue_of_fromWireVenue {number : Nat} {venue : VenueId}
    (known : fromWireVenue number = some venue) : (toWireVenue venue).toNat = number := by
  unfold fromWireVenue at known
  split at known <;> cases known <;> rfl

/-- A sink written to the wire is read back. -/
theorem fromWireSink_toWireSink (sink : Sink) :
    fromWireSink (toWireSink (some sink)).toNat = some sink := by
  cases sink <;> rfl

namespace Server

/-- What a `Start` asks the router for, or what it is answered at once. -/
def start (venue : Nat) (symbol : String) (depth : UInt32) (sink : Nat) :
    Except Wire.Reply SubscribeCall :=
  match fromWireVenue venue, fromWireSink sink with
  | some venue, some sink => .ok ⟨venue, sink, ⟨symbol, depth⟩⟩
  | _, _ => .error (failure .invalidCommand "Start needs a known venue and sink")

/-- What a `Start` is answered whose call of the router has come to an outcome. -/
def started : Outcome → Wire.Reply
  | .subscribed id => .startedId id
  | .failed error => .error (Wire.codeOf error.code) error.detail
  | .thrown what => failure .venueFailed what
  | .done | .healthy _ | .listed _ => .ok

/-- A `Stop` that names its sink by a number. -/
def stopNamed (router : Router) (id : SubscriptionId) (sink : Nat) : Except Wire.Reply VenueId :=
  match fromWireSink sink with
  | some sink => stop router id sink
  | none => .error (failure .invalidCommand "Stop needs a known sink")

/-- A subscription as it is listed to a client. -/
def listing (venue : VenueId) (info : SubscriptionInfo) : MarketData.Subscription where
  id := info.id
  venue := toWireVenue venue
  symbol := info.book.symbol
  depth := info.book.depth
  sink := toWireSink (sinkOf info.id)
  startTimeNs := info.startTimeNs

/-- What a `List` is answered, given what each manager lists. -/
def list (managers : List VenueId) (listed : VenueId → List SubscriptionInfo) :
    List MarketData.Subscription :=
  managers.flatMap fun venue => (listed venue).map (listing venue)

end Server

/-- A router's records only grow. -/
theorem Router.records_step {router next : Router} {action : Router.Action}
    (stepped : router.step action = some next) :
    router.made <+: next.made ∧ router.handed <+: next.handed := by
  cases action with
  | subscribe call asked =>
      simp only [Router.step] at stepped
      split at stepped
      · contradiction
      · obtain rfl := Option.some.inj stepped
        exact ⟨List.prefix_append _ _, List.prefix_rfl⟩
  | count call =>
      simp only [Router.step] at stepped
      split at stepped
      · obtain rfl := Option.some.inj stepped
        exact ⟨List.prefix_rfl, List.prefix_rfl⟩
      · contradiction
  | hand call =>
      simp only [Router.step] at stepped
      split at stepped
      · split at stepped
        · obtain rfl := Option.some.inj stepped
          exact ⟨List.prefix_rfl, List.prefix_rfl⟩
        · obtain rfl := Option.some.inj stepped
          exact ⟨List.prefix_rfl, List.prefix_append _ _⟩
      · contradiction

/-- A call that hands its id over, and what it hands. -/
theorem Router.hand_eq {router next : Router} {call : Nat} {asked : SubscribeCall}
    {counter : UInt64} {id : SubscriptionId}
    (counted : router.calls call = some (.counted asked counter))
    (stepped : router.step (.hand call) = some next)
    (given : next.calls call = some (.given id)) :
    sinkOf id = some asked.sink ∧ next.handed = router.handed ++ [⟨call, asked, counter, id⟩] := by
  simp only [Router.step, counted] at stepped
  split at stepped
  · obtain rfl := Option.some.inj stepped
    dsimp only at given
    rw [Function.update_self] at given
    cases given
  · rename_i allowed
    obtain rfl := Option.some.inj stepped
    dsimp only at given
    rw [Function.update_self] at given
    cases given
    exact ⟨sinkOf_makeSubscriptionId (UInt64.not_lt.mp allowed), rfl⟩

namespace Backend

variable {Decoder : VenueId → Type} (adapters : ∀ venue, Adapter (Decoder venue))
  (venues : List VenueId) (backend : Backend Decoder)

/-- Anything goes on in between: other commands, the managers' threads and the venues. -/
def Reaches (next : Backend Decoder) : Prop :=
  ∃ actions, (system adapters venues).runFrom backend actions = some next

/-- A `Start` that is not answered at once, with its reply. -/
inductive Starts (asked : SubscribeCall) : Wire.Reply → Backend Decoder → Prop
  | unknown {call : Nat} {made : Backend Decoder} {error : Error} :
      backend.step adapters (.subscribe call asked) = some made →
        made.router.calls call = some (.failed error) →
          Starts asked (.error (Wire.codeOf error.code) error.detail) made
  | exhausted {call inner : Nat} {made ready counted waiting handed : Backend Decoder}
      {precision : Except Error PairPrecision} {makeReceiver : PairPrecision → Except String Unit}
      {nowNs : Int64} {error : Error} :
      backend.step adapters (.subscribe call asked) = some made →
        made.Reaches adapters venues ready →
          ready.step adapters (.count call) = some counted →
            counted.Reaches adapters venues waiting →
              waiting.step adapters (.hand call inner precision makeReceiver nowNs) = some handed →
                handed.router.calls call = some (.failed error) →
                  Starts asked (.error (Wire.codeOf error.code) error.detail) handed
  | asked {call inner : Nat} {made ready counted waiting handed after : Backend Decoder}
      {precision : Except Error PairPrecision} {makeReceiver : PairPrecision → Except String Unit}
      {nowNs : Int64} {id : SubscriptionId} {outcome : Outcome} :
      backend.step adapters (.subscribe call asked) = some made →
        made.Reaches adapters venues ready →
          ready.step adapters (.count call) = some counted →
            counted.Reaches adapters venues waiting →
              waiting.step adapters (.hand call inner precision makeReceiver nowNs) = some handed →
                handed.router.calls call = some (.given id) →
                  handed.Reaches adapters venues after →
                    (after.managers asked.venue).calls inner = some (.ending outcome) →
                      Starts asked (Server.started outcome) after

/-- A `List` with its reply. The managers list their subscriptions at times of their own. -/
inductive Lists : List MarketData.Subscription → Backend Decoder → Prop
  | asked {after : Backend Decoder} {listed : VenueId → List SubscriptionInfo} :
      backend.Reaches adapters venues after →
        (∀ venue ∈ backend.router.managers, ∃ call, (backend.managers venue).calls call = none ∧
          (after.managers venue).Answered call (.listed (listed venue))) →
            Lists (Server.list backend.router.managers listed) after

/-- A `Stop` with its reply. -/
inductive Ends (id : SubscriptionId) (sink : Nat) : Wire.Reply → Backend Decoder → Prop
  | atOnce {reply : Wire.Reply} :
      Server.stopNamed backend.router id sink = .error reply → Ends id sink reply backend
  | asked {venue : VenueId} {named : Sink} {call : Nat} {begun after : Backend Decoder}
      {outcome : Outcome} :
      Server.stopNamed backend.router id sink = .ok venue → fromWireSink sink = some named →
        backend.step adapters (.stop call id named) = some begun →
          begun.Reaches adapters venues after →
            (after.managers venue).calls call = some (.ending outcome) →
              Ends id sink (Server.stopped outcome) after

/-- A `Stop` of a subscription was answered `Ok`. -/
def Stopped (id : SubscriptionId) : Prop := (backend.managers (venueOf id)).Removed id

variable {adapters venues backend} {next : Backend Decoder} {id : SubscriptionId}

/-- A backend reaches itself. -/
theorem Reaches.refl : backend.Reaches adapters venues backend := ⟨[], rfl⟩

/-- What a reachable backend reaches is reachable. -/
theorem Reaches.reachable (reachable : (system adapters venues).Reachable backend)
    (reaches : backend.Reaches adapters venues next) : (system adapters venues).Reachable next := by
  obtain ⟨actions, reached⟩ := reaches
  exact reachable.runFrom reached

/-- What every step keeps is kept. -/
theorem Reaches.invariant (kept : Backend Decoder → Prop)
    (keeps : ∀ state action next, (system adapters venues).Reachable state → kept state →
      step adapters state action = some next → kept next)
    (reachable : (system adapters venues).Reachable backend) (initial : kept backend)
    (reaches : backend.Reaches adapters venues next) : kept next := by
  obtain ⟨actions, reached⟩ := reaches
  have every : ∀ state action next, True → (system adapters venues).Reachable state ∧ kept state →
      (system adapters venues).step state action = some next →
        (system adapters venues).Reachable next ∧ kept next :=
    fun state action next _ ⟨reached, held⟩ stepped =>
      ⟨reached.step stepped, keeps state action next reached held stepped⟩
  exact (System.runFrom_invariant every ⟨reachable, initial⟩ (fun _ _ => trivial) reached).2

variable (backend next) in
/-- What a manager is called for in a step. -/
inductive Puts (venue : VenueId) : Operation → Prop
  | subscribe {outer : Nat} {asked : SubscribeCall} {counter : UInt64}
      {request : SubscribeRequest} :
      backend.router.calls outer = some (.counted asked counter) →
        backend.router.step (.hand outer) = some next.router →
          next.router.calls outer = some (.given request.id) → asked.venue = venue →
            Puts venue (.subscribe request)
  | unsubscribe {id : SubscriptionId} {sink : Sink} :
      Server.stop backend.router id sink = .ok venue → Puts venue (.unsubscribe id)
  | other {operation : Operation} : operation.change? = none → Puts venue operation

/-- A manager stays as it is or takes a step of its own, and is called as commands do. -/
theorem manager_step {action : Action} (stepped : step adapters backend action = some next)
    (venue : VenueId) : next.managers venue = backend.managers venue ∨
      ∃ act, L2Manager.step (adapters venue) (backend.managers venue) act =
          some (next.managers venue) ∧
        ∀ call operation, act = .invoke call operation → Puts backend next venue operation := by
  have advanced {start : Backend Decoder} {other : VenueId} {act : L2Manager.Action}
      (same : start.managers = backend.managers)
      (puts : next.router = start.router → ∀ call operation, act = .invoke call operation →
        Puts backend next other operation)
      (moved : start.advance adapters other act = some next) :
      next.managers venue = backend.managers venue ∨
        ∃ act, L2Manager.step (adapters venue) (backend.managers venue) act =
            some (next.managers venue) ∧
          ∀ call operation, act = .invoke call operation → Puts backend next venue operation := by
    obtain ⟨station, _, ran, rfl⟩ := advance_cases moved
    rw [← same]
    by_cases here : venue = other
    · subst here
      rw [managers_put_self]
      exact .inr ⟨act, ran, puts rfl⟩
    · exact .inl (managers_put_other here station)
  cases action with
  | subscribe call asked =>
      obtain ⟨router, _, rfl⟩ := Option.map_eq_some_iff.mp stepped
      exact .inl rfl
  | count call =>
      obtain ⟨router, _, rfl⟩ := Option.map_eq_some_iff.mp stepped
      exact .inl rfl
  | hand call inner precision makeReceiver nowNs =>
      obtain ⟨router, moved, rest⟩ := Option.bind_eq_some_iff.mp stepped
      split at rest
      · rename_i counted given
        have same : ({ backend with router := router } : Backend Decoder).managers =
            backend.managers := rfl
        refine advanced same ?_ rest
        rintro later _ _ ⟨⟩
        have later : next.router = router := later
        exact .subscribe counted (later ▸ moved) (later ▸ given) rfl
      · obtain rfl := Option.some.inj rest
        exact .inl rfl
  | stop call id sink =>
      simp only [step] at stepped
      split at stepped
      · obtain rfl := Option.some.inj stepped
        exact .inl rfl
      · rename_i asks
        refine advanced rfl ?_ stepped
        rintro _ _ _ ⟨⟩
        exact .unsubscribe asks
  | ask other call operation =>
      simp only [step] at stepped
      split at stepped
      · rename_i allowed
        refine advanced rfl ?_ stepped
        rintro _ _ _ ⟨⟩
        exact .other (Option.isNone_iff_eq_none.mp allowed.2)
      · contradiction
  | manager other act =>
      have moves : (if other ∈ backend.router.managers then
            backend.advance adapters other act else none) = some next ∧
          ∀ call operation, act ≠ .invoke call operation := by
        cases act with
        | invoke => contradiction
        | _ => exact ⟨stepped, fun _ _ => L2Manager.Action.noConfusion⟩
      obtain ⟨moved, apart⟩ := moves
      split at moved
      · exact advanced rfl (fun _ call operation same => (apart call operation same).elim) moved
      · contradiction
  | call stream made =>
      obtain rfl := Option.some.inj stepped
      exact .inl rfl

/-- One step, and anything after it. -/
theorem Reaches.after {action : Action} {middle : Backend Decoder}
    (stepped : step adapters backend action = some middle)
    (reaches : middle.Reaches adapters venues next) : backend.Reaches adapters venues next := by
  obtain ⟨actions, reached⟩ := reaches
  have first : (system adapters venues).step backend action = some middle := stepped
  exact ⟨action :: actions, by rw [System.runFrom, first, Option.bind_some, reached]⟩

/-- What is reached from what is reached is reached. -/
theorem Reaches.trans {middle : Backend Decoder} (first : backend.Reaches adapters venues middle)
    (second : middle.Reaches adapters venues next) : backend.Reaches adapters venues next := by
  obtain ⟨actions, reached⟩ := first
  obtain ⟨others, later⟩ := second
  exact ⟨actions ++ others, by rw [System.runFrom_append, reached, Option.bind_some, later]⟩

/-- What a call was made for stays on record. -/
theorem Reaches.recorded {venue : VenueId} {event : CallEvent Operation Outcome}
    (reachable : (system adapters venues).Reachable backend)
    (recorded : event ∈ (backend.managers venue).history)
    (reaches : backend.Reaches adapters venues next) : event ∈ (next.managers venue).history := by
  refine reaches.invariant (fun state => event ∈ (state.managers venue).history) ?_ reachable
    recorded
  intro state action next _ recorded stepped
  obtain same | ⟨act, moved, _⟩ := manager_step stepped venue
  · exact same ▸ recorded
  · exact L2Manager.recorded_step moved recorded

/-- What comes of a subscription that was shown, in whatever goes on after it. -/
theorem Reaches.since {venue : VenueId} {book : BookSpec}
    (reachable : (system adapters venues).Reachable backend)
    (shown : (backend.managers venue).Shown id book)
    (reaches : backend.Reaches adapters venues next) :
    L2Manager.Since (backend.managers venue) id book (next.managers venue) := by
  have start := L2Manager.Since.refl ((Sound.of_reachable reachable).reachable venue) shown
  refine reaches.invariant (fun state => L2Manager.Since (backend.managers venue) id book
    (state.managers venue)) ?_ reachable start
  intro state action next reached since stepped
  obtain same | ⟨act, moved, _⟩ := manager_step stepped venue
  · exact same ▸ since
  · exact since.step ((Sound.of_reachable reached).reachable venue) moved

/-- A manager is asked to end only what names its venue and a sink. -/
theorem ended_named (reachable : (system adapters venues).Reachable backend) {venue : VenueId}
    {call : Nat} (invoked : .invoke call (.unsubscribe id) ∈ (backend.managers venue).history) :
    venueOf id = venue ∧ (sinkOf id).isSome = true := by
  have every : ∀ call id, .invoke call (.unsubscribe id) ∈ (backend.managers venue).history →
      venueOf id = venue ∧ (sinkOf id).isSome = true := by
    apply reachable.invariant
    · exact fun _ _ member => (List.not_mem_nil member).elim
    · intro state action next named stepped call id invoked
      obtain same | ⟨act, moved, puts⟩ := manager_step stepped venue
      · exact named call id (same ▸ invoked)
      · obtain before | ⟨rfl, _⟩ := L2Manager.invoked_cases moved invoked
        · exact named call id before
        · cases puts call _ rfl with
          | unsubscribe asks =>
              obtain ⟨names, named, _⟩ := stop_ok asks
              exact ⟨named, names ▸ rfl⟩
          | other apart => cases apart
  exact every call id invoked

/-- What a manager shows names its venue and a sink. -/
theorem shown_named (reachable : (system adapters venues).Reachable backend) {venue : VenueId}
    {book : BookSpec} (shown : (backend.managers venue).Shown id book) :
    venueOf id = venue ∧ ∃ sink, sinkOf id = some sink := by
  have sound := Sound.of_reachable reachable
  have lasting := L2Manager.Lasting.of_reachable (sound.reachable venue)
  obtain ⟨subscription, found, _⟩ | ⟨call, invoked, _⟩ := lasting.shown id book shown
  · obtain ⟨_, named, sink, names, _⟩ := sound.rows venue id subscription found
    exact ⟨named, sink, names⟩
  · obtain ⟨named, names⟩ := ended_named reachable invoked
    exact ⟨named, Option.isSome_iff_exists.mp names⟩

/-! ## Start -/

/-- The router stays as it is or takes a step of its own. -/
theorem router_step {action : Action} (stepped : step adapters backend action = some next) :
    next.router = backend.router ∨ ∃ act, backend.router.step act = some next.router := by
  have advanced {start : Backend Decoder} {other : VenueId} {act : L2Manager.Action}
      (moved : start.advance adapters other act = some next) : next.router = start.router := by
    obtain ⟨station, _, _, rfl⟩ := advance_cases moved
    rfl
  cases action with
  | subscribe call asked =>
      obtain ⟨router, moved, rfl⟩ := Option.map_eq_some_iff.mp stepped
      exact .inr ⟨_, moved⟩
  | count call =>
      obtain ⟨router, moved, rfl⟩ := Option.map_eq_some_iff.mp stepped
      exact .inr ⟨_, moved⟩
  | hand call inner precision makeReceiver nowNs =>
      obtain ⟨router, moved, rest⟩ := Option.bind_eq_some_iff.mp stepped
      split at rest
      · have same : next.router = router := advanced rest
        exact .inr ⟨_, same ▸ moved⟩
      · obtain rfl := Option.some.inj rest
        exact .inr ⟨_, moved⟩
  | stop call id sink =>
      simp only [step] at stepped
      split at stepped
      · obtain rfl := Option.some.inj stepped
        exact .inl rfl
      · exact .inl (advanced stepped)
  | ask other call operation =>
      simp only [step] at stepped
      split at stepped
      · exact .inl (advanced stepped)
      · contradiction
  | manager other act =>
      have moves : (if other ∈ backend.router.managers then
          backend.advance adapters other act else none) = some next := by
        cases act with
        | invoke => contradiction
        | _ => exact stepped
      split at moves
      · exact .inl (advanced moves)
      · contradiction
  | call stream made =>
      obtain rfl := Option.some.inj stepped
      exact .inl rfl

/-- The calls of the router stay on record. -/
theorem Reaches.made {entry : Nat × SubscribeCall}
    (reachable : (system adapters venues).Reachable backend) (made : entry ∈ backend.router.made)
    (reaches : backend.Reaches adapters venues next) : entry ∈ next.router.made := by
  refine reaches.invariant (fun state => entry ∈ state.router.made) ?_ reachable made
  intro state action next _ made stepped
  obtain same | ⟨act, moved⟩ := router_step stepped
  · exact same ▸ made
  · exact (Router.records_step moved).1.subset made

/-- A call of the router asks for one thing. -/
theorem asked_unique {router : Router} (sound : Router.Sound venues router) {call : Nat}
    {asked other : SubscribeCall} (made : (call, asked) ∈ router.made)
    (also : (call, other) ∈ router.made) : other = asked :=
  congrArg Prod.snd (List.inj_on_of_nodup_map sound.once also made rfl)

/-- A `Start` that is handed to its manager has called it with an id of its own. -/
theorem hand_invokes {call inner : Nat} {asked : SubscribeCall}
    {precision : Except Error PairPrecision} {makeReceiver : PairPrecision → Except String Unit}
    {nowNs : Int64} (reachable : (system adapters venues).Reachable backend)
    (made : (call, asked) ∈ backend.router.made)
    (stepped : backend.step adapters (.hand call inner precision makeReceiver nowNs) = some next)
    (given : next.router.calls call = some (.given id)) :
    asked.venue ∈ venues ∧ sinkOf id = some asked.sink ∧
      .invoke inner (.subscribe ⟨id, asked.book, precision, makeReceiver, nowNs⟩) ∈
        (next.managers asked.venue).history := by
  have sound := (Sound.of_reachable reachable).router
  obtain ⟨router, moved, rest⟩ := Option.bind_eq_some_iff.mp stepped
  split at rest
  · rename_i other counter own counted handed
    obtain ⟨listed, managed, _⟩ := sound.recorded call _ counted
    obtain rfl := asked_unique sound made listed
    obtain ⟨station, _, ran, rfl⟩ := advance_cases rest
    have given : router.calls call = some (.given id) := given
    cases handed.symm.trans given
    refine ⟨sound.managers ▸ managed, (Router.hand_eq counted moved given).1, ?_⟩
    rw [managers_put_self, (L2Manager.step_invoke.mp ran).2]
    exact List.mem_append_right _ (List.mem_singleton.mpr rfl)
  · rename_i apart
    obtain rfl := Option.some.inj rest
    have given : router.calls call = some (.given id) := given
    simp only [Router.step] at moved
    split at moved
    · rename_i other counter counted
      exact (apart _ _ _ counted given).elim
    · contradiction

/-- A `Start` that is answered with an id is shown it by its manager. -/
theorem Starts.shown {asked : SubscribeCall} {after : Backend Decoder}
    (reachable : (system adapters venues).Reachable backend)
    (starts : backend.Starts adapters venues asked (.startedId id) after) :
    (system adapters venues).Reachable after ∧ asked.venue ∈ venues ∧
      sinkOf id = some asked.sink ∧ (after.managers asked.venue).Shown id asked.book := by
  generalize replied : Wire.Reply.startedId id = reply at starts
  cases starts with
  | unknown | exhausted => cases replied
  | asked calls before counts between hands given rest ending =>
      rename_i call inner made ready counted waiting handed precision makeReceiver nowNs own outcome
      have listed : (call, asked) ∈ made.router.made := by
        obtain ⟨router, moved, rfl⟩ := Option.map_eq_some_iff.mp calls
        simp only [Router.step] at moved
        split at moved
        · contradiction
        · obtain rfl := Option.some.inj moved
          exact List.mem_append_right _ (List.mem_singleton.mpr rfl)
      have reached := (Reaches.after calls .refl).reachable reachable
      have waits : made.Reaches adapters venues waiting :=
        before.trans (Reaches.after counts between)
      have listed := waits.made reached listed
      have reached := waits.reachable reached
      obtain ⟨managed, names, invoked⟩ := hand_invokes reached listed hands given
      have reached := (Reaches.after hands .refl).reachable reached
      have invoked := rest.recorded reached invoked
      have reached := rest.reachable reached
      obtain rfl : outcome = .subscribed id := by
        cases outcome <;> cases replied
        rfl
      refine ⟨reached, managed, ?_, .inl ⟨inner, _, invoked, rfl, .inl ending⟩⟩
      obtain same | ⟨records, also⟩ := L2Manager.subscribed_own
        ((Sound.of_reachable reached).reachable asked.venue) invoked (.inl ending)
      · exact same ▸ names
      · exact also.trans (records.symm.trans names)

/-! ## List and Stop -/

/-- What a `List` says that is asked for once a subscription was shown. -/
theorem Lists.since {venue : VenueId} {book : BookSpec} {final : Backend Decoder}
    {rows : List MarketData.Subscription}
    (reachable : (system adapters venues).Reachable backend) (managed : venue ∈ venues)
    (shown : (backend.managers venue).Shown id book)
    (lists : backend.Lists adapters venues rows final) :
    (∃ info : SubscriptionInfo, Server.listing venue info ∈ rows ∧ info.id = id ∧
      info.book = book) ∨ (final.managers venue).Removed id := by
  cases lists with
  | asked reaches answered =>
      have managed : venue ∈ backend.router.managers :=
        (Sound.of_reachable reachable).router.managers ▸ managed
      obtain ⟨call, fresh, listed⟩ := answered venue managed
      obtain ⟨info, among, same⟩ | removed :=
        (reaches.since reachable shown).lists call _ fresh listed
      · refine .inl ⟨info, List.mem_flatMap.mpr ⟨venue, managed, ?_⟩, same⟩
        exact List.mem_map.mpr ⟨info, among, rfl⟩
      · exact .inr removed

/-- A venue with one depth. -/
def plain : Adapter Unit where
  name := "kraken"
  depths := [10]
  bookChecksum := none
  checkSymbol _ := .ok ()
  connectRequests := []
  makeBookRequest _ book := book.symbol
  makeDecoder := ()
  decode decoder _ := .done decoder

/-- A backend with that venue. -/
def one : System (Backend fun _ => Unit) Action := system (fun _ => plain) [.kraken]

/-- A call of the manager gets the lock for so many sections. -/
def sectionsOf (call sections : Nat) : List Action :=
  (.acquire (.call call) :: List.replicate sections .run).map (.manager .kraken)

/-- The manager serves a call that subscribes. -/
def startServed (call : Nat) : List Action :=
  sectionsOf call 1 ++ [.manager .kraken (.fetch call)] ++ sectionsOf call 3

/-- A `Start` that is served at once. -/
def startOf (call : Nat) (asked : SubscribeCall) : List Action :=
  [.subscribe call asked, .count call,
    .hand call call (.ok ⟨1, 8⟩) (fun _ => .ok ()) 7] ++ startServed call

/-- A `List` that is served at once. -/
def listOf (call : Nat) : List Action := .ask .kraken call .list :: sectionsOf call 1

/-- Whether a call of the manager is about to return with an outcome. -/
def returns (backend : Backend fun _ => Unit) (call : Nat) (outcome : Outcome) : Bool :=
  match (backend.managers .kraken).calls call with
  | some (.ending other) => other = outcome
  | _ => false

/-- What it means that a call is about to return. -/
theorem returns_iff {backend : Backend fun _ => Unit} {call : Nat} {outcome : Outcome} :
    backend.returns call outcome = true ↔
      (backend.managers .kraken).calls call = some (.ending outcome) := by
  unfold returns
  split
  · rename_i other ending
    rw [ending, decide_eq_true_eq, Option.some_inj, CallState.ending.injEq]
  · rename_i apart
    exact ⟨Bool.false_ne_true.elim, fun ending => (apart outcome ending).elim⟩

/-- A `List` of the one manager. -/
theorem one_lists {backend after : Backend fun _ => Unit} (reachable : one.Reachable backend)
    {actions : List Action} {call : Nat} {listed : List SubscriptionInfo}
    (fresh : ((backend.managers .kraken).calls call).isNone = true)
    (ran : one.runFrom backend actions = some after)
    (answers : after.returns call (.listed listed) = true) :
    backend.Lists (fun _ => plain) [.kraken] (listed.map (Server.listing .kraken)) after := by
  have managers : backend.router.managers = [.kraken] :=
    (Sound.of_reachable reachable).router.managers
  have same : listed.map (Server.listing .kraken) =
      Server.list backend.router.managers fun _ => listed := by
    rw [managers, Server.list, List.flatMap_singleton]
  rw [same]
  refine .asked ⟨actions, ran⟩ fun venue managed => ?_
  obtain rfl := List.mem_singleton.mp (managers ▸ managed)
  exact ⟨call, Option.isNone_iff_eq_none.mp fresh, .inl (returns_iff.mp answers)⟩

/-- A live subscription, which a client starts first. -/
def liveCall : SubscribeCall := ⟨.kraken, .live, ⟨"XBT/USD", 10⟩⟩

/-- A recording, which another client starts. -/
def recordCall : SubscribeCall := ⟨.kraken, .record, ⟨"ETH/USD", 10⟩⟩

/-- The first, as the manager lists it. -/
def liveInfo : SubscriptionInfo := ⟨65536, liveCall.book, 7⟩

/-- The second. -/
def recordInfo : SubscriptionInfo := ⟨131073, recordCall.book, 7⟩

/-- **A subscription is listed as it was asked for until it was stopped.** However all
commands, threads and venues interleave: a `Start` that is answered with an id was given one
that names the venue and the sink it asked for; and a `List` that is asked for after the
answer has a row with the id and with the `Start`'s own venue, symbol, depth and sink, unless
a `Stop` of the id was answered `Ok`. -/
theorem started_until_stopped (reachable : (system adapters venues).Reachable backend)
    {venue sink : Nat} {symbol : String} {depth : UInt32} {asked : SubscribeCall}
    (accepted : Server.start venue symbol depth sink = .ok asked) {after : Backend Decoder}
    (starts : backend.Starts adapters venues asked (.startedId id) after) :
    venueOf id = asked.venue ∧ sinkOf id = some asked.sink ∧
      ∀ rows final, after.Lists adapters venues rows final →
        (∃ row ∈ rows, row.id = id ∧ row.venue.toNat = venue ∧ row.symbol = symbol ∧
          row.depth = depth ∧ row.sink.toNat = sink) ∨ final.Stopped id := by
  obtain ⟨reached, managed, names, shown⟩ := starts.shown reachable
  obtain ⟨named, _⟩ := shown_named reached shown
  refine ⟨named, names, fun rows final lists => ?_⟩
  refine (lists.since reached managed shown).imp ?_ fun removed => ?_
  · rintro ⟨info, among, rfl, same⟩
    unfold Server.start at accepted
    split at accepted
    · rename_i known knownSink venueKnown sinkKnown
      cases accepted
      refine ⟨_, among, rfl, toWireVenue_of_fromWireVenue venueKnown, ?_, ?_, ?_⟩
      · exact congrArg BookSpec.symbol same
      · exact congrArg BookSpec.depth same
      · rw [Server.listing, names]
        exact toWireSink_of_fromWireSink sinkKnown
    · contradiction
  · rw [Stopped, named]
    exact removed

/-- Two subscriptions are started and listed. -/
theorem started_until_stopped_live :
    ∃ after final, Starts (fun _ => plain) [.kraken] one.init liveCall (.startedId 65536) after ∧
      after.Lists (fun _ => plain) [.kraken]
        ([liveInfo, recordInfo].map (Server.listing .kraken)) final ∧
      ((∃ row ∈ [liveInfo, recordInfo].map (Server.listing .kraken),
        row.id = 65536 ∧ row.venue.toNat = 1 ∧ row.symbol = "XBT/USD" ∧ row.depth = 10 ∧
          row.sink.toNat = 1) ∨ final.Stopped 65536) := by
  have ran : ((one.step one.init (.subscribe 0 liveCall)).any fun made =>
      (one.step made (.count 0)).any fun counted =>
        (one.step counted (.hand 0 0 (.ok ⟨1, 8⟩) (fun _ => .ok ()) 7)).any fun handed =>
          handed.router.calls 0 = some (.given 65536) &&
            (one.runFrom handed (startServed 0)).any fun after =>
              after.returns 0 (.subscribed 65536) && ((after.managers .kraken).calls 2).isNone &&
                (one.runFrom after (startOf 1 recordCall ++ listOf 2)).any fun final =>
                  final.returns 2 (.listed [liveInfo, recordInfo])) = true := by
    decide +kernel
  simp only [Option.any_eq_true, Bool.and_eq_true, decide_eq_true_eq, and_assoc] at ran
  obtain ⟨made, calls, counted, counts, handed, hands, given, after, serves, ending, fresh, final,
    goes, answers⟩ := ran
  have starts : Starts (fun _ => plain) [.kraken] one.init liveCall
      (Server.started (.subscribed 65536)) after :=
    .asked calls .refl counts .refl hands given ⟨_, serves⟩ (returns_iff.mp ending)
  have initial : one.Reachable one.init := ⟨[], rfl⟩
  have reached : one.Reachable after := (starts.shown initial).1
  have lists := one_lists reached fresh goes answers
  have accepted : Server.start 1 "XBT/USD" 10 1 = .ok liveCall := rfl
  exact ⟨after, final, starts, lists, (started_until_stopped initial accepted starts).2.2 _ _ lists⟩

/-- A `Stop` that is put to a manager calls it. -/
theorem stop_invokes {call : Nat} {sink : Sink} {venue : VenueId}
    (asks : Server.stop backend.router id sink = .ok venue)
    (stepped : backend.step adapters (.stop call id sink) = some next) :
    (backend.managers venue).calls call = none ∧
      .invoke call (.unsubscribe id) ∈ (next.managers venue).history := by
  simp only [step, asks] at stepped
  obtain ⟨station, _, ran, rfl⟩ := advance_cases stepped
  obtain ⟨fresh, same⟩ := L2Manager.step_invoke.mp ran
  rw [managers_put_self, same]
  exact ⟨fresh, List.mem_append_right _ (List.mem_singleton.mpr rfl)⟩

/-- A row is a subscription that its venue's manager has shown. -/
theorem Lists.row {final : Backend Decoder} {rows : List MarketData.Subscription}
    (reachable : (system adapters venues).Reachable backend)
    (lists : backend.Lists adapters venues rows final) :
    (system adapters venues).Reachable final ∧ ∀ row ∈ rows, ∃ venue ∈ venues,
      ∃ info, row = Server.listing venue info ∧ (final.managers venue).Shown info.id info.book := by
  cases lists with
  | asked reaches answered =>
      refine ⟨reaches.reachable reachable, fun row among => ?_⟩
      obtain ⟨venue, managed, among⟩ := List.mem_flatMap.mp among
      obtain ⟨info, member, rfl⟩ := List.mem_map.mp among
      obtain ⟨call, _, listed⟩ := answered venue managed
      have managed := (Sound.of_reachable reachable).router.managers ▸ managed
      exact ⟨venue, managed, info, rfl, .inr ⟨call, _, info, listed, member, rfl, rfl⟩⟩

/-- No two rows have the same id. -/
theorem Lists.nodup {final : Backend Decoder} {rows : List MarketData.Subscription}
    (reachable : (system adapters venues).Reachable backend) (distinct : venues.Nodup)
    (lists : backend.Lists adapters venues rows final) :
    (rows.map MarketData.Subscription.id).Nodup := by
  cases lists with
  | @asked _ listed reaches answered =>
      have reached := reaches.reachable reachable
      have names : ∀ venue ∈ backend.router.managers, ∀ info ∈ listed venue,
          venueOf info.id = venue := by
        intro venue managed info member
        obtain ⟨call, _, answers⟩ := answered venue managed
        exact (shown_named reached (.inr ⟨call, _, info, answers, member, rfl, rfl⟩)).1
      have managers := (Sound.of_reachable reachable).router.managers
      rw [Server.list, List.map_flatMap, List.nodup_flatMap]
      refine ⟨fun venue managed => ?_, ?_⟩
      · obtain ⟨call, _, answers⟩ := answered venue managed
        rw [List.map_map]
        exact L2Manager.listed_nodup ((Sound.of_reachable reached).reachable venue) answers
      · refine (managers ▸ distinct).imp_of_mem ?_
        intro first second one two apart
        refine List.disjoint_left.mpr fun id here there => ?_
        dsimp only at here there
        rw [List.map_map] at here there
        obtain ⟨info, member, rfl⟩ := List.mem_map.mp here
        obtain ⟨other, also, same⟩ := List.mem_map.mp there
        have same : other.id = info.id := same
        apply apart
        rw [← names first one info member, ← same, names second two other also]

/-- **What is listed can be stopped by what its row says.** However all commands, threads and
venues interleave: the rows of a `List` have ids of their own, which name the venue and the
sink that the row says; and a `Stop` with a row's id and sink, whenever it comes, is put to
the venue's manager, and once it is answered a `Stop` of the subscription was answered `Ok`,
its own or another one, and then it says that it does not know the id. -/
theorem listed_rows_stop (distinct : venues.Nodup)
    (reachable : (system adapters venues).Reachable backend)
    {rows : List MarketData.Subscription} {after : Backend Decoder}
    (lists : backend.Lists adapters venues rows after) :
    (rows.map MarketData.Subscription.id).Nodup ∧ ∀ row ∈ rows,
      row.venue = toWireVenue (venueOf row.id) ∧
        (fromWireSink row.sink.toNat = sinkOf row.id ∧ (sinkOf row.id).isSome = true) ∧
        ∀ later, after.Reaches adapters venues later →
          Server.stopNamed later.router row.id row.sink.toNat = .ok (venueOf row.id) ∧
            ∀ reply final, later.Ends adapters venues row.id row.sink.toNat reply final →
              (reply = .ok ∨ reply.code? = some .unknownId) ∧ final.Stopped row.id := by
  refine ⟨lists.nodup reachable distinct, fun row among => ?_⟩
  obtain ⟨reached, shows⟩ := lists.row reachable
  obtain ⟨venue, managed, info, rfl, shown⟩ := shows row among
  obtain ⟨named, sink, names⟩ := shown_named reached shown
  have known : fromWireSink (Server.listing venue info).sink.toNat = some sink := by
    rw [Server.listing, names]
    exact fromWireSink_toWireSink sink
  have id_eq : (Server.listing venue info).id = info.id := rfl
  rw [id_eq, known, names, named]
  refine ⟨rfl, ⟨rfl, rfl⟩, fun later goes => ?_⟩
  have reached_later := goes.reachable reached
  have asks : Server.stop later.router info.id sink = .ok venue := by
    have managers := (Sound.of_reachable reached_later).router.managers
    simp only [Server.stop, names, ne_eq, not_true_eq_false, if_false, Router.managerOf, named,
      managers, managed, if_true]
  have stops : Server.stopNamed later.router info.id (Server.listing venue info).sink.toNat =
      .ok venue := by
    simp only [Server.stopNamed, known, asks]
  refine ⟨stops, fun reply final ends => ?_⟩
  cases ends with
  | atOnce refused => cases stops.symm.trans refused
  | asked accepts knows begins rest ending =>
      rename_i asked sink_named call begun outcome
      cases stops.symm.trans accepts
      cases known.symm.trans knows
      have answered : (final.managers venue).Answered call outcome := .inl ending
      obtain ⟨fresh, invoked⟩ := stop_invokes asks begins
      have invoked := rest.recorded ((Reaches.after begins .refl).reachable reached_later) invoked
      have since := (Reaches.after begins rest).since reached_later (goes.since reached shown).shown
      rw [Stopped, named]
      obtain rfl | ⟨⟨error, rfl, code⟩, removed⟩ := since.stops call outcome fresh invoked answered
      · exact ⟨.inl rfl, call, invoked, answered⟩
      · refine ⟨.inr ?_, removed⟩
        simp only [Server.stopped, Wire.Reply.code?, code, Wire.codeOf]

/-- One of the two is stopped by what its row says. -/
theorem listed_rows_stop_live :
    ∃ backend after final : Backend fun _ => Unit,
      backend.Lists (fun _ => plain) [.kraken]
        ([liveInfo, recordInfo].map (Server.listing .kraken)) after ∧
      after.Ends (fun _ => plain) [.kraken] 65536 1 .ok final ∧ final.Stopped 65536 := by
  have ran : ((one.run (startOf 0 liveCall ++ startOf 1 recordCall)).any fun backend =>
      ((backend.managers .kraken).calls 2).isNone &&
        (one.runFrom backend (listOf 2)).any fun after =>
          after.returns 2 (.listed [liveInfo, recordInfo]) &&
            (one.step after (.stop 3 65536 .live)).any fun begun =>
              (one.runFrom begun (sectionsOf 3 3)).any fun final =>
                final.returns 3 .done) = true := by
    decide +kernel
  simp only [Option.any_eq_true, Bool.and_eq_true] at ran
  obtain ⟨backend, reached, fresh, after, goes, answers, begun, stops, final, serves, ending⟩ := ran
  have reachable : one.Reachable backend := ⟨_, reached⟩
  have lists := one_lists reachable fresh goes answers
  obtain ⟨_, rows⟩ := listed_rows_stop (by decide) reachable lists
  obtain ⟨_, _, stop⟩ := rows (Server.listing .kraken liveInfo) List.mem_cons_self
  obtain ⟨asks, ended⟩ := stop after .refl
  have ends : after.Ends (fun _ => plain) [.kraken] 65536 1 (Server.stopped .done) final :=
    .asked asks rfl stops ⟨_, serves⟩ (returns_iff.mp ending)
  exact ⟨backend, after, final, lists, ends, (ended _ final ends).2⟩

/-! ## Stopped for good -/

/-- Every id that a manager was called with was handed to it by the router, once. -/
structure Distinct (backend : Backend Decoder) : Prop where
  handed : ∀ venue call request,
    .invoke call (.subscribe request) ∈ (backend.managers venue).history →
      ∃ handed ∈ backend.router.handed, handed.id = request.id
  once : ∀ venue, DistinctIds (backend.managers venue).history

/-- A new id is none that was handed over before. -/
theorem fresh_id {router after : Router} {call : Nat} {asked : SubscribeCall} {counter : UInt64}
    (sound : Router.Sound venues router) (few : after.made.length < UInt64.size)
    (counted : router.calls call = some (.counted asked counter))
    (stepped : router.step (.hand call) = some after)
    (given : after.calls call = some (.given id)) {handed : Venue.Handed}
    (member : handed ∈ router.handed) : handed.id ≠ id := by
  intro same
  have later := sound.step stepped
  obtain ⟨_, grown⟩ := Router.hand_eq counted stepped given
  have old : handed ∈ after.handed := by
    rw [grown]
    exact List.mem_append_left _ member
  have new : (⟨call, asked, counter, id⟩ : Venue.Handed) ∈ after.handed := by
    rw [grown]
    exact List.mem_append_right _ (List.mem_singleton.mpr rfl)
  have decode : ∀ entry ∈ after.handed, counterOf entry.id = entry.counter := by
    intro entry listed
    obtain ⟨_, allowed, _, made⟩ := later.handed entry listed
    rw [made]
    exact counterOf_makeSubscriptionId allowed
  have counter_eq := decode ⟨call, asked, counter, id⟩ new
  have counters : handed.counter = counter := by
    rw [← decode handed old, same, counter_eq]
  have own := later.handed_unique few old new counters
  obtain ⟨_, _, _, waits⟩ := sound.recorded call _ counted
  apply waits
  rw [own] at member
  exact List.mem_map_of_mem member

/-- Every step keeps the ids handed out distinct. -/
theorem Distinct.step {action : Action} (reachable : (system adapters venues).Reachable backend)
    (few : next.router.made.length < UInt64.size) (distinct : backend.Distinct)
    (stepped : Backend.step adapters backend action = some next) : next.Distinct := by
  have sound := (Sound.of_reachable reachable).router
  have grows : backend.router.handed <+: next.router.handed := by
    obtain same | ⟨act, moved⟩ := router_step stepped
    · exact same ▸ List.prefix_rfl
    · exact (Router.records_step moved).2
  have kept {venue : VenueId} {call : Nat} {request : SubscribeRequest}
      (invoked : .invoke call (.subscribe request) ∈ (backend.managers venue).history) :
      ∃ handed ∈ next.router.handed, handed.id = request.id := by
    obtain ⟨handed, member, same⟩ := distinct.handed venue call request invoked
    exact ⟨handed, grows.subset member, same⟩
  refine ⟨fun venue call request invoked => ?_, fun venue => ?_⟩
  · obtain same | ⟨act, moved, puts⟩ := manager_step stepped venue
    · exact kept (same ▸ invoked)
    · obtain before | ⟨rfl, _⟩ := L2Manager.invoked_cases moved invoked
      · exact kept before
      · cases puts call _ rfl with
        | subscribe counted moves given =>
            obtain ⟨_, grown⟩ := Router.hand_eq counted moves given
            refine ⟨_, grown ▸ List.mem_append_right _ (List.mem_singleton.mpr rfl), rfl⟩
        | other apart => cases apart
  · obtain same | ⟨act, moved, puts⟩ := manager_step stepped venue
    · exact same ▸ distinct.once venue
    · have apart {old new : Nat} {one two : SubscribeRequest}
          (invoked : .invoke old (.subscribe one) ∈ (backend.managers venue).history)
          (acts : act = .invoke new (.subscribe two)) : one.id ≠ two.id := by
        cases puts new _ acts with
        | subscribe counted moves given =>
            obtain ⟨handed, member, same⟩ := distinct.handed venue old one invoked
            rw [← same]
            exact fresh_id sound few counted moves given member
        | other apart => cases apart
      intro first second one two made also ids
      obtain before | ⟨rfl, _⟩ := L2Manager.invoked_cases moved made
      · obtain earlier | ⟨same, _⟩ := L2Manager.invoked_cases moved also
        · exact distinct.once venue first second one two before earlier ids
        · exact (apart before same ids).elim
      · obtain earlier | ⟨same, _⟩ := L2Manager.invoked_cases moved also
        · exact (apart earlier rfl ids.symm).elim
        · cases same
          rfl

/-- There were no more calls of the router before a step. -/
theorem few_before {action : Action} (stepped : step adapters backend action = some next)
    (few : next.router.made.length < UInt64.size) :
    backend.router.made.length < UInt64.size := by
  obtain same | ⟨act, moved⟩ := router_step stepped
  · exact same ▸ few
  · exact Nat.lt_of_le_of_lt (Router.records_step moved).1.length_le few

/-- In every reachable state the ids handed out are distinct. -/
theorem Distinct.of_reachable (reachable : (system adapters venues).Reachable backend)
    (few : backend.router.made.length < UInt64.size) : backend.Distinct := by
  have every : backend.router.made.length < UInt64.size → backend.Distinct := by
    apply reachable.induction
    · exact fun _ => ⟨fun _ _ _ member => (List.not_mem_nil member).elim,
        fun _ _ _ _ _ member => (List.not_mem_nil member).elim⟩
    · intro state action next reached distinct stepped few
      exact Distinct.step reached few (distinct (few_before stepped few)) stepped
  exact every few

/-- **What was stopped is stopped for good.** As long as there are fewer `Start`s than the
counter of ids has values: once a `Stop` of a subscription was answered `Ok`, no `List` that
is asked for afterwards has a row with its id, however all commands, threads and venues
interleave. -/
theorem stopped_for_good (reachable : (system adapters venues).Reachable backend)
    (stopped : backend.Stopped id) {rows : List MarketData.Subscription}
    {final : Backend Decoder} (lists : backend.Lists adapters venues rows final)
    (few : final.router.made.length < UInt64.size) : ∀ row ∈ rows, row.id ≠ id := by
  cases lists with
  | asked reaches answered =>
      rename_i listed
      have reached := reaches.reachable reachable
      intro row among
      obtain ⟨venue, managed, among⟩ := List.mem_flatMap.mp among
      obtain ⟨info, member, rfl⟩ := List.mem_map.mp among
      obtain ⟨call, fresh, answers⟩ := answered venue managed
      by_cases named : venueOf id = venue
      · have start : L2Manager.Gone (backend.managers venue) id (backend.managers venue) :=
          .refl ((Sound.of_reachable reachable).reachable venue) (named ▸ stopped)
        have gone := reaches.invariant (fun state => state.router.made.length < UInt64.size →
          L2Manager.Gone (backend.managers venue) id (state.managers venue)) ?_ reachable
            (fun _ => start) few
        · exact gone.lists call _ fresh answers info member
        · intro state action next earlier gone stepped few
          have few := few_before stepped few
          have gone := gone few
          obtain same | ⟨act, moved, _⟩ := manager_step stepped venue
          · exact same ▸ gone
          · exact gone.step ((Sound.of_reachable earlier).reachable venue)
              ((Distinct.of_reachable earlier few).once venue) moved
      · rintro rfl
        exact named (shown_named reached (.inr ⟨call, _, info, answers, member, rfl, rfl⟩)).1

/-- One subscription is stopped before the other is started. -/
theorem stopped_for_good_live :
    ∃ backend final : Backend fun _ => Unit, backend.Stopped 65536 ∧
      backend.Lists (fun _ => plain) [.kraken]
        ([recordInfo].map (Server.listing .kraken)) final ∧
      ∀ row ∈ [recordInfo].map (Server.listing .kraken), row.id ≠ 65536 := by
  have ran : ((one.run (startOf 0 liveCall)).any fun before =>
      (one.step before (.stop 3 65536 .live)).any fun begun =>
        (one.runFrom begun (sectionsOf 3 3)).any fun backend => backend.returns 3 .done &&
          ((backend.managers .kraken).calls 2).isNone &&
            (one.runFrom backend (startOf 1 recordCall ++ listOf 2)).any fun final =>
              final.returns 2 (.listed [recordInfo]) &&
                decide (final.router.made.length < UInt64.size)) = true := by
    decide +kernel
  simp only [Option.any_eq_true, Bool.and_eq_true, decide_eq_true_eq, and_assoc] at ran
  obtain ⟨before, reached, begun, stops, backend, serves, ending, fresh, final, goes, answers,
    few⟩ := ran
  have reachable : one.Reachable before := ⟨_, reached⟩
  have managers : before.router.managers = [.kraken] :=
    (Sound.of_reachable reachable).router.managers
  have asks : Server.stop before.router 65536 .live = .ok .kraken := by
    have known : before.router.managerOf 65536 = some .kraken := by
      rw [Router.managerOf, managers]
      rfl
    rw [Server.stop, if_neg (by decide), known]
  have stops : Backend.step (fun _ => plain) before (.stop 3 65536 .live) = some begun := stops
  obtain ⟨_, invoked⟩ := stop_invokes asks stops
  have reachable := (Reaches.after stops .refl).reachable reachable
  have served : begun.Reaches (fun _ => plain) [.kraken] backend := ⟨_, serves⟩
  have stopped : backend.Stopped 65536 :=
    ⟨3, served.recorded reachable invoked, .inl (returns_iff.mp ending)⟩
  have reachable := served.reachable reachable
  have lists := one_lists reachable fresh goes answers
  exact ⟨backend, final, stopped, lists, stopped_for_good reachable stopped lists few⟩

end Backend

end DataFeed.Frontend
