import Mathlib.Logic.Function.Basic
import DataFeed.Foundation.Transition
import DataFeed.Venue.Manager

/-! # The list of tradable pairs

A manager keeps the pairs that it fetched last and serves them for a while. The lock is held
across a fetch, so calls that arrive meanwhile wait for its result. Taking the lock, looking
at the clock and the end of a fetch are separate steps, and time passes between any two of
them. `Sound` says where the list that is kept comes from, and how far the fetches that
found one lie apart.
-/

namespace DataFeed.Venue

open Foundation L2

/-- What a venue can stream. -/
structure PairList where
  symbols : List String
  depths : List UInt32
  deriving DecidableEq, Repr

/-- How long the pairs are served that were fetched, in nanoseconds: five minutes. -/
def pairsLifetime : Nat := 300000000000

/-- A fetch of the pairs that has ended. -/
structure PairsFetch where
  call : Nat
  started : Nat
  ended : Nat
  result : Except Error (List String)

/-- What a call of `ListPairs` was answered, and when it looked at the clock. -/
structure PairsAnswer where
  looked : Nat
  result : Except Error PairList

/-- Where the call is that has the lock. -/
inductive PairsPhase where
  /-- Is about to look at the clock. -/
  | entered
  /-- Asks the venue since it looked. -/
  | fetching (started : Nat)
  deriving DecidableEq, Repr

/-- Where a call of `ListPairs` is. -/
inductive PairsCall where
  /-- Waits for the lock. -/
  | waiting
  | inside
  | answered (answer : PairsAnswer)

/-- The pairs that a manager keeps, the calls for them, and the fetches so far. -/
structure PairsCache where
  /-- The steady clock. -/
  now : Nat
  pairs : List String
  fetchedAt : Nat
  lock : Option (Nat × PairsPhase)
  calls : Nat → Option PairsCall
  fetches : List PairsFetch

namespace PairsCache

/-- Nothing has been fetched; the clock shows some time. -/
def init (now : Nat) : PairsCache := ⟨now, [], 0, none, fun _ => none, []⟩

/-- Who takes a step. -/
inductive Action where
  | pass (time : Nat)
  | listPairs (call : Nat)
  | lock (call : Nat)
  /-- The call that has the lock looks at the clock, and answers or asks the venue. -/
  | look
  /-- The venue has answered, or failed to. -/
  | fetched (result : Except Error (List String))

variable (cache : PairsCache)

/-- Answers a call and releases the lock. -/
def answer (call looked : Nat) (result : Except Error PairList) : PairsCache :=
  { cache with
    lock := none
    calls := Function.update cache.calls call (some (.answered ⟨looked, result⟩)) }

/-- What a step does, if it is possible. -/
def step (depths : List UInt32) : Action → Option PairsCache
  | .pass time => some { cache with now := cache.now + time }
  | .listPairs call =>
      match cache.calls call with
      | none => some { cache with calls := Function.update cache.calls call (some .waiting) }
      | some _ => none
  | .lock call =>
      match cache.lock, cache.calls call with
      | none, some .waiting =>
          some { cache with
            lock := some (call, .entered)
            calls := Function.update cache.calls call (some .inside) }
      | _, _ => none
  | .look =>
      match cache.lock with
      | some (call, .entered) =>
          if cache.pairs.isEmpty ∨ cache.now - cache.fetchedAt ≥ pairsLifetime then
            some { cache with lock := some (call, .fetching cache.now) }
          else some (cache.answer call cache.now (.ok ⟨cache.pairs, depths⟩))
      | _ => none
  | .fetched result =>
      match cache.lock with
      | some (call, .fetching started) =>
          let fetch : PairsFetch := ⟨call, started, cache.now, result⟩
          match result with
          | .error error =>
              some (answer { cache with fetches := cache.fetches ++ [fetch] } call started
                (.error error))
          | .ok pairs =>
              some (answer
                { cache with
                  pairs := pairs
                  fetchedAt := started
                  fetches := cache.fetches ++ [fetch] }
                call started (.ok ⟨pairs, depths⟩))
      | _ => none

/-- A manager's pairs, with every order of the calls' steps. -/
def system (opened : Nat) (depths : List UInt32) : System PairsCache Action where
  init := init opened
  step cache := cache.step depths

/-- The fetch found pairs. -/
def Found (fetch : PairsFetch) : Prop := ∃ pairs, fetch.result = .ok pairs ∧ pairs ≠ []

/-- An answer is what a fetch found that was begun no longer than a lifetime before, or it is
the failure of the call's own. -/
def Explained (depths : List UInt32) (cache : PairsCache) (call : Nat) (answer : PairsAnswer) :
    Prop :=
  match answer.result with
  | .ok list => list.depths = depths ∧ ∃ fetch ∈ cache.fetches, fetch.result = .ok list.symbols ∧
      fetch.started ≤ answer.looked ∧ answer.looked < fetch.started + pairsLifetime
  | .error error => ∃ fetch ∈ cache.fetches, fetch.call = call ∧ fetch.result = .error error ∧
      fetch.started = answer.looked

/-- Two fetches in their order: the second begins once the first has ended, and if the first
found pairs not until these are too old. -/
def Apart (first second : PairsFetch) : Prop :=
  first.ended ≤ second.started ∧ (Found first → first.started + pairsLifetime ≤ second.started)

/-- What holds however the calls interleave. -/
structure Sound (depths : List UInt32) (cache : PairsCache) : Prop where
  past : ∀ fetch ∈ cache.fetches, fetch.started ≤ fetch.ended ∧ fetch.ended ≤ cache.now
  kept : cache.pairs ≠ [] → ∃ fetch ∈ cache.fetches,
    fetch.result = .ok cache.pairs ∧ fetch.started = cache.fetchedAt
  spaced : ∀ fetch ∈ cache.fetches, Found fetch →
    fetch.started = cache.fetchedAt ∧ cache.pairs ≠ [] ∨
      fetch.started + pairsLifetime ≤ cache.fetchedAt
  before : cache.fetchedAt ≤ cache.now
  asking : ∀ call started, cache.lock = some (call, .fetching started) →
    started ≤ cache.now ∧ ∀ fetch ∈ cache.fetches,
      fetch.ended ≤ started ∧ (Found fetch → fetch.started + pairsLifetime ≤ started)
  ordered : cache.fetches.Pairwise Apart
  explained : ∀ call answer, cache.calls call = some (.answered answer) →
    Explained depths cache call answer

variable {cache} {depths : List UInt32} {next : PairsCache}

/-- An answer stays explained as fetches are added. -/
theorem Explained.mono {call : Nat} {answer : PairsAnswer}
    (explained : Explained depths cache call answer)
    (more : cache.fetches ⊆ next.fetches) : Explained depths next call answer := by
  unfold Explained at explained ⊢
  cases result : answer.result with
  | error error =>
      simp only [result] at explained
      obtain ⟨fetch, member, own⟩ := explained
      exact ⟨fetch, more member, own⟩
  | ok list =>
      simp only [result] at explained
      obtain ⟨same, fetch, member, found⟩ := explained
      exact ⟨same, fetch, more member, found⟩

namespace Sound

theorem init (opened : Nat) : Sound depths (PairsCache.init opened) where
  past _ member := (List.not_mem_nil member).elim
  kept present := (present rfl).elim
  spaced _ member := (List.not_mem_nil member).elim
  before := Nat.zero_le _
  asking _ _ locked := (Option.some_ne_none _ locked.symm).elim
  ordered := .nil
  explained _ _ called := (Option.some_ne_none _ called.symm).elim

/-- Time passes. -/
theorem pass (sound : Sound depths cache) (time : Nat) :
    Sound depths { cache with now := cache.now + time } where
  past fetch member := by
    obtain ⟨order, ended⟩ := sound.past fetch member
    exact ⟨order, Nat.le_add_right_of_le ended⟩
  kept := sound.kept
  spaced := sound.spaced
  before := Nat.le_add_right_of_le sound.before
  asking call started locked := by
    obtain ⟨before, apart⟩ := sound.asking call started locked
    exact ⟨Nat.le_add_right_of_le before, apart⟩
  ordered := sound.ordered
  explained := sound.explained

/-- A call goes on that neither looks nor is answered. -/
theorem move (sound : Sound depths cache) {call : Nat} {stage : PairsCall}
    (unanswered : ∀ answer, stage ≠ .answered answer) (lock : Option (Nat × PairsPhase))
    (entered : ∀ holder started, lock = some (holder, .fetching started) → lock = cache.lock) :
    Sound depths { cache with
      lock := lock, calls := Function.update cache.calls call (some stage) } where
  past := sound.past
  kept := sound.kept
  spaced := sound.spaced
  before := sound.before
  asking holder started locked :=
    sound.asking holder started ((entered holder started locked) ▸ locked)
  ordered := sound.ordered
  explained other answer called := by
    dsimp only at called
    by_cases same : other = call
    · subst same
      rw [Function.update_self] at called
      exact (unanswered answer (Option.some.inj called)).elim
    · rw [Function.update_of_ne same] at called
      exact sound.explained other answer called

/-- A call is answered. -/
theorem answer (sound : Sound depths cache) {call looked : Nat} {result : Except Error PairList}
    (explained : Explained depths cache call ⟨looked, result⟩) :
    Sound depths (cache.answer call looked result) where
  past := sound.past
  kept := sound.kept
  spaced := sound.spaced
  before := sound.before
  asking _ _ locked := (Option.some_ne_none _ locked.symm).elim
  ordered := sound.ordered
  explained other given called := by
    dsimp only [PairsCache.answer] at called
    by_cases same : other = call
    · subst same
      rw [Function.update_self] at called
      obtain rfl := PairsCall.answered.inj (Option.some.inj called)
      exact explained.mono fun _ member => member
    · rw [Function.update_of_ne same] at called
      exact (sound.explained other given called).mono fun _ member => member

/-- The call that has the lock looks at the clock. -/
theorem look (sound : Sound depths cache) (looked : cache.step depths .look = some next) :
    Sound depths next := by
  simp only [step] at looked
  split at looked
  · rename_i call entered
    split at looked
    · rename_i stale
      obtain rfl := Option.some.inj looked
      refine { sound with asking := fun holder started locked => ?_ }
      obtain ⟨rfl, phase⟩ := Prod.mk.inj (Option.some.inj locked)
      obtain rfl := PairsPhase.fetching.inj phase
      refine ⟨Nat.le_refl _, fun fetch member => ⟨(sound.past fetch member).2, fun found => ?_⟩⟩
      have before := sound.before
      rcases sound.spaced fetch member found with ⟨same, present⟩ | apart
      · have old := stale.resolve_left fun none => present (List.isEmpty_iff.mp none)
        omega
      · exact Nat.le_trans apart before
    · rename_i fresh
      obtain rfl := Option.some.inj looked
      rw [not_or] at fresh
      obtain ⟨fetch, member, result, started⟩ :=
        sound.kept fun none => fresh.1 (List.isEmpty_iff.mpr none)
      have before := sound.before
      refine sound.answer ⟨rfl, fetch, member, result, ?_, ?_⟩
      · dsimp only
        omega
      · dsimp only
        omega
  · contradiction

/-- A fetch has ended, and the lock is released; what it found, if it did, is kept. -/
theorem fetch (sound : Sound depths cache) {call started : Nat}
    {result : Except Error (List String)}
    (asks : cache.lock = some (call, .fetching started)) {pairs : List String} {fetchedAt : Nat}
    (kept : result = .ok pairs ∧ fetchedAt = started ∨
      (∃ error, result = .error error) ∧ pairs = cache.pairs ∧ fetchedAt = cache.fetchedAt) :
    Sound depths { cache with
      lock := none
      pairs := pairs
      fetchedAt := fetchedAt
      fetches := cache.fetches ++ [⟨call, started, cache.now, result⟩] } := by
  obtain ⟨past, apart⟩ := sound.asking call started asks
  constructor
  case past =>
    intro other member
    rcases List.mem_append.mp member with earlier | last
    · exact sound.past other earlier
    · obtain rfl := List.mem_singleton.mp last
      exact ⟨past, Nat.le_refl _⟩
  case kept =>
    intro present
    rcases kept with ⟨rfl, rfl⟩ | ⟨-, rfl, rfl⟩
    · exact ⟨_, List.mem_append_right _ List.mem_cons_self, rfl, rfl⟩
    · obtain ⟨other, member, same⟩ := sound.kept present
      exact ⟨other, List.mem_append_left _ member, same⟩
  case spaced =>
    intro other member found
    rcases List.mem_append.mp member with earlier | last
    · rcases kept with ⟨-, rfl⟩ | ⟨-, rfl, rfl⟩
      · exact .inr ((apart other earlier).2 found)
      · exact sound.spaced other earlier found
    · obtain rfl := List.mem_singleton.mp last
      obtain ⟨symbols, same, present⟩ := found
      rcases kept with ⟨rfl, rfl⟩ | ⟨⟨error, rfl⟩, -⟩
      · obtain rfl := Except.ok.inj same
        exact .inl ⟨rfl, present⟩
      · contradiction
  case before =>
    rcases kept with ⟨-, rfl⟩ | ⟨-, -, rfl⟩
    · exact past
    · exact sound.before
  case asking => exact fun _ _ locked => (Option.some_ne_none _ locked.symm).elim
  case ordered =>
    refine List.pairwise_append.mpr ⟨sound.ordered, List.pairwise_singleton _ _, ?_⟩
    intro earlier member later last
    obtain rfl := List.mem_singleton.mp last
    exact apart earlier member
  case explained =>
    intro other answer called
    exact (sound.explained other answer called).mono (List.subset_append_left _ _)

/-- The call that has the lock has asked the venue. -/
theorem fetched (sound : Sound depths cache) {result : Except Error (List String)}
    (ended : cache.step depths (.fetched result) = some next) : Sound depths next := by
  simp only [step] at ended
  split at ended
  · rename_i call started asks
    have last : ∀ fetch, fetch ∈ cache.fetches ++ [fetch] := fun fetch =>
      List.mem_append_right _ List.mem_cons_self
    cases result with
    | error error =>
        obtain rfl := Option.some.inj ended
        exact (sound.fetch asks (.inr ⟨⟨error, rfl⟩, rfl, rfl⟩)).answer
          ⟨_, last _, rfl, rfl, rfl⟩
    | ok pairs =>
        obtain rfl := Option.some.inj ended
        exact (sound.fetch asks (.inl ⟨rfl, rfl⟩)).answer
          ⟨rfl, _, last _, rfl, Nat.le_refl _, Nat.lt_add_of_pos_right (by decide)⟩
  · contradiction

/-- Every step keeps the cache sound. -/
theorem step (sound : Sound depths cache) {action : Action}
    (stepped : cache.step depths action = some next) : Sound depths next := by
  cases action with
  | pass time =>
      obtain rfl := Option.some.inj stepped
      exact sound.pass time
  | listPairs call =>
      simp only [PairsCache.step] at stepped
      split at stepped
      · obtain rfl := Option.some.inj stepped
        exact sound.move (fun answer => by simp) cache.lock fun _ _ _ => rfl
      · contradiction
  | lock call =>
      simp only [PairsCache.step] at stepped
      split at stepped
      · obtain rfl := Option.some.inj stepped
        exact sound.move (fun answer => by simp) _ fun _ _ locked => by simp at locked
      · contradiction
  | look => exact sound.look stepped
  | fetched result => exact sound.fetched stepped

end Sound

/-- **The pairs that are listed are fresh, and are fetched as rarely as can be.** However the
calls interleave and whatever the venue answers: a call is answered with the pairs of a fetch
that was begun less than the lifetime before the call looked, or with the failure of its own
fetch; and of two fetches the second begins once the first has ended and, if the first found
pairs, no sooner than a lifetime after it began. -/
theorem listed_pairs_fresh (opened : Nat) (depths : List UInt32) (cache : PairsCache)
    (reachable : (system opened depths).Reachable cache) :
    (∀ call answer, cache.calls call = some (.answered answer) →
      Explained depths cache call answer) ∧
    cache.fetches.Pairwise Apart := by
  have sound : Sound depths cache := by
    apply reachable.invariant
    · exact Sound.init opened
    · exact fun state action next sound stepped => sound.step stepped
  exact ⟨sound.explained, sound.ordered⟩

/-- Two calls, of which the second waits for the fetch of the first. -/
def waited : List Action :=
  [.listPairs 1, .listPairs 2, .lock 1, .look, .pass 5, .fetched (.ok ["BTC/USD"]), .lock 2,
    .look]

/-- Both calls are answered, from one fetch. -/
theorem listed_pairs_fresh_waited :
    ∃ cache, (system 7 [10]).run waited = some cache ∧ cache.fetches.length = 1 ∧
      (cache.calls 2).isSome ∧
      (∀ call answer, cache.calls call = some (.answered answer) →
        Explained [10] cache call answer) ∧
      cache.fetches.Pairwise Apart :=
  ⟨_, rfl, rfl, rfl, listed_pairs_fresh 7 [10] _ ⟨waited, rfl⟩⟩

end PairsCache

end DataFeed.Venue
