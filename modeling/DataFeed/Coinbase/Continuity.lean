import DataFeed.Coinbase.L2Decoder
import DataFeed.Foundation.Continuity

/-! # No frame of Coinbase's is missed unseen

The decoder acts on the frames of a connection in the order of their numbers, without
a gap, and on its heartbeats likewise, whatever frames are lost, repeated or swapped:
the numbers it keeps are the highest of those it has seen, and it throws at the first
that skips.
-/

namespace DataFeed.Coinbase

open Foundation DataFeed.Core L2 Net Venue

section Spec

variable (parse : String → Option Json)

/-- The channel and the number of a frame, unless it is no frame of a channel or the
number cannot be read. -/
def header (frame : RawFrame) : Option (Json × String × UInt64) :=
  match parse frame.json with
  | some (.object members) =>
      let document := Json.object members
      match document.findString "type" with
      | .error _ => none
      | .ok type =>
          if type = some "error" then none
          else
            match document.findString "channel" with
            | .error _ | .ok none => none
            | .ok (some channel) =>
                (requireUnsigned document "sequence_num").toOption.map fun number =>
                  (document, channel, number)
  | _ => none

/-- The number of a frame. -/
def sequenceNumber (frame : RawFrame) : Option UInt64 :=
  (header parse frame).map fun parts => parts.2.2

/-- The counters of heartbeats. -/
def counters (events : List Json) : List UInt64 :=
  events.filterMap fun event => (requireUnsigned event "heartbeat_counter").toOption

/-- The counters of a frame of heartbeats. -/
def heartbeatCounters (frame : RawFrame) : List UInt64 :=
  match header parse frame with
  | some (document, channel, _) =>
      if channel = "heartbeats" then
        counters ((document.requireArray "events").toOption.getD [])
      else []
  | none => []

end Spec

/-- `advance` goes by how the next number arrives. -/
theorem advance_eq (last : Option UInt64) (next : UInt64) (what : String) :
    advance last next what =
      match arrival last next with
      | .stale => .ok (last, false)
      | .next => .ok (some next, true)
      | .skipping => .error (skipped what (last.getD 0) next) := by
  unfold advance arrival
  cases last with
  | none => rfl
  | some last =>
      dsimp only [Option.getD_some]
      by_cases stale : next ≤ last
      · rw [if_pos stale, if_pos stale]
      · have room : last.toNat + 1 < UInt64.size := by
          have higher := UInt64.lt_iff_toNat_lt.mp (UInt64.not_le.mp stale)
          have bound := next.toNat_lt
          rw [UInt64.size]
          omega
        have follows : next = last + 1 ↔ next.toNat = last.toNat + 1 := by
          rw [← UInt64.toNat_inj, UInt64.toNat_add, show (1 : UInt64).toNat = 1 from rfl,
            Nat.mod_eq_of_lt room]
        rw [if_neg stale, if_neg stale]
        by_cases one : next = last + 1
        · rw [if_neg (not_not_intro one), if_pos (follows.mp one)]
        · rw [if_pos one, if_neg (fun same => one (follows.mpr same))]

variable {parse : String → Option Json} {scale : String → UInt32 → Int64}
  {decoder : L2Decoder} {frame : RawFrame} {emitted : List Message}
  {result : Except String L2Decoder}

/-- How decoding a frame comes out. -/
inductive Outcome (parse : String → Option Json) (scale : String → UInt32 → Int64)
    (decoder : L2Decoder) (frame : RawFrame) (emitted : List Message)
    (result : Except String L2Decoder) : Prop
  /-- The frame has no number, and is ignored or refused. -/
  | unnumbered : sequenceNumber parse frame = none → emitted = [] →
      (result = .ok decoder ∨ ∃ what, result = .error what) →
        Outcome parse scale decoder frame emitted result
  | stale (number : UInt64) : sequenceNumber parse frame = some number →
      arrival decoder.lastSequence number = .stale → emitted = [] → result = .ok decoder →
        Outcome parse scale decoder frame emitted result
  | skipping (number : UInt64) (what : String) : sequenceNumber parse frame = some number →
      arrival decoder.lastSequence number = .skipping → emitted = [] → result = .error what →
        Outcome parse scale decoder frame emitted result
  | next (document : Json) (channel : String) (number : UInt64) :
      header parse frame = some (document, channel, number) →
      arrival decoder.lastSequence number = .next →
      (decodeEvents scale { decoder with lastSequence := some number } frame document
        channel).Runs emitted result →
        Outcome parse scale decoder frame emitted result

theorem outcome_of_runs (runs : (decode scale parse decoder frame).Runs emitted result) :
    Outcome parse scale decoder frame emitted result := by
  unfold decode at runs
  split at runs
  · rename_i members parsed
    rcases runs.of_attempt with ⟨what, mistyped, rfl, rfl⟩ | ⟨type, typed, runs⟩
    · refine .unnumbered ?_ rfl (Or.inr ⟨what, rfl⟩)
      simp only [sequenceNumber, header, parsed, mistyped, Option.map_none]
    by_cases error : type = some "error"
    · rw [if_pos error] at runs
      cases runs
      refine .unnumbered ?_ rfl (Or.inl rfl)
      simp only [sequenceNumber, header, parsed, typed, error, ↓reduceIte, Option.map_none]
    rw [if_neg error] at runs
    rcases runs.of_attempt with ⟨what, mistyped, rfl, rfl⟩ | ⟨channel, given, runs⟩
    · refine .unnumbered ?_ rfl (Or.inr ⟨what, rfl⟩)
      simp only [sequenceNumber, header, parsed, typed, error, mistyped, ↓reduceIte,
        Option.map_none]
    cases channel with
    | none =>
        cases runs
        refine .unnumbered ?_ rfl (Or.inl rfl)
        simp only [sequenceNumber, header, parsed, typed, error, given, ↓reduceIte,
          Option.map_none]
    | some channel =>
        rcases runs.of_attempt with ⟨what, unread, rfl, rfl⟩ | ⟨number, read, runs⟩
        · refine .unnumbered ?_ rfl (Or.inr ⟨what, rfl⟩)
          simp only [sequenceNumber, header, parsed, typed, error, given, unread, ↓reduceIte,
            Except.toOption, Option.map_none]
        have headed : header parse frame = some (.object members, channel, number) := by
          simp only [header, parsed, typed, error, given, read, ↓reduceIte, Except.toOption,
            Option.map_some]
        have numbered : sequenceNumber parse frame = some number := by
          rw [sequenceNumber, headed, Option.map_some]
        rw [advance_eq] at runs
        cases arrives : arrival decoder.lastSequence number with
        | stale =>
            rw [arrives] at runs
            cases runs
            exact .stale number numbered arrives rfl rfl
        | skipping =>
            rw [arrives] at runs
            cases runs
            exact .skipping number _ numbered arrives rfl rfl
        | next =>
            rw [arrives] at runs
            exact .next _ channel number headed arrives runs
  · rename_i unparsed
    cases runs
    refine .unnumbered ?_ rfl (Or.inl rfl)
    rw [sequenceNumber, header]
    split
    · rename_i members parsed
      exact (unparsed members parsed).elim
    · rfl

theorem heartbeat_eq_ok {last after : Option UInt64} {event : Json}
    (done : heartbeat last event = .ok after) :
    ∃ counter, requireUnsigned event "heartbeat_counter" = .ok counter ∧
      Contiguous last [counter] ∧ after = latest last [counter] := by
  unfold heartbeat at done
  cases read : requireUnsigned event "heartbeat_counter" with
  | error what =>
      rw [read] at done
      contradiction
  | ok counter =>
      rw [read] at done
      change (advance last counter "heartbeats").map Prod.fst = _ at done
      rw [advance_eq] at done
      refine ⟨counter, rfl, ?_⟩
      rw [Contiguous, latest_cons]
      cases arrives : arrival last counter with
      | stale =>
          rw [arrives] at done
          exact ⟨trivial, (Except.ok.inj done).symm⟩
      | next =>
          rw [arrives] at done
          exact ⟨trivial, (Except.ok.inj done).symm⟩
      | skipping =>
          rw [arrives] at done
          contradiction

/-- Heartbeats that are decoded without a throw do not skip. -/
theorem heartbeats_eq_ok {last after : Option UInt64} {events : List Json}
    (done : events.foldlM heartbeat last = .ok after) :
    Contiguous last (counters events) ∧ after = latest last (counters events) := by
  induction events generalizing last with
  | nil => exact ⟨trivial, (Except.ok.inj done).symm⟩
  | cons event events ih =>
      rw [List.foldlM_cons] at done
      cases first : heartbeat last event with
      | error what =>
          rw [first] at done
          contradiction
      | ok next =>
          rw [first] at done
          obtain ⟨counter, read, follows, rfl⟩ := heartbeat_eq_ok first
          obtain ⟨contiguous, rfl⟩ := ih done
          have split : counters (event :: events) = [counter] ++ counters events := by
            rw [counters, List.filterMap_cons, read]
            rfl
          rw [split, Contiguous.append_iff, latest_append]
          exact ⟨⟨follows, contiguous⟩, rfl⟩

/-- Decoding a frame's book changes leaves the decoder as it is. -/
theorem events_runs {venueTimeNs captureTimeNs : Int64} {events : List Json}
    (runs : (events.foldr (decodeEvent scale venueTimeNs captureTimeNs)
      (.done decoder)).Runs emitted result) :
    result = .ok decoder ∨ ∃ what, result = .error what := by
  induction events generalizing emitted with
  | nil =>
      cases runs
      exact Or.inl rfl
  | cons event events ih =>
      rw [List.foldr_cons] at runs
      unfold decodeEvent at runs
      rcases runs.of_attempt with ⟨what, _, _, rfl⟩ | ⟨product, _, runs⟩
      · exact Or.inr ⟨what, rfl⟩
      rcases runs.of_attempt with ⟨what, _, _, rfl⟩ | ⟨type, _, runs⟩
      · exact Or.inr ⟨what, rfl⟩
      cases runs with
      | find answer runs =>
          cases answer with
          | none => exact ih runs
          | some precision =>
              rcases runs.of_attempt with ⟨what, _, _, rfl⟩ | ⟨updates, _, runs⟩
              · exact Or.inr ⟨what, rfl⟩
              rcases runs.of_attempt with ⟨what, _, _, rfl⟩ | ⟨message, _, runs⟩
              · exact Or.inr ⟨what, rfl⟩
              cases runs with
              | emit runs => exact ih runs

/-- What is kept of a frame that follows the last. -/
theorem decodeEvents_ok {document : Json} {channel : String} {after : L2Decoder} {number : UInt64}
    (headed : header parse frame = some (document, channel, number))
    (runs : (decodeEvents scale decoder frame document channel).Runs emitted (.ok after)) :
    after.lastSequence = decoder.lastSequence ∧
      Contiguous decoder.lastHeartbeat (heartbeatCounters parse frame) ∧
        after.lastHeartbeat = latest decoder.lastHeartbeat (heartbeatCounters parse frame) := by
  unfold heartbeatCounters
  rw [headed]
  unfold decodeEvents at runs
  rcases runs.of_attempt with ⟨what, _, _, failed⟩ | ⟨events, listed, runs⟩
  · contradiction
  by_cases heartbeats : channel = "heartbeats"
  · rw [if_pos heartbeats] at runs
    rcases runs.of_attempt with ⟨what, _, _, failed⟩ | ⟨last, done, runs⟩
    · contradiction
    cases runs
    obtain ⟨contiguous, rfl⟩ := heartbeats_eq_ok done
    dsimp only
    rw [if_pos heartbeats, listed]
    exact ⟨rfl, contiguous, rfl⟩
  · rw [if_neg heartbeats] at runs
    dsimp only
    rw [if_neg heartbeats]
    split at runs
    · cases runs
      exact ⟨rfl, trivial, rfl⟩
    · rcases runs.of_attempt with ⟨what, _, _, failed⟩ | ⟨time, _, runs⟩
      · contradiction
      rcases events_runs runs with same | ⟨what, failed⟩
      · obtain rfl := Except.ok.inj same
        exact ⟨rfl, trivial, rfl⟩
      · contradiction

/-- The content of a frame was acted on: it emitted something, or the decoder changed. -/
def acted (decoded : Decoded L2Decoder) : Bool :=
  decoded.after ≠ decoded.before || !decoded.emitted.isEmpty

/-- A frame that follows the last one is acted on, by decoding its events. -/
theorem acted_of_next {number : UInt64} {after : L2Decoder}
    (numbered : sequenceNumber parse frame = some number)
    (arrives : arrival decoder.lastSequence number = .next)
    (runs : (decode scale parse decoder frame).Runs emitted (.ok after)) :
    acted ⟨frame, decoder, emitted, after⟩ = true ∧ after.lastSequence = some number ∧
      ∃ document channel, header parse frame = some (document, channel, number) ∧
        (decodeEvents scale { decoder with lastSequence := some number } frame document
          channel).Runs emitted (.ok after) := by
  cases outcome_of_runs runs with
  | unnumbered unnumbered =>
      exact (Option.some_ne_none _ (numbered.symm.trans unnumbered)).elim
  | stale other same stale =>
      obtain rfl := Option.some.inj (numbered.symm.trans same)
      exact Arrival.noConfusion (arrives.symm.trans stale)
  | skipping other what same skips =>
      obtain rfl := Option.some.inj (numbered.symm.trans same)
      exact Arrival.noConfusion (arrives.symm.trans skips)
  | next document channel other headed _ runs =>
      have same : sequenceNumber parse frame = some other := by
        rw [sequenceNumber, headed, Option.map_some]
      obtain rfl := Option.some.inj (numbered.symm.trans same)
      obtain ⟨sequence, _⟩ := decodeEvents_ok headed runs
      have changes : after ≠ decoder := by
        rintro rfl
        rw [sequence] at arrives
        simp only [arrival, UInt64.le_refl, ↓reduceIte, reduceCtorEq] at arrives
      refine ⟨?_, sequence, document, channel, headed, runs⟩
      simp only [acted, ne_eq, changes, not_false_eq_true, decide_true, Bool.true_or]

/-- The numbers of the frames. -/
def numbers (parse : String → Option Json) (decoded : List (Decoded L2Decoder)) : List UInt64 :=
  decoded.filterMap fun decoded => sequenceNumber parse decoded.frame

/-- The heartbeats of the frames acted on. -/
def beats (parse : String → Option Json) (decoded : List (Decoded L2Decoder)) : List UInt64 :=
  (decoded.filter acted).flatMap fun decoded => heartbeatCounters parse decoded.frame

/-- What a decoder does with frames, from what it kept of those before. -/
structure Follows (parse : String → Option Json) (before : L2Decoder)
    (decoded : List (Decoded L2Decoder)) (after : L2Decoder) : Prop where
  sequence : Contiguous before.lastSequence (numbers parse decoded)
  lastSequence : after.lastSequence = latest before.lastSequence (numbers parse decoded)
  acted : (decoded.filter acted).map (fun decoded => sequenceNumber parse decoded.frame) =
    (fresh before.lastSequence (numbers parse decoded)).map some
  heartbeats : Contiguous before.lastHeartbeat (beats parse decoded)
  lastHeartbeat : after.lastHeartbeat = latest before.lastHeartbeat (beats parse decoded)

namespace Follows

variable {before after final : L2Decoder} {past later : List (Decoded L2Decoder)}

theorem append (first : Follows parse before past decoder)
    (second : Follows parse decoder later after) : Follows parse before (past ++ later) after := by
  have split : numbers parse (past ++ later) = numbers parse past ++ numbers parse later :=
    List.filterMap_append
  have beaten : beats parse (past ++ later) = beats parse past ++ beats parse later := by
    rw [beats, List.filter_append, List.flatMap_append, beats, beats]
  refine ⟨?_, ?_, ?_, ?_, ?_⟩
  · rw [split, Contiguous.append_iff, ← first.lastSequence]
    exact ⟨first.sequence, second.sequence⟩
  · rw [split, latest_append, ← first.lastSequence]
    exact second.lastSequence
  · rw [split, fresh_append, ← first.lastSequence, List.filter_append, List.map_append,
      List.map_append, first.acted, second.acted]
  · rw [beaten, Contiguous.append_iff, ← first.lastHeartbeat]
    exact ⟨first.heartbeats, second.heartbeats⟩
  · rw [beaten, latest_append, ← first.lastHeartbeat]
    exact second.lastHeartbeat

/-- A frame that is ignored. -/
theorem ignored (stale : ∀ number, sequenceNumber parse frame = some number →
      arrival decoder.lastSequence number = .stale) :
    Follows parse decoder [⟨frame, decoder, [], decoder⟩] decoder := by
  have idle : [(⟨frame, decoder, [], decoder⟩ : Decoded L2Decoder)].filter Coinbase.acted = [] := by
    simp only [Coinbase.acted, List.filter_cons, ne_eq, not_true_eq_false, decide_false,
      List.isEmpty_nil, Bool.not_true, Bool.or_self, Bool.false_eq_true, ↓reduceIte,
      List.filter_nil]
  have silent : beats parse [⟨frame, decoder, [], decoder⟩] = [] := by
    rw [beats, idle, List.flatMap_nil]
  have known : Contiguous decoder.lastSequence (numbers parse [⟨frame, decoder, [], decoder⟩]) ∧
      fresh decoder.lastSequence (numbers parse [⟨frame, decoder, [], decoder⟩]) = [] := by
    cases numbered : sequenceNumber parse frame with
    | none => simp only [numbers, List.filterMap_cons, numbered, List.filterMap_nil, Contiguous,
        fresh, and_self]
    | some number => simp only [numbers, List.filterMap_cons, numbered, List.filterMap_nil,
        Contiguous, fresh, stale number numbered, and_self]
  refine ⟨known.1, ?_, ?_, ?_, ?_⟩
  · rw [latest, known.2]
    rfl
  · rw [idle, known.2]
    rfl
  · rw [silent]
    trivial
  · rw [silent]
    rfl

/-- A frame that is acted on. -/
theorem next {document : Json} {channel : String} {number : UInt64}
    (headed : header parse frame = some (document, channel, number))
    (arrives : arrival decoder.lastSequence number = .next)
    (runs : (decodeEvents scale { decoder with lastSequence := some number } frame document
      channel).Runs emitted (.ok after)) :
    Follows parse decoder [⟨frame, decoder, emitted, after⟩] after := by
  obtain ⟨sequence, heartbeats, lastHeartbeat⟩ := decodeEvents_ok headed runs
  have numbered : sequenceNumber parse frame = some number := by
    rw [sequenceNumber, headed, Option.map_some]
  have single : numbers parse [⟨frame, decoder, emitted, after⟩] = [number] := by
    simp only [numbers, List.filterMap_cons, numbered, List.filterMap_nil]
  have changes : after ≠ decoder := by
    rintro rfl
    rw [sequence] at arrives
    simp only [arrival, UInt64.le_refl, ↓reduceIte, reduceCtorEq] at arrives
  have acts : [(⟨frame, decoder, emitted, after⟩ : Decoded L2Decoder)].filter Coinbase.acted =
      [⟨frame, decoder, emitted, after⟩] := by
    simp only [Coinbase.acted, List.filter_cons, ne_eq, changes, not_false_eq_true, decide_true,
      Bool.true_or, ↓reduceIte, List.filter_nil]
  have beaten : beats parse [⟨frame, decoder, emitted, after⟩] = heartbeatCounters parse frame := by
    rw [beats, acts, List.flatMap_singleton]
  refine ⟨?_, ?_, ?_, ?_, ?_⟩
  · simp only [single, Contiguous, arrives]
  · rw [single, latest_cons, arrives, sequence]
    rfl
  · simp only [acts, single, fresh, arrives, List.map_cons, List.map_nil, numbered]
  · rwa [beaten]
  · rwa [beaten]

/-- Every frame that is decoded without a throw is ignored or acted on. -/
theorem of_runs (runs : (decode scale parse decoder frame).Runs emitted (.ok after)) :
    Follows parse decoder [⟨frame, decoder, emitted, after⟩] after := by
  cases outcome_of_runs runs with
  | unnumbered unnumbered quiet ended =>
      subst quiet
      rcases ended with same | ⟨what, failed⟩
      · obtain rfl := Except.ok.inj same
        refine ignored fun number numbered => ?_
        rw [unnumbered] at numbered
        contradiction
      · contradiction
  | stale number numbered arrives quiet same =>
      obtain rfl := Except.ok.inj same
      subst quiet
      refine ignored fun other same => ?_
      rw [numbered] at same
      obtain rfl := Option.some.inj same
      exact arrives
  | skipping number what numbered arrives quiet failed => contradiction
  | next document channel number headed arrives runs => exact next headed arrives runs

theorem of_decodes {decoded : List (Decoded L2Decoder)}
    (run : Decodes (decode scale parse) before decoded final) :
    Follows parse before decoded final := by
  induction run with
  | nil => exact ⟨trivial, rfl, rfl, trivial, rfl⟩
  | concat _ runs ih => exact ih.append (of_runs runs)

end Follows

/-- **Nothing of Coinbase's is missed unseen.** Over the frames of a connection that are
decoded without a throw, the frames acted on are numbered one after another, without a
wrap-around, and the decoder keeps the number of the last of them. A frame numbered at or
below it emits nothing and changes nothing, one that skips past the next number throws before
anything is emitted, and one under the next number, or the first one of all, is acted on by
decoding its events, unless that throws. The heartbeats of the frames acted on do not skip
either: each counter is at most one past one before it, and the counters higher than all
before them follow one after another. -/
theorem continuity {decoded : List (Decoded L2Decoder)} {final : L2Decoder}
    (run : Decodes (decode scale parse) .init decoded final) :
    (∃ first, (decoded.filter acted).map (fun decoded =>
        (sequenceNumber parse decoded.frame).map UInt64.toNat) =
      (List.range' first (decoded.filter acted).length).map some) ∧
    final.lastSequence =
      (decoded.filter acted).getLast?.bind (fun decoded => sequenceNumber parse decoded.frame) ∧
    (∀ last frame number emitted result, final.lastSequence = some last →
      sequenceNumber parse frame = some number →
        (decode scale parse final frame).Runs emitted result →
          (number ≤ last → emitted = [] ∧ result = .ok final) ∧
          (last.toNat + 1 < number.toNat → emitted = [] ∧ ∃ what, result = .error what)) ∧
    (∀ frame number emitted after, sequenceNumber parse frame = some number →
      (∀ last, final.lastSequence = some last → number.toNat = last.toNat + 1) →
        (decode scale parse final frame).Runs emitted (.ok after) →
          acted ⟨frame, final, emitted, after⟩ = true ∧ after.lastSequence = some number ∧
            ∃ document channel, header parse frame = some (document, channel, number) ∧
              (decodeEvents scale { final with lastSequence := some number } frame document
                channel).Runs emitted (.ok after)) ∧
    (∃ first, (fresh none (beats parse decoded)).map UInt64.toNat =
      List.range' first (fresh none (beats parse decoded)).length) ∧
    final.lastHeartbeat = (fresh none (beats parse decoded)).getLast? ∧
    ∀ past counter later, beats parse decoded = past ++ counter :: later → past ≠ [] →
      ∃ earlier ∈ past, counter.toNat ≤ earlier.toNat + 1 := by
  have follows := Follows.of_decodes run
  refine ⟨?_, ?_, ?_, ?_, ?_, ?_, ?_⟩
  · obtain ⟨first, consecutive, _⟩ := follows.sequence.consecutive
    have lengths := congrArg List.length follows.acted
    rw [List.length_map, List.length_map] at lengths
    have values := congrArg (List.map (Option.map UInt64.toNat)) follows.acted
    rw [List.map_map, List.map_map] at values
    refine ⟨first, values.trans ?_⟩
    rw [lengths, ← consecutive, List.map_map]
    rfl
  · have last := congrArg List.getLast? follows.acted
    rw [List.getLast?_map, List.getLast?_map] at last
    rw [follows.lastSequence, latest, L2Decoder.init, Option.or_none]
    cases final : (decoded.filter acted).getLast? with
    | none =>
        rw [final] at last
        exact Option.map_eq_none_iff.mp last.symm
    | some decided =>
        rw [final] at last
        obtain ⟨number, highest, numbered⟩ := Option.map_eq_some_iff.mp last.symm
        exact highest.trans numbered
  · intro last frame number emitted result known numbered runs
    cases outcome_of_runs runs with
    | unnumbered unnumbered => exact (Option.some_ne_none _ (numbered.symm.trans unnumbered)).elim
    | stale other same arrives quiet unchanged =>
        obtain rfl := Option.some.inj (numbered.symm.trans same)
        rw [known, arrival_eq_stale_iff, UInt64.le_iff_toNat_le] at arrives
        exact ⟨fun _ => ⟨quiet, unchanged⟩, fun skips => by omega⟩
    | skipping other what same arrives quiet failed =>
        obtain rfl := Option.some.inj (numbered.symm.trans same)
        rw [known, arrival_eq_skipping_iff] at arrives
        refine ⟨fun low => ?_, fun _ => ⟨quiet, what, failed⟩⟩
        rw [UInt64.le_iff_toNat_le] at low
        omega
    | next document channel other headed arrives _ =>
        have same : sequenceNumber parse frame = some other := by
          rw [sequenceNumber, headed, Option.map_some]
        obtain rfl := Option.some.inj (numbered.symm.trans same)
        rw [known] at arrives
        refine ⟨fun low => ?_, fun skips => ?_⟩
        · exact Arrival.noConfusion (arrives.symm.trans (arrival_eq_stale_iff.mpr low))
        · exact Arrival.noConfusion (arrives.symm.trans (arrival_eq_skipping_iff.mpr skips))
  · intro frame number emitted after numbered follow runs
    exact acted_of_next numbered (arrival_eq_next follow) runs
  · obtain ⟨first, consecutive, _⟩ := follows.heartbeats.consecutive
    exact ⟨first, consecutive⟩
  · rw [follows.lastHeartbeat, latest]
    exact Option.or_none
  · intro past counter later split started
    exact follows.heartbeats.no_skip split started

/-- After a heartbeat and an empty frame, a frame whose number skips throws. -/
theorem continuity_skip :
    let first := "\x7b\"channel\":\"heartbeats\",\"sequence_num\":4,\"events\":[" ++
      "\x7b\"heartbeat_counter\":1\x7d]\x7d"
    let second := "\x7b\"channel\":\"l2_data\",\"sequence_num\":5,\"events\":[]\x7d"
    let third := "\x7b\"channel\":\"l2_data\",\"sequence_num\":7,\"events\":[]\x7d"
    let numbered : String → String → List Json → Json := fun channel number events =>
      .object [("channel", .string channel), ("sequence_num", .string number),
        ("events", .array events)]
    let parse : String → Option Json := fun text =>
      if text = first then
        some (numbered "heartbeats" "4" [.object [("heartbeat_counter", .string "1")]])
      else if text = second then some (numbered "l2_data" "5" [])
      else if text = third then some (numbered "l2_data" "7" [])
      else none
    ∀ emitted result, (decode (fun _ _ => 0) parse ⟨some 5, some 1⟩ ⟨third, 0⟩).Runs emitted
      result → emitted = [] ∧ ∃ what, result = .error what := by
  intro first second third numbered parse emitted result runs
  have run : Decodes (decode (fun _ _ => 0) parse) .init
      ([⟨⟨first, 0⟩, .init, [], ⟨some 4, some 1⟩⟩] ++
        [⟨⟨second, 0⟩, ⟨some 4, some 1⟩, [], ⟨some 5, some 1⟩⟩]) ⟨some 5, some 1⟩ :=
    .concat (.concat .nil (.done _)) (.done _)
  obtain ⟨_, _, every, _⟩ := continuity run
  exact (every 5 _ 7 emitted result rfl (by decide) runs).2 (by decide)

end DataFeed.Coinbase
