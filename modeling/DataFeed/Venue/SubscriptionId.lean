import DataFeed.Venue.Manager
import Mathlib.Algebra.Group.Nat.Defs

/-! # What a subscription's id says

An id is a counter, a venue and a sink, next to one another. No part reaches into the
next one, so each is read back, and ids compare like their counters.
-/

namespace DataFeed.Venue

/-- A venue's number. Only some of them name a venue. -/
abbrev VenueId := UInt8

namespace VenueId

def kraken : VenueId := 0
def coinbase : VenueId := 1

end VenueId

/-- A sink's number. -/
def Sink.code : Sink → UInt64
  | .live => 0
  | .record => 1

/-- How many ids there are: the largest counter that fits 48 bits. -/
def maxSubscriptionsAllowed : UInt64 := (1 : UInt64) <<< 48 - 1

def makeSubscriptionId (counter : UInt64) (venue : VenueId) (sink : Sink) : SubscriptionId :=
  counter <<< 16 ||| venue.toUInt64 <<< 8 ||| sink.code

def counterOf (id : SubscriptionId) : UInt64 := id >>> 16

def venueOf (id : SubscriptionId) : VenueId := (id >>> 8 &&& 0xFF).toUInt8

variable {counter : UInt64} {venue : VenueId} {sink : Sink}

theorem Sink.code_lt (sink : Sink) : sink.code.toNat < 256 := by cases sink <;> decide

/-- The parts of an id lie next to one another. -/
theorem toNat_makeSubscriptionId (allowed : counter ≤ maxSubscriptionsAllowed) (venue : VenueId)
    (sink : Sink) : (makeSubscriptionId counter venue sink).toNat =
      (counter.toNat * 256 + venue.toNat) * 256 + sink.code.toNat := by
  have small : counter.toNat < 281474976710656 :=
    Nat.lt_of_le_of_lt (UInt64.le_iff_toNat_le.mp allowed) (by decide +kernel)
  have venue_small : venue.toNat < 256 := venue.toNat_lt
  have sink_small := sink.code_lt
  have high : (counter <<< 16).toNat = counter.toNat <<< 16 := by
    rw [UInt64.toNat_shiftLeft]
    exact Nat.mod_eq_of_lt (by
      simp only [UInt64.reduceToNat, Nat.reduceMod, Nat.shiftLeft_eq]
      omega)
  have middle : (venue.toUInt64 <<< 8).toNat = venue.toNat <<< 8 := by
    rw [UInt64.toNat_shiftLeft, UInt8.toNat_toUInt64]
    exact Nat.mod_eq_of_lt (by
      simp only [UInt64.reduceToNat, Nat.reduceMod, Nat.shiftLeft_eq]
      omega)
  have upper : counter.toNat <<< 16 ||| venue.toNat <<< 8 =
      (counter.toNat * 256 + venue.toNat) <<< 8 := by
    rw [← Nat.shiftLeft_add_eq_or_of_lt (by rw [Nat.shiftLeft_eq]; omega)]
    simp only [Nat.shiftLeft_eq]
    omega
  rw [makeSubscriptionId, UInt64.toNat_or, UInt64.toNat_or, high, middle, upper,
    ← Nat.shiftLeft_add_eq_or_of_lt sink_small, Nat.shiftLeft_eq]

theorem counterOf_makeSubscriptionId (allowed : counter ≤ maxSubscriptionsAllowed) :
    counterOf (makeSubscriptionId counter venue sink) = counter := by
  have venue_small : venue.toNat < 256 := venue.toNat_lt
  have sink_small := sink.code_lt
  apply UInt64.toNat_inj.mp
  rw [counterOf, UInt64.toNat_shiftRight, toNat_makeSubscriptionId allowed,
    Nat.shiftRight_eq_div_pow]
  simp only [UInt64.reduceToNat, Nat.reduceMod, Nat.reducePow]
  omega

theorem venueOf_makeSubscriptionId (allowed : counter ≤ maxSubscriptionsAllowed) :
    venueOf (makeSubscriptionId counter venue sink) = venue := by
  have venue_small : venue.toNat < 256 := venue.toNat_lt
  have sink_small := sink.code_lt
  apply UInt8.toNat_inj.mp
  rw [venueOf, UInt64.toNat_toUInt8, UInt64.toNat_and, UInt64.toNat_shiftRight,
    toNat_makeSubscriptionId allowed, Nat.shiftRight_eq_div_pow]
  have mask : (0xFF : UInt64).toNat = 2 ^ 8 - 1 := rfl
  rw [mask, Nat.and_two_pow_sub_one_eq_mod]
  simp only [UInt64.reduceToNat, Nat.reduceMod, Nat.reducePow]
  omega

theorem sinkOf_makeSubscriptionId (allowed : counter ≤ maxSubscriptionsAllowed) :
    sinkOf (makeSubscriptionId counter venue sink) = some sink := by
  have low : (makeSubscriptionId counter venue sink &&& 0xFF).toNat = sink.code.toNat := by
    have mask : (0xFF : UInt64).toNat = 2 ^ 8 - 1 := rfl
    have sink_small := sink.code_lt
    rw [UInt64.toNat_and, toNat_makeSubscriptionId allowed, mask, Nat.and_two_pow_sub_one_eq_mod]
    omega
  rw [sinkOf, low]
  cases sink <;> rfl

/-- Ids compare like their counters. -/
theorem makeSubscriptionId_lt {other : UInt64} (allowed : counter ≤ maxSubscriptionsAllowed)
    (also : other ≤ maxSubscriptionsAllowed) (less : counter < other) (venue otherVenue : VenueId)
    (sink otherSink : Sink) :
    makeSubscriptionId counter venue sink < makeSubscriptionId other otherVenue otherSink := by
  have venue_small : venue.toNat < 256 := venue.toNat_lt
  have sink_small := sink.code_lt
  have less := UInt64.lt_iff_toNat_lt.mp less
  rw [UInt64.lt_iff_toNat_lt, toNat_makeSubscriptionId allowed, toNat_makeSubscriptionId also]
  omega

end DataFeed.Venue
