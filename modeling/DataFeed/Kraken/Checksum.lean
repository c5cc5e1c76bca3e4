import Mathlib.Data.List.Sort
import DataFeed.Crypto.Crc32
import DataFeed.L2.Book
import DataFeed.L2.Spelling

/-! # Kraken's checksum of a book

The ten best asks and the ten best bids, best first, each as the digits of its price and
of its quantity. Kraken takes the digits from the decimal text of a level; the code
prints the fixed-point integers it keeps. The two agree for a book that came as a
snapshot (`bookChecksum_of_texts`).
-/

namespace DataFeed.Kraken

open Foundation Crypto DataFeed.Core L2

/-- How many levels of each side the checksum covers. -/
def checksumDepth : Nat := 10

/-- An integer as it is formatted. -/
def format (value : Int64) : List UInt8 :=
  if value.toInt < 0 then 45 :: decimalDigits value.toInt.natAbs
  else decimalDigits value.toInt.natAbs

/-- The top levels of a side, as the checksum takes them in. -/
def appendSide {before : Int64 → Int64 → Prop} (side : OrderedMap Int64 Int64 before)
    (out : List UInt8) : List UInt8 :=
  out ++ (side.entries.take checksumDepth).flatMap fun level => format level.1 ++ format level.2

/-- The checksum of a book. -/
def bookChecksum (book : Book) : UInt32 := crc32 (appendSide book.bids (appendSide book.asks []))

/-- What a plain decimal text stands for. -/
def textValue (text : String) : ℚ :=
  numeral (integerPart (bytes text) ++ fractionPart (bytes text)) /
    10 ^ (fractionPart (bytes text)).length

/-- A text's digits: filled up with zeros to the pair's decimals, the point and leading
zeros removed. -/
def textDigits (text : String) (decimals : UInt32) : List UInt8 :=
  (integerPart (bytes text) ++ fractionPart (bytes text) ++
    List.replicate (decimals.toNat - (fractionPart (bytes text)).length) 48).dropWhile (· = 48)

/-- The digits of the first ten of some levels. -/
def topDigits (precision : PairPrecision) (levels : List LevelText) : List UInt8 :=
  (levels.take 10).flatMap fun level =>
    textDigits level.price precision.priceDecimals ++
      textDigits level.quantity precision.qtyDecimals

/-- The lowest priced first. -/
def lowestFirst (levels : List LevelText) : List LevelText :=
  levels.insertionSort fun first second => textValue first.price ≤ textValue second.price

/-- The highest priced first. -/
def highestFirst (levels : List LevelText) : List LevelText :=
  levels.insertionSort fun first second => textValue second.price ≤ textValue first.price

/-- A positive plain decimal text, not finer than the pair's decimals, that fits when
it is scaled. -/
structure Legal (text : String) (decimals : UInt32) : Prop where
  plain : Plain (bytes text)
  positive : 0 < textValue text
  fine : (fractionPart (bytes text)).length ≤ decimals.toNat
  fits : textValue text * 10 ^ decimals.toNat ≤ 9223372036854775807

/-- A side of levels of distinct prices, all legal. -/
structure LegalSide (precision : PairPrecision) (levels : List LevelText) : Prop where
  price : ∀ level ∈ levels, Legal level.price precision.priceDecimals
  quantity : ∀ level ∈ levels, Legal level.quantity precision.qtyDecimals
  distinct : levels.Pairwise fun first second => textValue first.price ≠ textValue second.price

instance instDecidableLegal (text : String) (decimals : UInt32) : Decidable (Legal text decimals) :=
  decidable_of_iff (Plain (bytes text) ∧ 0 < textValue text ∧
      (fractionPart (bytes text)).length ≤ decimals.toNat ∧
      textValue text * 10 ^ decimals.toNat ≤ 9223372036854775807)
    ⟨fun ⟨plain, positive, fine, fits⟩ => ⟨plain, positive, fine, fits⟩,
      fun legal => ⟨legal.plain, legal.positive, legal.fine, legal.fits⟩⟩

instance instDecidableLegalSide (precision : PairPrecision) (levels : List LevelText) :
    Decidable (LegalSide precision levels) :=
  decidable_of_iff ((∀ level ∈ levels, Legal level.price precision.priceDecimals) ∧
      (∀ level ∈ levels, Legal level.quantity precision.qtyDecimals) ∧
      levels.Pairwise fun first second => textValue first.price ≠ textValue second.price)
    ⟨fun ⟨price, quantity, distinct⟩ => ⟨price, quantity, distinct⟩,
      fun legal => ⟨legal.price, legal.quantity, legal.distinct⟩⟩

namespace Legal

variable {text : String} {decimals : UInt32}

/-- A legal text's digits count the units of the last decimal. -/
theorem numeral_padded (legal : Legal text decimals) :
    numeral (integerPart (bytes text) ++ fractionPart (bytes text) ++
      List.replicate (decimals.toNat - (fractionPart (bytes text)).length) 48) =
        plainScaled (bytes text) decimals.toNat := by
  obtain ⟨more, same⟩ := Nat.exists_eq_add_of_le legal.fine
  rw [numeral_append, numeral_replicate_zero, List.length_replicate, Nat.add_zero, plainScaled,
    same, Nat.add_sub_cancel_left, Nat.pow_add, Nat.mul_comm (10 ^ _), ← Nat.mul_assoc]
  exact (Nat.mul_div_cancel _ (by positivity)).symm

theorem plainScaled_eq (legal : Legal text decimals) :
    (plainScaled (bytes text) decimals.toNat : ℚ) = textValue text * 10 ^ decimals.toNat := by
  obtain ⟨more, same⟩ := Nat.exists_eq_add_of_le legal.fine
  rw [← legal.numeral_padded, numeral_append, numeral_replicate_zero, List.length_replicate,
    Nat.add_zero, textValue, same, Nat.add_sub_cancel_left, pow_add]
  push_cast
  field_simp

theorem positive_scaled (legal : Legal text decimals) :
    0 < plainScaled (bytes text) decimals.toNat := by
  have product : 0 < textValue text * 10 ^ decimals.toNat := mul_pos legal.positive (by positivity)
  rw [← legal.plainScaled_eq] at product
  exact_mod_cast product

theorem fits_scaled (legal : Legal text decimals) :
    FitsI64 (plainScaled (bytes text) decimals.toNat) := by
  have bound := legal.fits
  rw [← legal.plainScaled_eq] at bound
  have small : plainScaled (bytes text) decimals.toNat ≤ 9223372036854775807 := by
    exact_mod_cast bound
  constructor <;> omega

variable {scale : String → UInt32 → Int64}

/-- A legal text scales to its value. -/
theorem toInt_scale (legal : Legal text decimals) (scales : Scales scale)
    (precise : decimals.toNat ≤ 18) :
    (scale text decimals).toInt = plainScaled (bytes text) decimals.toNat := by
  rw [scales _ _ _ (scale_plain legal.plain precise legal.fits_scaled),
    toInt_ofInt_of_fits legal.fits_scaled]

/-- A legal text is printed as its digits once it is scaled. -/
theorem format_scale (legal : Legal text decimals) (scales : Scales scale)
    (precise : decimals.toNat ≤ 18) :
    format (scale text decimals) = textDigits text decimals := by
  have digits : AllDigits (integerPart (bytes text) ++ fractionPart (bytes text) ++
      List.replicate (decimals.toNat - (fractionPart (bytes text)).length) 48) :=
    AllDigits.append_iff.mpr
      ⟨AllDigits.append_iff.mpr legal.plain, AllDigits.replicate_zero _⟩
  unfold format textDigits
  rw [legal.toInt_scale scales precise, if_neg (by omega), Int.natAbs_natCast,
    ← legal.numeral_padded]
  apply decimalDigits_numeral digits
  rw [legal.numeral_padded]
  exact legal.positive_scaled

/-- Scaling keeps the order of prices. -/
theorem scale_lt (legal : Legal text decimals) {other : String} (also : Legal other decimals)
    (scales : Scales scale) (precise : decimals.toNat ≤ 18)
    (less : textValue text < textValue other) : scale text decimals < scale other decimals := by
  have scaled : (plainScaled (bytes text) decimals.toNat : ℚ) <
      plainScaled (bytes other) decimals.toNat := by
    rw [legal.plainScaled_eq, also.plainScaled_eq]
    exact mul_lt_mul_of_pos_right less (by positivity)
  rw [Int64.lt_iff_toInt_lt, legal.toInt_scale scales precise, also.toInt_scale scales precise]
  exact_mod_cast scaled

/-- A legal quantity does not remove its level. -/
theorem scale_ne_zero (legal : Legal text decimals) (scales : Scales scale)
    (precise : decimals.toNat ≤ 18) : scale text decimals ≠ 0 := by
  intro zero
  have positive := legal.positive_scaled
  have scaled := legal.toInt_scale scales precise
  rw [zero, Int64.toInt_zero] at scaled
  omega

end Legal

section Side

variable {scale : String → UInt32 → Int64} {precision : PairPrecision}
  {before : Int64 → Int64 → Prop} [DecidableRel before] [IsStrictTotalOrder Int64 before]
  {levels ranked : List LevelText} {depth : UInt32}

/-- A level as the entry of its side. -/
def entry (scale : String → UInt32 → Int64) (precision : PairPrecision)
    (level : LevelText) : Int64 × Int64 :=
  (scale level.price precision.priceDecimals, scale level.quantity precision.qtyDecimals)

omit [DecidableRel before] [IsStrictTotalOrder Int64 before] in
/-- A depth that the checksum fits in cuts nothing off that it covers. -/
theorem take_truncate (deep : depth = fullDepth ∨ checksumDepth ≤ depth.toNat)
    (side : OrderedMap Int64 Int64 before) :
    (side.truncate (depthLimit depth)).entries.take checksumDepth =
      side.entries.take checksumDepth := by
  unfold depthLimit
  split
  · rfl
  · rename_i limited
    have enough := deep.resolve_left limited
    rw [OrderedMap.truncate, OrderedMap.entries_take, List.take_take, Nat.min_eq_left enough]

/-- A side that came as a snapshot, in whatever order, is appended best first. -/
theorem appendSide_snapshot (scales : Scales scale)
    (precise : precision.priceDecimals.toNat ≤ 18 ∧ precision.qtyDecimals.toNat ≤ 18)
    (deep : depth = fullDepth ∨ checksumDepth ≤ depth.toNat) (legal : LegalSide precision levels)
    (same : ranked.Perm levels)
    (ordered : ranked.Pairwise fun first second =>
      before (entry scale precision first).1 (entry scale precision second).1)
    (out : List UInt8) :
    appendSide (((OrderedMap.empty : OrderedMap Int64 Int64 before).alterAll
      ((levels.map (LevelText.scaled scale precision)).map Level.change)).truncate
        (depthLimit depth)) out = out ++ topDigits precision ranked := by
  have changes : (levels.map (LevelText.scaled scale precision)).map Level.change =
      (levels.map (entry scale precision)).map fun entry => (entry.1, some entry.2) := by
    rw [List.map_map, List.map_map]
    apply List.map_congr_left
    intro level member
    have kept := (legal.quantity level member).scale_ne_zero scales precise.2
    exact congrArg (Prod.mk _) (if_neg kept)
  let side : OrderedMap Int64 Int64 before :=
    ⟨ranked.map (entry scale precision), List.pairwise_map.mpr ordered⟩
  have built : OrderedMap.empty.alterAll ((levels.map (entry scale precision)).map
      fun entry => (entry.1, some entry.2)) = side :=
    OrderedMap.alterAll_of_perm (same.symm.map (entry scale precision))
  unfold appendSide topDigits
  rw [take_truncate deep, changes, built, ← List.map_take, List.flatMap_map]
  congr 1
  apply List.flatMap_congr
  intro level member
  have listed : level ∈ levels := same.mem_iff.mp (List.mem_of_mem_take member)
  exact congrArg₂ (· ++ ·) ((legal.price level listed).format_scale scales precise.1)
    ((legal.quantity level listed).format_scale scales precise.2)

end Side

section Ranking

variable {scale : String → UInt32 → Int64} {precision : PairPrecision} {levels : List LevelText}

/-- Sorting keeps the prices apart. -/
theorem pairwise_insertionSort_distinct (order : LevelText → LevelText → Prop)
    [DecidableRel order] [Std.Total order] [IsTrans LevelText order]
    (legal : LegalSide precision levels) :
    (levels.insertionSort order).Pairwise fun first second =>
      order first second ∧ textValue first.price ≠ textValue second.price :=
  (List.pairwise_insertionSort order levels).and
    (((List.perm_insertionSort order levels).pairwise_iff fun apart => apart.symm).mpr
      legal.distinct)

theorem lowestFirst_ordered (legal : LegalSide precision levels) (scales : Scales scale)
    (precise : precision.priceDecimals.toNat ≤ 18) :
    (lowestFirst levels).Pairwise fun first second =>
      (entry scale precision first).1 < (entry scale precision second).1 := by
  have total : Std.Total fun first second : LevelText =>
      textValue first.price ≤ textValue second.price := ⟨fun _ _ => le_total _ _⟩
  have transitive : IsTrans LevelText fun first second =>
      textValue first.price ≤ textValue second.price := ⟨fun _ _ _ => le_trans⟩
  refine (pairwise_insertionSort_distinct _ legal).imp_of_mem ?_
  intro first second one two ⟨least, apart⟩
  rw [List.mem_insertionSort] at one two
  exact (legal.price first one).scale_lt (legal.price second two) scales precise
    (lt_of_le_of_ne least apart)

theorem highestFirst_ordered (legal : LegalSide precision levels) (scales : Scales scale)
    (precise : precision.priceDecimals.toNat ≤ 18) :
    (highestFirst levels).Pairwise fun first second =>
      (entry scale precision first).1 > (entry scale precision second).1 := by
  have total : Std.Total fun first second : LevelText =>
      textValue second.price ≤ textValue first.price := ⟨fun _ _ => le_total _ _⟩
  have transitive : IsTrans LevelText fun first second =>
      textValue second.price ≤ textValue first.price := ⟨fun _ _ _ above below => below.trans above⟩
  refine (pairwise_insertionSort_distinct _ legal).imp_of_mem ?_
  intro first second one two ⟨greatest, apart⟩
  rw [List.mem_insertionSort] at one two
  exact (legal.price second two).scale_lt (legal.price first one) scales precise
    (lt_of_le_of_ne greatest apart.symm)

end Ranking

/-- **The checksum is Kraken's.** Whatever the order in which a snapshot lists its
levels, and at whatever depth the checksum fits in, the checksum of the book is the CRC-32
of the digits of the ten lowest asks, lowest first, and of the ten highest bids, highest
first. -/
theorem bookChecksum_of_texts {scale : String → UInt32 → Int64} (scales : Scales scale)
    {precision : PairPrecision} (price_precise : precision.priceDecimals.toNat ≤ 18)
    (qty_precise : precision.qtyDecimals.toNat ≤ 18) {bids asks : List LevelText}
    (legal_bids : LegalSide precision bids) (legal_asks : LegalSide precision asks) (book : Book)
    (deep : book.depth = fullDepth ∨ 10 ≤ book.depth.toNat) {message : Message}
    (snapshot : message.type = .snapshot)
    (buys : message.buys = bids.map (LevelText.scaled scale precision))
    (sells : message.sells = asks.map (LevelText.scaled scale precision)) :
    (bookChecksum (book.apply message)).toBitVec =
      Crc.checkSum 0xEDB88320#32
        ((topDigits precision (lowestFirst asks) ++
          topDigits precision (highestFirst bids)).map UInt8.toBitVec) := by
  have bid_side := appendSide_snapshot scales ⟨price_precise, qty_precise⟩ deep legal_bids
    (List.perm_insertionSort _ _) (highestFirst_ordered legal_bids scales price_precise)
  have ask_side := appendSide_snapshot scales ⟨price_precise, qty_precise⟩ deep legal_asks
    (List.perm_insertionSort _ _) (lowestFirst_ordered legal_asks scales price_precise)
  unfold bookChecksum
  rw [toBitVec_crc32, book.bids_apply_snapshot snapshot, book.asks_apply_snapshot snapshot, buys,
    sells, ask_side, bid_side, List.nil_append]
  rfl

/-- Two sides of different spellings, listed out of order. -/
theorem bookChecksum_of_texts_two :
    ∃ (book : Book) (message : Message), book.depth = 10 ∧
      message.buys = [⟨2000, 150⟩, ⟨2010, 7⟩] ∧ message.sells = [⟨2030, 100⟩, ⟨2020, 25⟩] ∧
      (bookChecksum (book.apply message)).toBitVec =
        Crc.checkSum 0xEDB88320#32
          ((bytes "202025" ++ bytes "2030100" ++ (bytes "20107" ++ bytes "2000150")).map
            UInt8.toBitVec) := by
  refine ⟨.ofDepth 10, ⟨.snapshot, 0, 0, 0, "BTC/USD", [⟨2000, 150⟩, ⟨2010, 7⟩],
    [⟨2030, 100⟩, ⟨2020, 25⟩]⟩, rfl, rfl, rfl, ?_⟩
  have scales : Scales fun text decimals => (scaleDecimalStringToI64 text decimals).getD 0 :=
    fun _ _ _ scaled => congrArg (Option.getD · 0) scaled
  have digits : topDigits ⟨2, 2⟩ (lowestFirst [⟨"020.3", "1"⟩, ⟨"20.20", ".25"⟩]) ++
      topDigits ⟨2, 2⟩ (highestFirst [⟨"20.00", "1.5"⟩, ⟨"20.1", "0.07"⟩]) =
        bytes "202025" ++ bytes "2030100" ++ (bytes "20107" ++ bytes "2000150") := by
    decide +kernel
  rw [← digits]
  apply bookChecksum_of_texts scales
  · decide
  · decide
  · decide +kernel
  · decide +kernel
  · exact Or.inr (by decide)
  · rfl
  · decide +kernel
  · decide +kernel

end DataFeed.Kraken
