import DataFeed.Core.Scaling
import DataFeed.L2.Message

/-! # Levels as a venue spells them

A level is sent as two decimal texts, which a decoder scales to the fixed point of the
pair's precision.
-/

namespace DataFeed.L2

open DataFeed.Core

/-- A level as a venue spells it. -/
structure LevelText where
  price : String
  quantity : String
  deriving DecidableEq, Repr

namespace LevelText

/-- The level that a decoder makes of the texts. -/
def scaled (scale : String → UInt32 → Int64) (precision : PairPrecision) (text : LevelText) :
    Level :=
  ⟨scale text.price precision.priceDecimals, scale text.quantity precision.qtyDecimals⟩

/-- A level is what the texts say, in units of the last decimal, toward zero. -/
def Exact (precision : PairPrecision) (text : LevelText) (level : Level) : Prop :=
  exactValue text.price precision.priceDecimals = some level.price.toInt ∧
    exactValue text.quantity precision.qtyDecimals = some level.quantity.toInt

instance instDecidableExact (precision : PairPrecision) (text : LevelText) (level : Level) :
    Decidable (text.Exact precision level) :=
  inferInstanceAs (Decidable (_ ∧ _))

/-- Both numbers are written as scaling expects them. -/
def WellSpelled (precision : PairPrecision) (text : LevelText) : Prop :=
  Core.WellSpelled text.price precision.priceDecimals ∧
    Core.WellSpelled text.quantity precision.qtyDecimals

/-- One of the numbers is written with an exponent. -/
def HasExponent (text : LevelText) : Prop :=
  Core.HasExponent text.price ∨ Core.HasExponent text.quantity

/-- Every build makes of the texts the level that they say. -/
def ExactlyScaled (precision : PairPrecision) (text : LevelText) : Prop :=
  ∀ scale, Scales scale → text.Exact precision (text.scaled scale precision)

variable {precision : PairPrecision} {text : LevelText}

theorem exactlyScaled_of_wellSpelled (spelled : text.WellSpelled precision) :
    text.ExactlyScaled precision := fun _ scales =>
  ⟨exact_of_wellSpelled scales spelled.1, exact_of_wellSpelled scales spelled.2⟩

/-- Without an exponent, a level is scaled exactly just if it is well spelled. -/
theorem exactlyScaled_iff (plain : ¬ text.HasExponent) :
    text.ExactlyScaled precision ↔ text.WellSpelled precision := by
  refine ⟨fun exact => ?_, exactlyScaled_of_wellSpelled⟩
  obtain ⟨price, quantity⟩ := not_or.mp plain
  exact ⟨wellSpelled_of_exact (fun scale scales => (exact scale scales).1) price,
    wellSpelled_of_exact (fun scale scales => (exact scale scales).2) quantity⟩

end LevelText

/-- The levels that a book change was made from. -/
structure Source where
  bids : List LevelText
  asks : List LevelText
  deriving DecidableEq, Repr

/-- A book change has the levels of its source, scaled, in their order. -/
def Source.Drawn (scale : String → UInt32 → Int64) (precision : PairPrecision) (source : Source)
    (message : Message) : Prop :=
  message.buys = source.bids.map (LevelText.scaled scale precision) ∧
    message.sells = source.asks.map (LevelText.scaled scale precision)

end DataFeed.L2
