import DataFeed.Core.Decimal
import DataFeed.Venue.Manager

/-! # Symbols that clients may name

A client's symbol goes into requests and into file names as it is, so a venue only takes
letters, digits and some punctuation.
-/

namespace DataFeed.Venue

open DataFeed.Core

/-- A letter or a digit of the "C" locale. -/
def isAlnum (byte : UInt8) : Bool :=
  48 ≤ byte && byte ≤ 57 || 65 ≤ byte && byte ≤ 90 || 97 ≤ byte && byte ≤ 122

/-- A small letter of the "C" locale. -/
def isLower (byte : UInt8) : Bool := 97 ≤ byte && byte ≤ 122

/-- The longest symbol that is well formed. -/
def maxSymbolLength : Nat := 32

/-- A symbol of letters, digits and some punctuation, neither empty nor too long. -/
def isWellFormedSymbol (symbol punctuation : String) : Bool :=
  !(bytes symbol).isEmpty && (bytes symbol).length ≤ maxSymbolLength &&
    (bytes symbol).all fun byte => isAlnum byte || (bytes punctuation).contains byte

end DataFeed.Venue

namespace DataFeed.Kraken

open Venue

/-- Fails unless the symbol can name a pair of Kraken. -/
def checkSymbol (symbol : String) : Except Error Unit :=
  if isWellFormedSymbol symbol "/.-_" then .ok ()
  else
    .error
      { code := .unknownSymbol
        detail := "A Kraken pair is up to " ++ toString maxSymbolLength ++
          " letters, digits and '/', '.', '-' or '_', e.g. BTC/USD" }

end DataFeed.Kraken

namespace DataFeed.Coinbase

open DataFeed.Core Venue

/-- Fails unless the symbol can name a product of Coinbase. -/
def checkSymbol (symbol : String) : Except Error Unit :=
  if isWellFormedSymbol symbol "-" && (bytes symbol).all fun byte => !isLower byte then .ok ()
  else
    .error
      { code := .unknownSymbol
        detail := "A Coinbase product is up to " ++ toString maxSymbolLength ++
          " capital letters, digits and '-', e.g. BTC-USD" }

end DataFeed.Coinbase
