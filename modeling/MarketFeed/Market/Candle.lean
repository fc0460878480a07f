import MarketFeed.Record.Codec

/-!
# Candlesticks

Prices and volumes of one period. A candlestick comes as a row of strings: time, open, high, low,
close, volume, two volumes in currency, and a mark that is `0` while the period lasts. Rows may end
after the first six.
-/

namespace MarketFeed

/-- A candlestick. -/
structure Candle where
  ts : Int
  opening : Decimal
  high : Decimal
  low : Decimal
  close : Decimal
  /-- Volume in contracts, or in the base currency on the spot market. -/
  vol : Decimal
  volCcy : Decimal
  volCcyQuote : Decimal
  /-- False while the period lasts. -/
  confirmed : Bool

namespace Candle

def minFields : Nat := 6

def field (row : List String) (i : Nat) : String := row.getD i ""

def ofRow (row : List String) : Except Mismatch Candle :=
  if row.length < minFields then .error (.shortRow row.length)
  else do
    let ts ← Codec.parseMillis (field row 0)
    let opening ← Codec.parseDecimal (field row 1)
    let high ← Codec.parseDecimal (field row 2)
    let low ← Codec.parseDecimal (field row 3)
    let close ← Codec.parseDecimal (field row 4)
    let vol ← Codec.parseDecimal (field row 5)
    let volCcy ← Codec.parseDecimal (field row 6)
    let volCcyQuote ← Codec.parseDecimal (field row 7)
    let confirmed := field row 8 != "0"
    .ok { ts, opening, high, low, close, vol, volCcy, volCcyQuote, confirmed }

def toJson (c : Candle) : Json :=
  let number := fun d => Codec.decimal.write d
  Json.object [
    ("ts", .int c.ts), ("open", number c.opening), ("high", number c.high), ("low", number c.low),
    ("close", number c.close), ("vol", number c.vol), ("vol_ccy", number c.volCcy),
    ("vol_ccy_quote", number c.volCcyQuote), ("confirm", .bool c.confirmed)]

/-- Reading candlesticks from rows and writing them as objects. -/
def codec : Codec Candle where
  read v := do ofRow (← (Codec.list Codec.text).read v)
  write := toJson

end Candle

end MarketFeed
