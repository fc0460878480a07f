import MarketFeed.Record.Basic

/-!
# Tickers

The latest prices and the day's figures of one instrument.
-/

namespace MarketFeed

/-- A ticker. Every field has to be present; numbers may be empty. -/
structure Ticker where
  instType : String
  instId : String
  last : Decimal
  lastSz : Decimal
  askPx : Decimal
  askSz : Decimal
  bidPx : Decimal
  bidSz : Decimal
  open24h : Decimal
  high24h : Decimal
  low24h : Decimal
  volCcy24h : Decimal
  vol24h : Decimal
  sodUtc0 : Decimal
  sodUtc8 : Decimal
  ts : Int

namespace Ticker

def schema : Schema where
  name := "Ticker"
  fields := [
    .required "instType" .text, .required "instId" .text, .required "last" .decimal,
    .required "lastSz" .decimal, .required "askPx" .decimal, .required "askSz" .decimal,
    .required "bidPx" .decimal, .required "bidSz" .decimal, .required "open24h" .decimal,
    .required "high24h" .decimal, .required "low24h" .decimal, .required "volCcy24h" .decimal,
    .required "vol24h" .decimal, .required "sodUtc0" .decimal, .required "sodUtc8" .decimal,
    .required "ts" .millis]

def ofValues : Values schema.fields → Ticker
  | (instType, instId, last, lastSz, askPx, askSz, bidPx, bidSz, open24h, high24h, low24h,
      volCcy24h, vol24h, sodUtc0, sodUtc8, ts, ()) =>
    { instType, instId, last, lastSz, askPx, askSz, bidPx, bidSz, open24h, high24h, low24h,
      volCcy24h, vol24h, sodUtc0, sodUtc8, ts }

def values (t : Ticker) : Values schema.fields :=
  (t.instType, t.instId, t.last, t.lastSz, t.askPx, t.askSz, t.bidPx, t.bidSz, t.open24h,
    t.high24h, t.low24h, t.volCcy24h, t.vol24h, t.sodUtc0, t.sodUtc8, t.ts, ())

def codec : Codec Ticker := schema.codec.convert ofValues values

theorem values_ofValues (v : Values schema.fields) : (ofValues v).values = v := rfl

theorem ofValues_values (t : Ticker) : ofValues t.values = t := rfl

end Ticker

end MarketFeed
