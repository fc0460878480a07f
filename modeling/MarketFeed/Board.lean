import MarketFeed.Log
import MarketFeed.Market.Candle
import MarketFeed.Market.Ticker
import MarketFeed.Message

/-!
# The board

The latest tickers of each instrument and the latest candlesticks of each instrument and period. An
event replaces one entry as a whole, or none: a list with one item that cannot be read is dropped.
-/

namespace MarketFeed

abbrev Latest (κ ν : Type) := List (κ × ν)

namespace Latest

variable {κ ν : Type} [BEq κ]

def get? (l : Latest κ ν) (key : κ) : Option ν := l.lookup key

def store (l : Latest κ ν) (key : κ) (value : ν) : Latest κ ν :=
  (key, value) :: l.filter fun entry => !(entry.1 == key)

end Latest

/-- Tickers by instrument, candlesticks by instrument and period. -/
structure Board where
  tickers : Latest String (List Ticker)
  candles : Latest (String × Bar) (List Candle)

namespace Board

def empty : Board := ⟨[], []⟩

def tickersOf? (b : Board) (instId : String) : Option (List Ticker) := b.tickers.get? instId

/-- The latest candlesticks of an instrument and a period. -/
def candlesOf? (b : Board) (instId : String) (bar : Bar) : Option (List Candle) :=
  b.candles.get? (instId, bar)

def heed (b : Board) (e : DataEvent) : Board × List LogLine :=
  if e.channel = Subscription.tickersChannel then
    match (Codec.list Ticker.codec).read e.data with
    | .ok tickers => ({ b with tickers := b.tickers.store e.instId tickers }, [])
    | .error mismatch =>
      (b, [.warning s!"Dropping ticker event for {e.instId}: {mismatch.message}"])
  else
    match Bar.ofChannel? e.channel with
    | none => (b, [.warning s!"Ignoring event on channel {e.channel}"])
    | some bar =>
      match (Codec.list Candle.codec).read e.data with
      | .ok candles => ({ b with candles := b.candles.store (e.instId, bar) candles }, [])
      | .error mismatch =>
        (b, [.warning s!"Dropping {e.channel} event for {e.instId}: {mismatch.message}"])

end Board

end MarketFeed
