import MarketFeed.Market.Bar
import MarketFeed.Record.Basic

/-!
# Subscriptions

A stream of market data is named by a channel and an instrument. `canonical` is its text: equal
streams have equal texts.
-/

namespace MarketFeed

/-- A channel on an instrument. -/
structure Subscription where
  channel : String
  instId : String
  deriving DecidableEq, Repr

namespace Subscription

def tickersChannel : String := "tickers"

def tickers (instId : String) : Subscription := ⟨tickersChannel, instId⟩

def candles (instId : String) (bar : Bar) : Subscription := ⟨bar.channel, instId⟩

def schema : Schema where
  name := "Subscription"
  fields := [.required "channel" .text, .required "instId" .text]

def codec : Codec Subscription :=
  schema.codec.convert (fun (channel, instId, ()) => ⟨channel, instId⟩)
    fun s => (s.channel, s.instId, ())

def toJson (s : Subscription) : Json :=
  .obj [("channel", .str s.channel), ("instId", .str s.instId)]

def canonical (s : Subscription) : String := s.toJson.text

instance : ToString Subscription := ⟨canonical⟩

theorem tickersChannel_ne_channel (b : Bar) : tickersChannel ≠ b.channel := by cases b <;> decide

end Subscription

end MarketFeed
