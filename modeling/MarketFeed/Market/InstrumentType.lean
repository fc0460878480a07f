import MarketFeed.Record.Codec

/-!
# Kinds of instruments

The markets that an instrument can belong to.
-/

namespace MarketFeed

/-- A kind of instrument. -/
inductive InstrumentType
  | spot
  | margin
  | swap
  | futures
  | option
  deriving DecidableEq, Repr

namespace InstrumentType

def name : InstrumentType → String
  | .spot => "SPOT"
  | .margin => "MARGIN"
  | .swap => "SWAP"
  | .futures => "FUTURES"
  | .option => "OPTION"

def all : List InstrumentType := [.spot, .margin, .swap, .futures, .option]

def codec : Codec InstrumentType := .names (all.map fun t => (t.name, t)) name

end InstrumentType

end MarketFeed
