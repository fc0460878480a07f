import MarketFeed.Record.Basic
import MarketFeed.Market.InstrumentType

/-!
# Instruments

What can be traded, and in which steps.
-/

namespace MarketFeed

/-- An instrument. What only derivatives have is empty or zero on the spot market, and the other
way round. -/
structure Instrument where
  instType : InstrumentType
  instId : String
  instFamily : String
  uly : String
  baseCcy : String
  quoteCcy : String
  settleCcy : String
  ctVal : Decimal
  ctMult : Decimal
  ctValCcy : String
  /-- `C` or `P`, of options. -/
  optType : String
  stk : Decimal
  listTime : Int
  expTime : Int
  lever : Decimal
  tickSz : Decimal
  lotSz : Decimal
  minSz : Decimal
  /-- `linear` or `inverse`. -/
  ctType : String
  /-- The name of a delivery such as `this_week`. -/
  aliasName : String
  state : String
  maxLmtSz : Decimal
  maxMktSz : Decimal
  maxTwapSz : Decimal
  maxIcebergSz : Decimal
  maxTriggerSz : Decimal
  maxStopSz : Decimal

namespace Instrument

def schema : Schema where
  name := "Instrument"
  fields := [
    .required "instType" InstrumentType.codec, .required "instId" .text, .text "instFamily",
    .text "uly", .text "baseCcy", .text "quoteCcy", .text "settleCcy", .decimal "ctVal",
    .decimal "ctMult", .text "ctValCcy", .text "optType", .decimal "stk", .millis "listTime",
    .millis "expTime", .decimal "lever", .decimal "tickSz", .decimal "lotSz", .decimal "minSz",
    .text "ctType", .text "alias", .text "state", .decimal "maxLmtSz", .decimal "maxMktSz",
    .decimal "maxTwapSz", .decimal "maxIcebergSz", .decimal "maxTriggerSz", .decimal "maxStopSz"]

def ofValues : Values schema.fields → Instrument
  | (instType, instId, instFamily, uly, baseCcy, quoteCcy, settleCcy, ctVal, ctMult, ctValCcy,
      optType, stk, listTime, expTime, lever, tickSz, lotSz, minSz, ctType, aliasName, state,
      maxLmtSz, maxMktSz, maxTwapSz, maxIcebergSz, maxTriggerSz, maxStopSz, ()) =>
    { instType, instId, instFamily, uly, baseCcy, quoteCcy, settleCcy, ctVal, ctMult, ctValCcy,
      optType, stk, listTime, expTime, lever, tickSz, lotSz, minSz, ctType, aliasName, state,
      maxLmtSz, maxMktSz, maxTwapSz, maxIcebergSz, maxTriggerSz, maxStopSz }

def values (r : Instrument) : Values schema.fields :=
  (r.instType, r.instId, r.instFamily, r.uly, r.baseCcy, r.quoteCcy, r.settleCcy, r.ctVal,
    r.ctMult, r.ctValCcy, r.optType, r.stk, r.listTime, r.expTime, r.lever, r.tickSz, r.lotSz,
    r.minSz, r.ctType, r.aliasName, r.state, r.maxLmtSz, r.maxMktSz, r.maxTwapSz, r.maxIcebergSz,
    r.maxTriggerSz, r.maxStopSz, ())

def codec : Codec Instrument := schema.codec.convert ofValues values

theorem values_ofValues (v : Values schema.fields) : (ofValues v).values = v := rfl

theorem ofValues_values (r : Instrument) : ofValues r.values = r := rfl

end Instrument

end MarketFeed
