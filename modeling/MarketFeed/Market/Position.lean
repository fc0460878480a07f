import MarketFeed.Record.Basic
import MarketFeed.Market.InstrumentType

/-!
# Positions

What an account holds.
-/

namespace MarketFeed

/-- An open position. -/
structure Position where
  /-- Place in the queue of forced closing. -/
  adl : Int
  availPos : Decimal
  avgPx : Decimal
  cTime : Int
  ccy : String
  imr : Decimal
  instId : String
  instType : InstrumentType
  interest : Decimal
  last : Decimal
  lever : Decimal
  liab : Decimal
  liabCcy : String
  liqPx : Decimal
  margin : Decimal
  markPx : Decimal
  /-- `cross` or `isolated`. -/
  mgnMode : String
  mgnRatio : Decimal
  mmr : Decimal
  notionalUsd : Decimal
  pos : Decimal
  posCcy : String
  posId : String
  /-- `long`, `short` or `net`. -/
  posSide : String
  tradeId : String
  uTime : Int
  upl : Decimal
  uplRatio : Decimal

namespace Position

def schema : Schema where
  name := "Position"
  fields := [
    .count "adl", .decimal "availPos", .decimal "avgPx", .millis "cTime", .text "ccy",
    .decimal "imr", .required "instId" .text, .required "instType" InstrumentType.codec,
    .decimal "interest", .decimal "last", .decimal "lever", .decimal "liab", .text "liabCcy",
    .decimal "liqPx", .decimal "margin", .decimal "markPx", .text "mgnMode", .decimal "mgnRatio",
    .decimal "mmr", .decimal "notionalUsd", .decimal "pos", .text "posCcy", .text "posId",
    .text "posSide", .text "tradeId", .millis "uTime", .decimal "upl", .decimal "uplRatio"]

def ofValues : Values schema.fields → Position
  | (adl, availPos, avgPx, cTime, ccy, imr, instId, instType, interest, last, lever, liab, liabCcy,
      liqPx, margin, markPx, mgnMode, mgnRatio, mmr, notionalUsd, pos, posCcy, posId, posSide,
      tradeId, uTime, upl, uplRatio, ()) =>
    { adl, availPos, avgPx, cTime, ccy, imr, instId, instType, interest, last, lever, liab,
      liabCcy, liqPx, margin, markPx, mgnMode, mgnRatio, mmr, notionalUsd, pos, posCcy, posId,
      posSide, tradeId, uTime, upl, uplRatio }

def values (r : Position) : Values schema.fields :=
  (r.adl, r.availPos, r.avgPx, r.cTime, r.ccy, r.imr, r.instId, r.instType, r.interest, r.last,
    r.lever, r.liab, r.liabCcy, r.liqPx, r.margin, r.markPx, r.mgnMode, r.mgnRatio, r.mmr,
    r.notionalUsd, r.pos, r.posCcy, r.posId, r.posSide, r.tradeId, r.uTime, r.upl, r.uplRatio, ())

def codec : Codec Position := schema.codec.convert ofValues values

theorem values_ofValues (v : Values schema.fields) : (ofValues v).values = v := rfl

theorem ofValues_values (r : Position) : ofValues r.values = r := rfl

end Position

end MarketFeed
