import MarketFeed.Record.Basic
import MarketFeed.Market.InstrumentType

/-!
# Funding rates

What the holders of a perpetual contract pay each other, now or in the past.
-/

namespace MarketFeed

/-- A funding rate, current or settled. -/
structure FundingRate where
  instType : InstrumentType
  instId : String
  fundingRate : Decimal
  fundingTime : Int
  nextFundingTime : Int
  nextFundingRate : Decimal
  interestRate : Decimal
  premium : Decimal
  maxFundingRate : Decimal
  minFundingRate : Decimal
  ts : Int
  /-- `processing` or `settled`. -/
  settState : String
  settFundingRate : Decimal
  /-- The settled rate of a past period. -/
  realizedRate : Decimal

namespace FundingRate

def schema : Schema where
  name := "FundingRate"
  fields := [
    .required "instType" InstrumentType.codec, .required "instId" .text, .decimal "fundingRate",
    .required "fundingTime" .millis, .millis "nextFundingTime", .decimal "nextFundingRate",
    .decimal "interestRate", .decimal "premium", .decimal "maxFundingRate",
    .decimal "minFundingRate", .millis "ts", .text "settState", .decimal "settFundingRate",
    .decimal "realizedRate"]

def ofValues : Values schema.fields → FundingRate
  | (instType, instId, fundingRate, fundingTime, nextFundingTime, nextFundingRate, interestRate,
      premium, maxFundingRate, minFundingRate, ts, settState, settFundingRate, realizedRate, ()) =>
    { instType, instId, fundingRate, fundingTime, nextFundingTime, nextFundingRate, interestRate,
      premium, maxFundingRate, minFundingRate, ts, settState, settFundingRate, realizedRate }

def values (r : FundingRate) : Values schema.fields :=
  (r.instType, r.instId, r.fundingRate, r.fundingTime, r.nextFundingTime, r.nextFundingRate,
    r.interestRate, r.premium, r.maxFundingRate, r.minFundingRate, r.ts, r.settState,
    r.settFundingRate, r.realizedRate, ())

def codec : Codec FundingRate := schema.codec.convert ofValues values

theorem values_ofValues (v : Values schema.fields) : (ofValues v).values = v := rfl

theorem ofValues_values (r : FundingRate) : ofValues r.values = r := rfl

end FundingRate

end MarketFeed
