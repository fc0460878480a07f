import MarketFeed.Market.BalanceDetail

/-!
# Account balances

What an account holds in all, with the balance of each currency.
-/

namespace MarketFeed

/-- The balance of an account. -/
structure AccountBalance where
  totalEq : Decimal
  adjEq : Decimal
  isoEq : Decimal
  imr : Decimal
  mmr : Decimal
  mgnRatio : Decimal
  notionalUsd : Decimal
  ordFroz : Decimal
  uTime : Int
  details : List BalanceDetail

namespace AccountBalance

def schema : Schema where
  name := "AccountBalance"
  fields := [
    .decimal "totalEq", .decimal "adjEq", .decimal "isoEq", .decimal "imr", .decimal "mmr",
    .decimal "mgnRatio", .decimal "notionalUsd", .decimal "ordFroz", .millis "uTime",
    .withDefault "details" (.list BalanceDetail.codec) []]

def ofValues : Values schema.fields → AccountBalance
  | (totalEq, adjEq, isoEq, imr, mmr, mgnRatio, notionalUsd, ordFroz, uTime, details, ()) =>
    { totalEq, adjEq, isoEq, imr, mmr, mgnRatio, notionalUsd, ordFroz, uTime, details }

def values (r : AccountBalance) : Values schema.fields :=
  (r.totalEq, r.adjEq, r.isoEq, r.imr, r.mmr, r.mgnRatio, r.notionalUsd, r.ordFroz, r.uTime,
    r.details, ())

def codec : Codec AccountBalance := schema.codec.convert ofValues values

theorem values_ofValues (v : Values schema.fields) : (ofValues v).values = v := rfl

theorem ofValues_values (r : AccountBalance) : ofValues r.values = r := rfl

end AccountBalance

end MarketFeed
