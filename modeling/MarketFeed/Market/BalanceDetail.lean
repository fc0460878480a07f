import MarketFeed.Record.Basic

/-!
# Balances of one currency

What an account holds of one currency.
-/

namespace MarketFeed

/-- The balance of one currency. -/
structure BalanceDetail where
  ccy : String
  eq : Decimal
  cashBal : Decimal
  availBal : Decimal
  availEq : Decimal
  frozenBal : Decimal
  eqUsd : Decimal
  upl : Decimal
  liab : Decimal
  uTime : Int

namespace BalanceDetail

def schema : Schema where
  name := "BalanceDetail"
  fields := [
    .required "ccy" .text, .decimal "eq", .decimal "cashBal", .decimal "availBal",
    .decimal "availEq", .decimal "frozenBal", .decimal "eqUsd", .decimal "upl", .decimal "liab",
    .millis "uTime"]

def ofValues : Values schema.fields → BalanceDetail
  | (ccy, eq, cashBal, availBal, availEq, frozenBal, eqUsd, upl, liab, uTime, ()) =>
    { ccy, eq, cashBal, availBal, availEq, frozenBal, eqUsd, upl, liab, uTime }

def values (r : BalanceDetail) : Values schema.fields :=
  (r.ccy, r.eq, r.cashBal, r.availBal, r.availEq, r.frozenBal, r.eqUsd, r.upl, r.liab, r.uTime, ())

/-- Reading and writing balances of one currency. -/
def codec : Codec BalanceDetail := schema.codec.convert ofValues values

theorem values_ofValues (v : Values schema.fields) : (ofValues v).values = v := rfl

theorem ofValues_values (r : BalanceDetail) : ofValues r.values = r := rfl

end BalanceDetail

end MarketFeed
