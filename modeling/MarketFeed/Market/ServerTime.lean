import MarketFeed.Record.Basic

/-!
# Server time

The clock of the exchange.
-/

namespace MarketFeed

/-- The time of the exchange in milliseconds since 1970. -/
structure ServerTime where
  ts : Int

namespace ServerTime

def schema : Schema where
  name := "ServerTime"
  fields := [
    .required "ts" .millis]

def ofValues : Values schema.fields → ServerTime
  | (ts, ()) =>
    { ts }

def values (r : ServerTime) : Values schema.fields :=
  (r.ts, ())

def codec : Codec ServerTime := schema.codec.convert ofValues values

theorem values_ofValues (v : Values schema.fields) : (ofValues v).values = v := rfl

theorem ofValues_values (r : ServerTime) : ofValues r.values = r := rfl

end ServerTime

end MarketFeed
