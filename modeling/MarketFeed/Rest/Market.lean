import MarketFeed.Market.AccountBalance
import MarketFeed.Market.Bar
import MarketFeed.Market.Candle
import MarketFeed.Market.FundingRate
import MarketFeed.Market.Instrument
import MarketFeed.Market.Position
import MarketFeed.Market.ServerTime
import MarketFeed.Market.Ticker
import MarketFeed.Rest.History

/-!
# Calls to the exchange

Each question that the exchange answers, as a dialogue. Instruments are kept per kind, and asked for
again only on demand; only the calls on an account are signed.
-/

namespace MarketFeed.Rest

open History

def systemTime : Calling Int := do
  let items ← Calling.fetch (.list ServerTime.codec) "/api/v5/public/time" [] false
  return (← Calling.first "system time" items).ts

def tickers (type : InstrumentType) : Calling (List Ticker) :=
  Calling.fetch (.list Ticker.codec) "/api/v5/market/tickers" [("instType", type.name)] false

def ticker (instId : String) : Calling Ticker := do
  let items ← Calling.fetch (.list Ticker.codec) "/api/v5/market/ticker" [("instId", instId)] false
  Calling.first "ticker" items

def candles (instId : String) (bar : Bar) (limit? : Option Nat) : Calling (List Candle) := do
  let items ← Calling.fetch (.list Candle.codec) "/api/v5/market/candles"
    [("instId", instId), ("bar", bar.name), ("limit", toString (pageSize limit?))] false
  return items.mergeSort fun a b => a.ts ≤ b.ts

def candleSource (instId : String) (bar : Bar) : Source Candle where
  endpoint := "/api/v5/market/history-candles"
  params := [("instId", instId), ("bar", bar.name)]
  codec := Candle.codec
  ts := Candle.ts

/-- The confirmed candlesticks of a window, oldest first. -/
def historyCandles (instId : String) (bar : Bar) (w : Window) (limit? : Option Nat) :
    Calling (List Candle) := do
  let items ← (candleSource instId bar).collect w (pageSize limit?)
  return items.filter Candle.confirmed

/-- The current funding rate of an instrument. -/
def lastFundingRate (instId : String) : Calling FundingRate := do
  let items ← Calling.fetch (.list FundingRate.codec) "/api/v5/public/funding-rate"
    [("instId", instId)] false
  Calling.first "funding rate" items

def fundingSource (instId : String) : Source FundingRate where
  endpoint := "/api/v5/public/funding-rate-history"
  params := [("instId", instId)]
  codec := FundingRate.codec
  ts := FundingRate.fundingTime

/-- The funding rates of a window, oldest first. -/
def fundingRates (instId : String) (w : Window) (limit? : Option Nat) :
    Calling (List FundingRate) :=
  (fundingSource instId).collect w (pageSize limit?)

/-- The open positions in a kind of instruments, or in one instrument. -/
def positions (type : InstrumentType) (instId? : Option String) : Calling (List Position) :=
  let params := match instId? with
    | none => []
    | some instId => [("instId", instId)]
  Calling.fetch (.list Position.codec) "/api/v5/account/positions"
    (("instType", type.name) :: params) true

/-- The balance of the account, or of one currency in it. -/
def balance (ccy? : Option String) : Calling AccountBalance := do
  let params := match ccy? with
    | none => []
    | some ccy => [("ccy", ccy)]
  let items ← Calling.fetch (.list AccountBalance.codec) "/api/v5/account/balance" params true
  Calling.first "balance" items

/-! ## Kept instruments -/

/-- The instruments of each kind that were fetched or set last. -/
abbrev InstrumentCache := List (InstrumentType × List Instrument)

namespace InstrumentCache

def get? (cache : InstrumentCache) (type : InstrumentType) : Option (List Instrument) :=
  (cache.find? (·.1 == type)).map (·.2)

def put (cache : InstrumentCache) (type : InstrumentType) (items : List Instrument) :
    InstrumentCache :=
  (type, items) :: cache.filter (·.1 != type)

/-- Keep instruments, for each kind that occurs among them. -/
def putAll (cache : InstrumentCache) (items : List Instrument) : InstrumentCache :=
  InstrumentType.all.foldl (fun cache type =>
    match items.filter fun i => i.instType == type with
    | [] => cache
    | group => cache.put type group) cache

end InstrumentCache

/-- The instruments of a kind, from the cache unless `force` is set or nothing is kept; and the
cache after that. -/
def instruments (cache : InstrumentCache) (type : InstrumentType) (force : Bool) :
    Dialogue (Except FeedError (List Instrument) × InstrumentCache) :=
  match if force then none else cache.get? type with
  | some items => .done (.ok items, cache)
  | none => do
    let r ← (Calling.fetch (.list Instrument.codec) "/api/v5/public/instruments"
      [("instType", type.name)] false).run
    match r with
    | .ok items => return (.ok items, cache.put type items)
    | .error e => return (.error e, cache)

end MarketFeed.Rest
