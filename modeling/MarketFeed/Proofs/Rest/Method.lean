import MarketFeed.Proofs.Rest.Dialogue
import MarketFeed.Rest.Market

/-!
# All calls

The calls that the exchange answers, as one type. Each call asks signed queries only or none that is
signed, and ends with the first refusal, which leaves the kept instruments as they are
(`Method.proceeds`).
-/

namespace MarketFeed

open History

namespace Calling

variable {α : Type} {asked : Query → Prop}

theorem proceeds_pages (src : Source α) (hasked : ∀ params, asked ⟨src.endpoint, params, false⟩)
    (w : Window) (limit : Nat) (cursor : Int) : Proceeds asked (src.pages w limit cursor) := by
  induction cursor using Source.pages.induct w with
  | _ cursor ih =>
    rw [Source.pages]
    refine Proceeds.bind (proceeds_fetch (.list src.codec) (hasked _)) fun page => ?_
    cases holdest : oldest? src.ts page with
    | none => exact proceeds_pure []
    | some oldest =>
      dsimp only
      split_ifs with h
      · exact Proceeds.bind (ih oldest h) fun rest => proceeds_pure _
      · exact proceeds_pure _

theorem proceeds_collect (src : Source α) (hasked : ∀ params, asked ⟨src.endpoint, params, false⟩)
    (w : Window) (limit : Nat) : Proceeds asked (src.collect w limit) := by
  unfold Source.collect
  split_ifs
  · exact proceeds_pure []
  · exact Proceeds.bind (proceeds_pages src hasked w limit w.stop) fun records => proceeds_pure _

end Calling

namespace Rest

/-- The calls that the exchange answers, by what they return. -/
inductive Method : Type → Type
  | systemTime : Method Int
  | tickers (type : InstrumentType) : Method (List Ticker)
  | ticker (instId : String) : Method Ticker
  | candles (instId : String) (bar : Bar) (limit? : Option Nat) : Method (List Candle)
  | historyCandles (instId : String) (bar : Bar) (w : Window) (limit? : Option Nat) :
    Method (List Candle)
  | instruments (type : InstrumentType) (force : Bool) : Method (List Instrument)
  | lastFundingRate (instId : String) : Method FundingRate
  | fundingRates (instId : String) (w : Window) (limit? : Option Nat) : Method (List FundingRate)
  | positions (type : InstrumentType) (instId? : Option String) : Method (List Position)
  | balance (ccy? : Option String) : Method AccountBalance

namespace Method

/-- Whether a call is about the account. -/
def isPrivate {α : Type} : Method α → Bool
  | positions .. | balance .. => true
  | _ => false

/-- A call that has nothing to do with the kept instruments. -/
def beside {α : Type} (cache : InstrumentCache) (x : Calling α) :
    Dialogue (Except FeedError α × InstrumentCache) := do
  return (← x.run, cache)

/-- A call as a dialogue, to which the kept instruments are given and which gives them back. -/
def dialogue {α : Type} (cache : InstrumentCache) :
    Method α → Dialogue (Except FeedError α × InstrumentCache)
  | systemTime => beside cache Rest.systemTime
  | tickers type => beside cache (Rest.tickers type)
  | ticker instId => beside cache (Rest.ticker instId)
  | candles instId bar limit? => beside cache (Rest.candles instId bar limit?)
  | historyCandles instId bar w limit? => beside cache (Rest.historyCandles instId bar w limit?)
  | instruments type force => Rest.instruments cache type force
  | lastFundingRate instId => beside cache (Rest.lastFundingRate instId)
  | fundingRates instId w limit? => beside cache (Rest.fundingRates instId w limit?)
  | positions type instId? => beside cache (Rest.positions type instId?)
  | balance ccy? => beside cache (Rest.balance ccy?)

variable {α : Type} {asked : Query → Prop}

theorem proceeds_beside (cache : InstrumentCache) {x : Calling α} (h : Calling.Proceeds asked x) :
    Dialogue.Proceeds asked (fun e => (.error e, cache)) (beside cache x) :=
  Dialogue.Proceeds.bind h (fun _ => rfl) fun _ => .done _

/-- A call asks signed queries just if it is about the account. The first refusal ends it with its
error, and the kept instruments stay. -/
theorem proceeds (m : Method α) (cache : InstrumentCache) :
    Dialogue.Proceeds (fun q => q.authenticated = m.isPrivate) (fun e => (.error e, cache))
      (m.dialogue cache) := by
  open Calling in
  cases m with
  | systemTime =>
    refine proceeds_beside cache (Proceeds.bind (proceeds_fetch _ rfl) fun items => ?_)
    exact Proceeds.bind (proceeds_first _ items) fun time => proceeds_pure _
  | tickers type => exact proceeds_beside cache (proceeds_fetch _ rfl)
  | ticker instId =>
    exact proceeds_beside cache (Proceeds.bind (proceeds_fetch _ rfl) (proceeds_first _))
  | candles instId bar limit? =>
    exact proceeds_beside cache (Proceeds.bind (proceeds_fetch _ rfl) fun items => proceeds_pure _)
  | historyCandles instId bar w limit? =>
    refine proceeds_beside cache (Proceeds.bind ?_ fun items => proceeds_pure _)
    exact proceeds_collect _ (fun _ => rfl) w _
  | instruments type force =>
    show Dialogue.Proceeds _ _ (Rest.instruments cache type force)
    unfold Rest.instruments
    split
    · exact .done _
    · refine Dialogue.Proceeds.bind (proceeds_fetch _ rfl) (fun e => rfl) fun r => ?_
      cases r with
      | ok items => exact .done _
      | error e => exact .done _
  | lastFundingRate instId =>
    exact proceeds_beside cache (Proceeds.bind (proceeds_fetch _ rfl) (proceeds_first _))
  | fundingRates instId w limit? => exact proceeds_beside cache (proceeds_collect _ (fun _ => rfl) w _)
  | positions type instId? => exact proceeds_beside cache (proceeds_fetch _ rfl)
  | balance ccy? =>
    exact proceeds_beside cache (Proceeds.bind (proceeds_fetch _ rfl) (proceeds_first _))

/-- A call about the account asks before anything else. -/
theorem asks_first {m : Method α} (h : m.isPrivate = true) (cache : InstrumentCache) :
    ∃ q next, m.dialogue cache = .ask q next := by
  cases m with
  | positions type instId? => exact ⟨_, _, rfl⟩
  | balance ccy? => exact ⟨_, _, rfl⟩
  | _ => cases h

end Method

end Rest

end MarketFeed
