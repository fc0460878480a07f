import Mathlib.Algebra.Group.Int.Defs
import MarketFeed.Proofs.Number.Integer
import MarketFeed.Proofs.Rest.History
import MarketFeed.Rest.Market

/-!
# The past of an instrument

The calls for past funding rates and past candlesticks return what the exchange has of a window,
whatever the window and the page size (`window_returned`).
-/

namespace MarketFeed.Rest

open History

variable {σ : Type} {answer : σ → Query → Answer × σ}

theorem one_le_pageSize {limit? : Option Nat} (h : ∀ k, limit? = some k → 1 ≤ k) :
    1 ≤ pageSize limit? := by
  cases limit? with
  | none => decide
  | some k => exact Nat.le_min.mpr ⟨h k rfl, by decide⟩

theorem pageSize_le (limit? : Option Nat) : pageSize limit? ≤ maxPerPage := Nat.min_le_right _ _

/-- Of the candlesticks of a window the confirmed ones are left. -/
theorem historyCandles_returns {instId : String} {bar : Bar} {w : Window} {limit? : Option Nat}
    {s s' : σ} {found : List Candle} {qs : List Query}
    (h : Calling.Returns answer s ((candleSource instId bar).collect w (pageSize limit?)) found s' qs) :
    Calling.Returns answer s (historyCandles instId bar w limit?) (found.filter Candle.confirmed) s'
      qs := by
  have hreturn := h.bind (f := fun items => pure (items.filter Candle.confirmed))
    (Calling.returns_pure s' (found.filter Candle.confirmed))
  rwa [List.append_nil] at hreturn

/-- Against a server that answers out of its archive, the call for past funding rates returns those of
the window, each once and in the order of time. -/
theorem fundingRates_returned {instId : String} {rates : Archive (fundingSource instId)}
    (hrates : rates.ServedBy answer) {w : Window} (hlow : -2 ^ 63 < w.start)
    (hstart : w.start < 2 ^ 63) (hstop : Archive.Instant w.stop) {limit? : Option Nat}
    (hlimit : ∀ k, limit? = some k → 1 ≤ k) (s : σ) :
    ∃ found s' qs,
      Dialogue.run answer s (fundingRates instId w limit?).run = (.ok found, s', qs) ∧
      found.Perm (rates.records.filter fun r => w.contains r.fundingTime) ∧
      found.Pairwise fun r r' => r.fundingTime < r'.fundingTime := by
  have hbefore : Archive.Instant (w.start - 1) := by constructor <;> omega
  exact Source.collect_returns hrates hbefore hstop (one_le_pageSize hlimit) (pageSize_le limit?) s

/-- Against a server that answers out of its archive, the call for past candlesticks returns the
confirmed ones of the window, each once and in the order of time. -/
theorem historyCandles_returned {instId : String} {bar : Bar} {candles : Archive (candleSource instId bar)}
    (hcandles : candles.ServedBy answer) {w : Window} (hlow : -2 ^ 63 < w.start)
    (hstart : w.start < 2 ^ 63) (hstop : Archive.Instant w.stop) {limit? : Option Nat}
    (hlimit : ∀ k, limit? = some k → 1 ≤ k) (s : σ) :
    ∃ found s' qs,
      Dialogue.run answer s (historyCandles instId bar w limit?).run = (.ok found, s', qs) ∧
      found.Perm (candles.records.filter fun c => w.contains c.ts && c.confirmed) ∧
      found.Pairwise fun c c' => c.ts < c'.ts := by
  have hbefore : Archive.Instant (w.start - 1) := by constructor <;> omega
  obtain ⟨found, s', qs, hreturn, hperm, hsorted⟩ := Source.collect_returns hcandles hbefore hstop
    (one_le_pageSize hlimit) (pageSize_le limit?) s
  refine ⟨found.filter Candle.confirmed, s', qs, historyCandles_returns hreturn, ?_,
    hsorted.filter _⟩
  have hfiltered := hperm.filter Candle.confirmed
  rw [List.filter_filter] at hfiltered
  refine hfiltered.trans (List.Perm.of_eq (List.filter_congr fun c _ => ?_))
  exact Bool.and_comm _ _

/-- **What the exchange has of a window is returned.** Against a server that answers out of an archive
of funding rates, the call for those of a window returns them, each once and in the order of time;
against one that answers out of an archive of candlesticks, the call for those returns the confirmed
ones of the window. A window without instants is not asked for, whatever the server. -/
theorem window_returned {instId : String} {bar : Bar} {w : Window} (hlow : -2 ^ 63 < w.start)
    (hstart : w.start < 2 ^ 63) (hstop : Archive.Instant w.stop) {limit? : Option Nat}
    (hlimit : ∀ k, limit? = some k → 1 ≤ k) (s : σ) :
    (∀ rates : Archive (fundingSource instId), rates.ServedBy answer → ∃ found s' qs,
      Dialogue.run answer s (fundingRates instId w limit?).run = (.ok found, s', qs) ∧
      found.Perm (rates.records.filter fun r => w.contains r.fundingTime) ∧
      found.Pairwise fun r r' => r.fundingTime < r'.fundingTime) ∧
    (∀ candles : Archive (candleSource instId bar), candles.ServedBy answer → ∃ found s' qs,
      Dialogue.run answer s (historyCandles instId bar w limit?).run = (.ok found, s', qs) ∧
      found.Perm (candles.records.filter fun c => w.contains c.ts && c.confirmed) ∧
      found.Pairwise fun c c' => c.ts < c'.ts) ∧
    (w.stop ≤ w.start →
      Dialogue.run answer s (fundingRates instId w limit?).run = (.ok [], s, []) ∧
      Dialogue.run answer s (historyCandles instId bar w limit?).run = (.ok [], s, [])) := by
  refine ⟨fun rates h => fundingRates_returned h hlow hstart hstop hlimit s,
    fun candles h => historyCandles_returned h hlow hstart hstop hlimit s, fun hw => ⟨?_, ?_⟩⟩
  · exact Source.collect_empty hw (pageSize limit?) s
  · exact historyCandles_returns (Source.collect_empty hw (pageSize limit?) s)

/-! ## A server of archives -/

/-- The bounds and the size that a query for a page ends with. -/
def bounds? (q : Query) : Option (Int × Int × Nat) :=
  match q.params.reverse with
  | (_, limit) :: (_, before) :: (_, after) :: _ => do
    let after ← (Integer.readInt64 after).toOption
    let before ← (Integer.readInt64 before).toOption
    let limit ← (Integer.readInt64 limit).toOption
    return (after, before, limit.toNat)
  | _ => none

theorem bounds?_query {α : Type} (src : Source α) {after before : Int} {limit : Nat}
    (hafter : Archive.Instant after) (hbefore : Archive.Instant before) (hlimit : limit ≤ maxPerPage) :
    bounds? (src.query after before limit) = some (after, before, limit) := by
  have hread {t : Int} (h : Archive.Instant t) : Integer.readInt64 (toString t) = .ok t :=
    Integer.readInt64_toString h.1 (Int.le_sub_one_of_lt h.2)
  have hsize : Archive.Instant limit := by
    unfold maxPerPage at hlimit
    constructor <;> omega
  unfold bounds? Source.query
  rw [List.reverse_append]
  show (do
    let after ← (Integer.readInt64 (toString after)).toOption
    let before ← (Integer.readInt64 (toString before)).toOption
    let limit ← (Integer.readInt64 (toString (limit : Int))).toOption
    return (after, before, limit.toNat)) = _
  rw [hread hafter, hread hbefore, hread hsize]
  rfl

/-- A server that answers out of two archives; its state is the number of queries. -/
def serve {instId : String} {bar : Bar} (rates : Archive (fundingSource instId))
    (candles : Archive (candleSource instId bar)) (asked : Nat) (q : Query) : Answer × Nat :=
  (match bounds? q with
    | some (after, before, limit) =>
      if q.endpoint = (fundingSource instId).endpoint then rates.reply after before limit
      else candles.reply after before limit
    | none => .error (.invalidParameters "no page"), asked + 1)

theorem servedBy_serve {instId : String} {bar : Bar} (rates : Archive (fundingSource instId))
    (candles : Archive (candleSource instId bar)) :
    rates.ServedBy (serve rates candles) ∧ candles.ServedBy (serve rates candles) := by
  constructor
  · intro asked after before limit hafter hbefore _ hlimit
    unfold serve
    rw [bounds?_query _ hafter hbefore hlimit]
    exact rates.answers_reply after before limit
  · intro asked after before limit hafter hbefore _ hlimit
    unfold serve
    rw [bounds?_query _ hafter hbefore hlimit]
    exact candles.answers_reply after before limit

/-- A past funding rate as it is sent. -/
def rateJson (fundingTime : String) : Json :=
  Json.object [("instType", .str "SWAP"), ("instId", .str "BTC-USDT-SWAP"),
    ("fundingTime", .str fundingTime)]

/-- A past funding rate of which nothing but the time is known. -/
def rateAt (fundingTime : Int) : FundingRate where
  instType := .swap
  instId := "BTC-USDT-SWAP"
  fundingRate := .zero
  fundingTime := fundingTime
  nextFundingTime := 0
  nextFundingRate := .zero
  interestRate := .zero
  premium := .zero
  maxFundingRate := .zero
  minFundingRate := .zero
  ts := 0
  settState := ""
  settFundingRate := .zero
  realizedRate := .zero

/-- Three past funding rates. -/
def threeRates : Archive (fundingSource "BTC-USDT-SWAP") where
  entries := [(rateJson "2000", rateAt 2000), (rateJson "1000", rateAt 1000),
    (rateJson "3000", rateAt 3000)]
  reads := by
    simp only [List.forall_mem_cons]
    exact ⟨rfl, rfl, rfl, by simp⟩
  distinct := by decide

/-- A row of a candlestick without prices. -/
def rowJson (ts confirm : String) : Json :=
  .arr [.str ts, .str "", .str "", .str "", .str "", .str "", .str "", .str "", .str confirm]

/-- A past candlestick and one that lasts. -/
def twoCandles : Archive (candleSource "BTC-USDT-SWAP" .hour1) where
  entries := [(rowJson "2500" "0", ⟨2500, .zero, .zero, .zero, .zero, .zero, .zero, .zero, false⟩),
    (rowJson "2000" "1", ⟨2000, .zero, .zero, .zero, .zero, .zero, .zero, .zero, true⟩)]
  reads := by
    simp only [List.forall_mem_cons]
    exact ⟨rfl, rfl, by simp⟩
  distinct := by decide

/-- One record a page, over a window that leaves out the first record and the last. -/
theorem window_returned_one_by_one :
    (∃ found s' qs,
      Dialogue.run (serve threeRates twoCandles) 0
        (fundingRates "BTC-USDT-SWAP" ⟨1001, 3000⟩ (some 1)).run = (.ok found, s', qs) ∧
      found.Perm [rateAt 2000] ∧ found.Pairwise fun r r' => r.fundingTime < r'.fundingTime) ∧
    ∃ found s' qs,
      Dialogue.run (serve threeRates twoCandles) 0
        (historyCandles "BTC-USDT-SWAP" .hour1 ⟨1001, 3000⟩ (some 1)).run = (.ok found, s', qs) ∧
      found.Perm [⟨2000, .zero, .zero, .zero, .zero, .zero, .zero, .zero, true⟩] ∧
      found.Pairwise fun c c' => c.ts < c'.ts := by
  obtain ⟨hrates, hcandles⟩ := servedBy_serve threeRates twoCandles
  have hlimit : ∀ k, some 1 = some k → 1 ≤ k := fun k hk => by cases hk; decide
  have hstop : Archive.Instant 3000 := by unfold Archive.Instant; decide
  obtain ⟨hfunding, hcandlesticks, -⟩ := @window_returned _ (serve threeRates twoCandles)
    "BTC-USDT-SWAP" .hour1 ⟨1001, 3000⟩ (by decide) (by decide) hstop (some 1) hlimit 0
  exact ⟨hfunding threeRates hrates, hcandlesticks twoCandles hcandles⟩

end MarketFeed.Rest
