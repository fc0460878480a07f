import MarketFeed.Proofs.Rest.Market
import MarketFeed.Proofs.Rest.Paging

/-!
# Windows from any server

No trust in the server is needed for paging to end, to stay in the window, and to return one record of
a time, the first that was fetched (`window_paged_safely`). The call for past candlesticks drops those
that still last only after that: it returns a candlestick of a time exactly if the first one that was
fetched of that time is confirmed (`candle_returned_iff`).
-/

namespace MarketFeed.Rest

open History

variable {α σ : Type}

/-- **Paging is safe against any server.** Whatever the answers are, no more pages are asked for than
the window has milliseconds; they are asked for from the end of the window downwards, all above its
start, and down to the same lower bound. The call ends with the first answer that cannot be read, and
returns its error. Otherwise it returns records in the strict order of time: only fetched ones of the
window, and of each time in the window that was fetched the first record. -/
theorem window_paged_safely (src : Source α) {w : Window} (hw : w.start < w.stop) (limit : Nat)
    (answer : σ → Query → Answer × σ) (s : σ) :
    let heard := (src.collect w limit).run.heard answer s
    let result := ((src.collect w limit).run.run answer s).1
    (heard.length : Int) ≤ w.stop - w.start ∧
    (∃ below : List Int,
      heard.map Prod.snd = (w.stop :: below).map (fun after => src.query after (w.start - 1) limit) ∧
      (w.stop :: below).Pairwise (· > ·) ∧ ∀ after ∈ w.stop :: below, w.start < after) ∧
    (∀ before x more error, heard = before ++ x :: more → src.fetched answer x = .error error →
      more = [] ∧ result = .error error) ∧
    (∀ error, result = .error error → ∃ x ∈ heard, src.fetched answer x = .error error) ∧
    ∀ found, result = .ok found → ∃ pages : List (List α),
      heard.map (src.fetched answer) = pages.map .ok ∧
      found.Pairwise (fun a b => src.ts a < src.ts b) ∧
      (∀ a ∈ found, a ∈ pages.flatten ∧ w.contains (src.ts a) = true) ∧
      ∀ a ∈ pages.flatten, w.contains (src.ts a) = true →
        ∃ b ∈ found, src.ts b = src.ts a ∧ pages.flatten.find? (src.ts · = src.ts a) = some b := by
  intro heard result
  have hcourse := src.course_pages answer w limit w.stop s
  rw [← Source.heard_collect hw] at hcourse
  refine ⟨hcourse.length_le hw, hcourse.asks_downwards hw, ?_⟩
  rcases src.collect_outcome w limit answer s with
    ⟨pages, found, hread, hfound, hfirst⟩ | ⟨before, x, error, hheard, hread, hx, hfailed⟩
  · have hnone : ∀ x ∈ heard, ∀ error, src.fetched answer x ≠ .error error := by
      intro x hx error herror
      obtain ⟨page, -, hpage⟩ := List.mem_map.mp (hread ▸ List.mem_map_of_mem hx)
      exact nomatch hpage.trans herror
    refine ⟨fun before x more error hheard herror => ?_, fun error hfailed => ?_, fun found' hr => ?_⟩
    · exact absurd herror (hnone x (by rw [hheard]; simp) error)
    · exact nomatch hfound.symm.trans hfailed
    · obtain rfl := Except.ok.inj (hfound.symm.trans hr)
      exact ⟨pages, hread, hfirst⟩
  · refine ⟨fun front y more error' hheard' herror => ?_, fun error' hr => ?_, fun found hr => ?_⟩
    · have hnew : y ∉ before := by
        intro hy
        obtain ⟨page, hpage⟩ := hread y hy
        exact nomatch hpage.symm.trans herror
      obtain ⟨rfl, hmore⟩ := eq_last_of_not_mem (hheard.symm.trans hheard') hnew
      obtain rfl := Except.error.inj (hx.symm.trans herror)
      exact ⟨hmore, hfailed⟩
    · obtain rfl := Except.error.inj (hfailed.symm.trans hr)
      have hmem : x ∈ heard := by
        rw [show heard = before ++ [x] from hheard]
        simp
      exact ⟨x, hmem, hx⟩
    · exact nomatch hfailed.symm.trans hr

/-! ## A server that repeats itself -/

/-- A server that answers every query with the same rows; its state is the number of queries. -/
def repeating (rows : List Json) (asked : Nat) (_ : Query) : Answer × Nat :=
  (.ok (Json.object [("code", .str "0"), ("msg", .str ""), ("data", .arr rows)]), asked + 1)

theorem pages_of_repeating {src : Source α} {rows : List Json} {page : List α}
    (hread : ∀ x, src.fetched (repeating rows) x = .ok page) {heard : List (Nat × Query)}
    (hheard : heard ≠ []) {pages : List (List α)}
    (hpages : heard.map (src.fetched (repeating rows)) = pages.map .ok) :
    ∃ more, pages = page :: more := by
  obtain ⟨x, rest, rfl⟩ := List.exists_cons_of_ne_nil hheard
  cases pages with
  | nil => cases hpages
  | cons first more =>
    obtain rfl := Except.ok.inj ((hread x).symm.trans (List.cons.inj hpages).1)
    exact ⟨more, rfl⟩

/-- A candlestick of which nothing but the time is known, and whether it is confirmed. -/
def candleAt (ts : Int) (confirmed : Bool) : Candle :=
  ⟨ts, .zero, .zero, .zero, .zero, .zero, .zero, .zero, confirmed⟩

/-- Rows in no order: two of one time twice, and one behind the end of the window. -/
def mixedRows : List Json :=
  [rowJson "2500" "1", rowJson "1500" "0", rowJson "9000" "1", rowJson "2500" "0",
    rowJson "1500" "1"]

/-- From a server that sends one page again and again, the first record of each time in the window is
returned, after a bounded number of pages. -/
theorem repeated_page_paged_safely :
    let src := candleSource "BTC-USDT" .minute1
    let w : Window := ⟨1000, 3000⟩
    w.start < w.stop ∧
    (((src.collect w 100).run.heard (repeating mixedRows) 0).length : Int) ≤ 2000 ∧
    ∃ found, ((src.collect w 100).run.run (repeating mixedRows) 0).1 = .ok found ∧
      found.Pairwise (fun c c' => c.ts < c'.ts) ∧
      (∀ c ∈ found, 1000 ≤ c.ts ∧ c.ts < 3000) ∧
      candleAt 1500 false ∈ found ∧ candleAt 2500 true ∈ found := by
  intro src w
  have hread : ∀ x, src.fetched (repeating mixedRows) x =
      .ok [candleAt 2500 true, candleAt 1500 false, candleAt 9000 true, candleAt 2500 false,
        candleAt 1500 true] := fun x => rfl
  obtain ⟨hfew, -, -, herror, hok⟩ :=
    window_paged_safely src (w := w) (by decide) 100 (repeating mixedRows) 0
  refine ⟨by decide, hfew, ?_⟩
  cases hresult : ((src.collect w 100).run.run (repeating mixedRows) 0).1 with
  | error error =>
    obtain ⟨x, -, hx⟩ := herror error hresult
    exact nomatch (hread x).symm.trans hx
  | ok found =>
    obtain ⟨pages, hpages, hsorted, hin, hfirst⟩ := hok found hresult
    obtain ⟨more, rfl⟩ := pages_of_repeating hread (Source.heard_collect_ne_nil (by decide) 0) hpages
    refine ⟨found, rfl, hsorted, fun c hc => ?_, ?_, ?_⟩
    · simpa [Window.contains, w, src, candleSource] using (hin c hc).2
    · obtain ⟨c, hc, -, hsame⟩ := hfirst (candleAt 1500 false) (by simp) rfl
      obtain rfl : candleAt 1500 false = c := Option.some.inj hsame
      exact hc
    · obtain ⟨c, hc, -, hsame⟩ := hfirst (candleAt 2500 true) (by simp) rfl
      obtain rfl : candleAt 2500 true = c := Option.some.inj hsame
      exact hc

/-! ## Confirmed candlesticks -/

/-- **A candlestick is returned for a time exactly if the first one that was fetched of that time is
confirmed.** So whatever a server answers, all that is returned is confirmed and fetched, but a
confirmed candlestick that comes after an unconfirmed one of its time is lost. -/
theorem candle_returned_iff (instId : String) (bar : Bar) (w : Window) (limit? : Option Nat)
    (answer : σ → Query → Answer × σ) (s : σ) :
    let heard := (historyCandles instId bar w limit?).run.heard answer s
    let result := ((historyCandles instId bar w limit?).run.run answer s).1
    let fetched := (candleSource instId bar).fetched answer
    (∃ (pages : List (List Candle)) (found : List Candle),
      heard.map fetched = pages.map .ok ∧ result = .ok found ∧
      (∀ c ∈ found, c.confirmed = true ∧ c ∈ pages.flatten) ∧
      ∀ t, w.contains t = true →
        ((∃ c ∈ found, c.ts = t) ↔
          ∃ c, pages.flatten.find? (·.ts = t) = some c ∧ c.confirmed = true)) ∨
    ∃ x ∈ heard, ∃ error, fetched x = .error error ∧ result = .error error := by
  intro heard result fetched
  have hheard : heard = ((candleSource instId bar).collect w (pageSize limit?)).run.heard answer s :=
    Calling.heard_map _ _ s
  have hresult : result = (((candleSource instId bar).collect w (pageSize limit?)).run.run
      answer s).1.map (List.filter Candle.confirmed) :=
    congrArg Prod.fst (Calling.run_map _ _ s)
  rcases (candleSource instId bar).collect_outcome w (pageSize limit?) answer s with
    ⟨pages, found, hread, hfound, hfirst⟩ | ⟨before, x, error, hlast, -, hx, hfailed⟩
  · refine .inl ⟨pages, found.filter Candle.confirmed, hheard ▸ hread, by rw [hresult, hfound]; rfl,
      fun c hc => ?_, fun t ht => ?_⟩
    · obtain ⟨hc, hconfirmed⟩ := List.mem_filter.mp hc
      exact ⟨hconfirmed, (hfirst.2.1 c hc).1⟩
    · constructor
      · rintro ⟨c, hc, rfl⟩
        obtain ⟨hc, hconfirmed⟩ := List.mem_filter.mp hc
        exact ⟨c, (hfirst.mem_iff ht).mp hc, hconfirmed⟩
      · rintro ⟨c, hc, hconfirmed⟩
        obtain rfl : c.ts = t := by simpa using List.find?_some hc
        exact ⟨c, List.mem_filter.mpr ⟨(hfirst.mem_iff ht).mpr hc, hconfirmed⟩, rfl⟩
  · refine .inr ⟨x, ?_, error, hx, by rw [hresult, hfailed]; rfl⟩
    rw [hheard, hlast]
    simp

/-- A page holds a candlestick twice, first unconfirmed and then confirmed: none of them is returned. -/
theorem confirmed_behind_unconfirmed_lost :
    let server := repeating [rowJson "2500" "0", rowJson "2500" "1"]
    let w : Window := ⟨2500, 3000⟩
    let call := (historyCandles "BTC-USDT" .minute1 w none).run
    ∃ (pages : List (List Candle)) (found : List Candle),
      (call.heard server 0).map ((candleSource "BTC-USDT" .minute1).fetched server) =
        pages.map .ok ∧
      (call.run server 0).1 = .ok found ∧
      candleAt 2500 true ∈ pages.flatten ∧ w.contains 2500 = true ∧ ¬ ∃ c ∈ found, c.ts = 2500 := by
  intro server w call
  have hread : ∀ x, (candleSource "BTC-USDT" .minute1).fetched server x =
      .ok [candleAt 2500 false, candleAt 2500 true] := fun x => rfl
  rcases candle_returned_iff "BTC-USDT" .minute1 w none server 0 with
    ⟨pages, found, hpages, hfound, -, hiff⟩ | ⟨x, -, error, hx, -⟩
  · have hheard : call.heard server 0 ≠ [] := by
      rw [show call.heard server 0 = _ from Calling.heard_map _ _ 0]
      exact Source.heard_collect_ne_nil (by decide) 0
    obtain ⟨more, rfl⟩ := pages_of_repeating hread hheard hpages
    refine ⟨_, found, hpages, hfound, by simp, rfl, fun hreturned => ?_⟩
    obtain ⟨c, hc, hconfirmed⟩ := (hiff 2500 rfl).mp hreturned
    obtain rfl : candleAt 2500 false = c := Option.some.inj hc
    exact nomatch hconfirmed
  · exact nomatch (hread x).symm.trans hx

end MarketFeed.Rest
