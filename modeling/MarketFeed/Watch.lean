import MarketFeed.Board
import MarketFeed.Feed

/-!
# Watching streams

A watch subscribes over one feed and keeps what comes on a board, where the latest events can be
read at any time.
-/

namespace MarketFeed

/-- Who receives the data of a feed. -/
inductive Receiver
  | board
  /-- Somebody else, who has taken the place of the board. -/
  | observer
  deriving DecidableEq, Repr

/-- What a watch tells, in the order in which it happens. -/
inductive Notice
  | line (l : LogLine)
  | data (e : DataEvent)

/-- A feed, the board that it writes to, and how many seconds a read waits for a first value. -/
structure Watch (σ : Type) where
  feed : Feed σ
  board : Board
  receiver : Receiver
  timeoutSeconds : Nat

namespace Watch

variable {σ : Type}

/-- A watch over a feed that does not run yet. -/
def new (settings : StreamConfig) : Watch σ := ⟨.new settings, .empty, .board, 5⟩

/-- Subscribe, unless the subscription is confirmed, and let the feed run. -/
def subscribe (w : Watch σ) (dial : Nat → Dial σ) (s : Subscription) :
    Except FeedError (Watch σ × List LogLine) := do
  let (feed, lines) ←
    if w.feed.isSubscribed s then .ok (w.feed, [])
    else do
      let (feed, lines) ← w.feed.subscribe dial s
      .ok (feed, LogLine.info s!"subscribing: {s.canonical}" :: lines)
  return ({ w with feed := feed.run }, lines)

/-- Take what happened in the feed: events go to the receiver. -/
def take (w : Watch σ) : List Effect → Watch σ × List Notice
  | [] => (w, [])
  | .log l :: rest =>
    let (w, notices) := w.take rest
    (w, .line l :: notices)
  | .deliver e :: rest =>
    match w.receiver with
    | .board =>
      let (board, lines) := w.board.heed e
      let (w, notices) := { w with board }.take rest
      (w, lines.map .line ++ notices)
    | .observer =>
      let (w, notices) := w.take rest
      (w, .data e :: notices)
  | _ :: rest => w.take rest

/-- Let everything run that can; what the watch tells, and what happened in each session. -/
def settle (tr : Transport σ) (w : Watch σ) : Watch σ × List Notice × List Tagged :=
  let (feed, effects) := w.feed.settle tr
  let (w, notices) := { w with feed }.take (effects.map Prod.snd)
  (w, notices, effects)

end Watch

end MarketFeed
