import MarketFeed.Setup
import MarketFeed.Watch

/-!
# The command line

The program watches the tickers of one instrument and, if asked to, its candlesticks of one period.
In each round it prints what is latest.
-/

namespace MarketFeed

/-- What the program watches. -/
structure Options where
  instId : String
  bar? : Option Bar
  deriving DecidableEq, Repr

/-- Why the program does not start. -/
inductive UsageFault
  | unknownBar (name : String)
  deriving DecidableEq, Repr

namespace UsageFault

def context : UsageFault → String
  | .unknownBar _ => "invalid bar size"

def cause : UsageFault → String
  | .unknownBar name => Bar.unknownMessage name

def indented (text : String) : String :=
  "    " ++ String.ofList (text.toList.flatMap fun c =>
    if c = '\n' then '\n' :: List.replicate 4 ' ' else [c])

/-- The report of a fault: what was being done, then what went wrong. -/
def report (f : UsageFault) : String :=
  "Error: " ++ f.context ++ "\n\nCaused by:\n" ++ indented f.cause ++ "\n"

end UsageFault

namespace Options

/-- The instrument that is watched if no other is named. -/
def defaultInstId : String := "BTC-USDT"

/-- The first argument is an instrument and the second one a period; more mean nothing. -/
def ofArguments : List String → Except UsageFault Options
  | [] => .ok ⟨defaultInstId, none⟩
  | [instId] => .ok ⟨instId, none⟩
  | instId :: bar :: _ =>
    match Bar.ofName? bar with
    | some b => .ok ⟨instId, some b⟩
    | none => .error (.unknownBar bar)

def subscriptions (o : Options) : List Subscription :=
  .tickers o.instId :: (o.bar?.map (Subscription.candles o.instId)).toList

def start {σ : Type} (o : Options) (dial : Nat → Dial σ) (w : Watch σ) :
    Except FeedError (Watch σ × List LogLine) :=
  o.subscriptions.foldlM
    (fun (w, lines) s => do
      let (w, more) ← w.subscribe dial s
      return (w, lines ++ more))
    (w, [])

def tickerLine (t : Ticker) : String :=
  s!"{t.instId} last={t.last} bid={t.bidPx} ask={t.askPx} ts={t.ts}"

def candleLine (instId : String) (c : Candle) : String :=
  s!"{instId} {c.ts} o={c.opening} h={c.high} l={c.low} c={c.close} confirmed={c.confirmed}"

def tickerLines (o : Options) (b : Board) (timeoutSeconds : Nat) : List String :=
  match b.tickersOf? o.instId with
  | some tickers => tickers.map tickerLine
  | none => [s!"no ticker for {o.instId} within {timeoutSeconds}s"]

/-- What is printed of the candlesticks: the first one of the latest event. -/
def candleLines (o : Options) (b : Board) : List String :=
  match o.bar?.bind (b.candlesOf? o.instId) with
  | some (c :: _) => [candleLine o.instId c]
  | _ => []

def round (o : Options) (b : Board) (timeoutSeconds : Nat) : List String :=
  o.tickerLines b timeoutSeconds ++ o.candleLines b

/-- The first `count` lines of so many rounds over a board that stays as it is. -/
def output (o : Options) (b : Board) (timeoutSeconds count : Nat) : List String :=
  ((List.replicate count (o.round b timeoutSeconds)).flatten).take count

end Options

end MarketFeed
