import MarketFeed.Session.Run

/-!
# The feed

All streams share one session at a time. A subscription goes over the live session; where there is
none, a new session starts that carries it. Nothing runs before the feed does.
-/

namespace MarketFeed

/-- A new connection: its transport, and the calls that come while it is made. -/
structure Dial (σ : Type) where
  link : σ
  calls : List (Stage × List Call)

/-- The sessions of a feed, the current one last, numbered from one. -/
structure Feed (σ : Type) where
  settings : StreamConfig
  sessions : List (LiveSession σ)
  isRunning : Bool

namespace Feed

variable {σ : Type}

def new (settings : StreamConfig) : Feed σ := ⟨settings, [], false⟩

def current? (f : Feed σ) : Option Session := f.sessions.getLast?.map LiveSession.session

def run (f : Feed σ) : Feed σ := { f with isRunning := true }

/-- Whether the live session has a subscription confirmed. -/
def isSubscribed (f : Feed σ) (s : Subscription) : Bool :=
  match f.current? with
  | some session => session.isAlive && session.isSubscribed s
  | none => false

def endpoint (f : Feed σ) : Endpoint := ⟨f.settings.host, f.settings.port, f.settings.path⟩

/-- Put a changed session in the place of the current one. -/
def withCurrent (f : Feed σ) (session : Session) : Feed σ :=
  match f.sessions.getLast? with
  | some l => { f with sessions := f.sessions.dropLast ++ [l.withSession session] }
  | none => f

/-- Start a session with its first subscription. -/
def start (f : Feed σ) (dial : Nat → Dial σ) (s : Subscription) :
    Except FeedError (Feed σ × List LogLine) := do
  let number := f.sessions.length + 1
  let fresh : LiveSession σ := .new number f.settings
  let (session, lines, task) ← fresh.session.begin f.endpoint [s]
  let line := dial number
  let live := { fresh.withSession session with runs := [⟨task, line.link, line.calls⟩] }
  return ({ f with sessions := f.sessions ++ [live] }, lines)

/-- Subscribe over the live session, or start one. -/
def subscribe (f : Feed σ) (dial : Nat → Dial σ) (s : Subscription) :
    Except FeedError (Feed σ × List LogLine) :=
  match f.current? with
  | none => f.start dial s
  | some session =>
    if session.isAlive then
      match session.subscribe s with
      | (session, lines, true) => .ok (f.withCurrent session, lines)
      | (_, _, false) => f.start dial s
    else f.start dial s

def close (f : Feed σ) : Feed σ :=
  match f.current? with
  | some session => f.withCurrent session.close
  | none => f

/-- Let the tasks of some sessions run. The effects are tagged with the number of their session. -/
def settleAll (tr : Transport σ) : Nat → List (LiveSession σ) → List (LiveSession σ) × List Tagged
  | _, [] => ([], [])
  | number, l :: rest =>
    let (l, effects) := l.settle tr
    let (rest, more) := settleAll tr (number + 1) rest
    (l :: rest, effects.map (fun e => (number, e.2)) ++ more)

def settle (tr : Transport σ) (f : Feed σ) : Feed σ × List Tagged :=
  if f.isRunning then
    let (sessions, effects) := settleAll tr 1 f.sessions
    ({ f with sessions }, effects)
  else (f, [])

def changeLink (f : Feed σ) (number : Nat) (change : σ → σ) : Feed σ :=
  { f with
    sessions := f.sessions.modify (number - 1) fun l =>
      { l with runs := l.runs.map fun r => { r with link := change r.link } } }

def running? (f : Feed σ) (number : Nat) : Option (Running σ) :=
  (f.sessions[number - 1]?).bind fun l => l.runs.getLast?

end Feed

end MarketFeed
