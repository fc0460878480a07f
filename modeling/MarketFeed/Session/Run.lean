import MarketFeed.Session.Task

/-!
# Running a session

A task with its transport, and a session with all tasks that serve it. `LiveSession.settle` lets
everything run that can; time moves only between two such runs.
-/

namespace MarketFeed

/-- What the receiver of data does at an event. -/
inductive Reaction
  | call (c : Call)
  | panic
  deriving DecidableEq, Repr

/-- What surrounds the tasks of a session. -/
structure Situation where
  now : Nat
  session : Session
  /-- What the receiver of data does at the next event. -/
  reaction? : Option Reaction
  deriving Repr

/-- A task with its transport. -/
structure Running (σ : Type) where
  task : Task
  link : σ
  /-- Calls on the session that come when a stage begins. -/
  calls : List (Stage × List Call)

namespace Running

variable {σ : Type}

/-- Whether the task is over and has let go of its transport. -/
def isOver (r : Running σ) : Bool := r.task.point.isLast

def callsAt (r : Running σ) (stage : Stage) : List Call := (r.calls.lookup stage).getD []

/-- A step with a signal, on a transport in a new state. -/
def turn (tr : Transport σ) (here : Situation) (r : Running σ) (link : σ) (signal : Signal)
    (first : List Effect) : Situation × Running σ × List Effect :=
  let next := r.task.step ⟨here.now, tr.isOpen link⟩ here.session signal
  ({ here with session := next.session }, { r with task := next.task, link }, first ++ next.effects)

/-- What a task that waits at the idle point hears of first: a close, a tick, a staged subscription,
what there is to read. -/
def heard? (tr : Transport σ) (here : Situation) (r : Running σ) : Option (Signal × σ) :=
  if here.session.closeAsked then some (.closeAsked, r.link)
  else if r.task.deadline ≤ here.now then some (.tick, r.link)
  else if here.session.wake then some (.wake, r.link)
  else
    match tr.read r.link with
    | some (i, link) => some (.incoming i, link)
    | none => none

/-- Deliver an event: what the receiver calls, and whether it panics. -/
def react (here : Situation) : Situation × List LogLine × Bool :=
  match here.reaction? with
  | none => (here, [], false)
  | some .panic => ({ here with reaction? := none }, [], true)
  | some (.call c) =>
    let (session, lines) := here.session.obey c
    ({ here with session, reaction? := none }, lines, false)

/-- The next step, unless the task has to wait or is over. -/
def next? (tr : Transport σ) (here : Situation) (r : Running σ) :
    Option (Situation × Running σ × List Effect) :=
  match r.task.point with
  | .finished | .broken => none
  | .during stage =>
    let (session, lines) := here.session.obeyAll (r.callsAt stage)
    let (outcome, link) := tr.perform r.task.endpoint stage r.link
    some (turn tr { here with session } r link (.outcome outcome) (lines.map .log))
  | .writing w =>
    let (outcome, link) := tr.write w.frame r.link
    some (turn tr here r link (.outcome outcome) [])
  | .closing =>
    let (outcome, link) := tr.close r.link
    some (turn tr here r link (.outcome outcome) [])
  | .delivering _ =>
    let (here, lines, panicked) := react here
    some (turn tr here r r.link (.delivered panicked) (lines.map .log))
  | .idle => (heard? tr here r).map fun (signal, link) => turn tr here r link signal []
  | _ => some (turn tr here r r.link .go [])

/-- Steps until the task waits, or so many of them. -/
def run (tr : Transport σ) : Nat → Situation → Running σ → Situation × Running σ × List Effect
  | 0, here, r => (here, r, [])
  | fuel + 1, here, r =>
    match next? tr here r with
    | none => (here, r, [])
    | some (here, r, effects) =>
      let (here, r, more) := run tr fuel here r
      (here, r, effects ++ more)

/-- More steps than a task takes before it has to wait: it makes its way to the idle point and to
its end once, and needs a few steps for each thing that it hears of. -/
def enough (tr : Transport σ) (r : Running σ) : Nat := 8 * (tr.backlog r.link + 8)

end Running

/-- A session with the tasks that serve it, the first one first. -/
structure LiveSession (σ : Type) where
  here : Situation
  runs : List (Running σ)

/-- An effect with the number of the task that it comes from. -/
abbrev Tagged := Nat × Effect

namespace LiveSession

variable {σ : Type}

def new (id : Nat) (settings : StreamConfig) : LiveSession σ := ⟨⟨0, .new id settings, none⟩, []⟩

def session (l : LiveSession σ) : Session := l.here.session

def withSession (l : LiveSession σ) (session : Session) : LiveSession σ :=
  { l with here := { l.here with session } }

/-- Let tasks run one after the other, from a number on. -/
def settleFrom (tr : Transport σ) (here : Situation) :
    Nat → List (Running σ) → Situation × List (Running σ) × List Tagged
  | _, [] => (here, [], [])
  | n, r :: rest =>
    let (here, r, effects) := r.run tr (r.enough tr) here
    let (here, rest, more) := settleFrom tr here (n + 1) rest
    (here, r :: rest, effects.map (n, ·) ++ more)

def settle (tr : Transport σ) (l : LiveSession σ) : LiveSession σ × List Tagged :=
  let (here, runs, effects) := settleFrom tr l.here 0 l.runs
  (⟨here, runs⟩, effects)

def moveTo (l : LiveSession σ) (now : Nat) : LiveSession σ := { l with here := { l.here with now } }

/-- The earliest tick among tasks that wait for one. -/
def nextTick? (l : LiveSession σ) : Option Nat :=
  (l.runs.filterMap fun r =>
    match r.task.point with
    | .idle => some r.task.deadline
    | _ => none).min?

/-- Let time pass until an instant, and everything run at the time of each tick on the way. -/
def sleepUntil (tr : Transport σ) (target : Nat) :
    Nat → LiveSession σ → LiveSession σ × List Tagged
  | 0, l => (l.moveTo target, [])
  | fuel + 1, l =>
    match l.nextTick? with
    | none => (l.moveTo target, [])
    | some tick =>
      if target < tick then (l.moveTo target, [])
      else
        let (l, effects) := (l.moveTo (max l.here.now tick)).settle tr
        let (l, more) := sleepUntil tr target fuel l
        (l, effects ++ more)

def ticksIn (l : LiveSession σ) (span : Nat) : Nat :=
  l.runs.length * (span / max 1 l.session.period + 2)

def sleep (tr : Transport σ) (span : Nat) (l : LiveSession σ) : LiveSession σ × List Tagged :=
  sleepUntil tr (l.here.now + span) (l.ticksIn span) l

/-- Let time pass at once, so that ticks on the way are missed. -/
def jump (tr : Transport σ) (span : Nat) (l : LiveSession σ) : LiveSession σ × List Tagged :=
  (l.moveTo (l.here.now + span)).settle tr

end LiveSession

end MarketFeed
