import MarketFeed.Feed
import MarketFeed.Transport.Memory

/-!
# Rehearsals

Sessions over transports in memory, with the remote ends at hand, so that what a session does can be
tried out step by step. A report says what was asked of a transport in a step.
-/

namespace MarketFeed

/-- What was asked of a transport. -/
structure Report where
  /-- The stages that began, and the close. -/
  stages : List String
  sent : List Frame
  /-- Whether the transport has been closed by now. -/
  isClosed : Bool

namespace Report

/-- How a report tells what happened on the way to an endpoint. -/
def stageText? (e : Endpoint) : Effect → Option String
  | .begin .resolve => some s!"resolve {e.host}:{e.port}"
  | .begin .connect => some "connect"
  | .begin .tls => some "tls"
  | .begin .upgrade => some s!"ws {e.path}"
  | .close => some "close"
  | _ => none

/-- The report on the transport of a task, of which `seen` frames were known before. -/
def of (r : Running Memory) (seen : Nat) (effects : List Effect) : Report :=
  ⟨effects.filterMap (stageText? r.task.endpoint), r.link.sent.drop seen, r.link.isClosed⟩

/-- The report on a transport that nothing was asked of. -/
def untouched (m : Memory) : Report := ⟨[], [], m.isClosed⟩

end Report

def Effect.line? : Effect → Option LogLine
  | .log l => some l
  | _ => none

def Effect.event? : Effect → Option DataEvent
  | .deliver e => some e
  | _ => none

def Tagged.ofNumber (number : Nat) (effects : List Tagged) : List Effect :=
  effects.filterMap fun (n, e) => if n = number then some e else none

/-- How time passes between two steps. -/
inductive Passing
  | none
  /-- Slowly: every tick comes at its time. -/
  | sleep (span : Nat)
  /-- At once: ticks on the way are missed. -/
  | jump (span : Nat)
  deriving DecidableEq, Repr

/-- How a task ended. -/
inductive Ending
  | finished
  | broken
  deriving DecidableEq, Repr

/-- One session that is tried out. Its latest run is what steps act on. -/
structure Rehearsal where
  live : LiveSession Memory
  /-- A run whose start is put off. -/
  held? : Option (Running Memory)
  /-- The transport of the latest run, if the session refused that run. -/
  refused? : Option Memory

namespace Rehearsal

def new (settings : StreamConfig) : Rehearsal := ⟨.new 1 settings, none, none⟩

def session (b : Rehearsal) : Session := b.live.session

def withSession (b : Rehearsal) (session : Session) : Rehearsal :=
  { b with live := b.live.withSession session }

def latest? (b : Rehearsal) : Option (Running Memory) :=
  match b.held? with
  | some r => some r
  | none => b.live.runs.getLast?

/-- How many frames the latest run has written. -/
def sentCount (b : Rehearsal) : Nat := (b.latest?.map (·.link.sent.length)).getD 0

def change (b : Rehearsal) (f : Memory → Memory) : Rehearsal :=
  match b.held? with
  | some r => { b with held? := some { r with link := f r.link } }
  | none =>
    let runs := b.live.runs.modify (b.live.runs.length - 1) fun r => { r with link := f r.link }
    { b with live := { b.live with runs } }

def changeFaults (b : Rehearsal) (f : Faults → Faults) : Rehearsal :=
  b.change fun m => { m with faults := f m.faults }

def expect (b : Rehearsal) (r : Reaction) : Rehearsal :=
  { b with live := { b.live with here := { b.live.here with reaction? := some r } } }

/-- Whether the transport of the latest run still takes what the remote end sends. -/
def isReceiving (b : Rehearsal) : Bool :=
  b.refused?.isNone && b.latest?.any fun r => !r.isOver && r.link.isAttached

/-- Let something come, and say whether it was taken. -/
def push (b : Rehearsal) (i : Incoming) : Rehearsal × Bool :=
  if b.isReceiving then (b.change (·.push i), true) else (b, false)

def pushAll (b : Rehearsal) : List Incoming → Rehearsal × List Bool
  | [] => (b, [])
  | i :: rest =>
    let (b, r) := b.push i
    let (b, rs) := b.pushAll rest
    (b, r :: rs)

def start (b : Rehearsal) : Rehearsal :=
  match b.held? with
  | some r => { b with live := { b.live with runs := b.live.runs ++ [r] }, held? := none }
  | none => b

def run (b : Rehearsal) (endpoint : Endpoint) (subscriptions : List Subscription)
    (dial : Dial Memory) (deferred : Bool) : Rehearsal × List LogLine × Except FeedError Unit :=
  match b.session.begin endpoint subscriptions with
  | .error e => ({ b with refused? := some dial.link }, [], .error e)
  | .ok (session, lines, task) =>
    let held? := some ⟨task, dial.link, dial.calls⟩
    let b := { b.withSession session with held?, refused? := none }
    (if deferred then b else b.start, lines, .ok ())

/-- Let everything run that can, and then time pass. -/
def follow (b : Rehearsal) (passing : Passing) : Rehearsal × List Tagged :=
  let (live, effects) := b.live.settle Memory.transport
  let (live, more) :=
    match passing with
    | .sleep span => live.sleep Memory.transport span
    | .jump span => live.jump Memory.transport span
    | .none => (live, [])
  ({ b with live }, effects ++ more)

def report? (b : Rehearsal) (seen : Nat) (effects : List Tagged) : Option Report :=
  match b.refused?, b.held? with
  | some m, _ => some (.untouched m)
  | none, some r => some (.of r seen [])
  | none, none =>
    b.live.runs.getLast?.map fun r => .of r seen (Tagged.ofNumber (b.live.runs.length - 1) effects)

def ending? (b : Rehearsal) : Option Ending :=
  if b.held?.isSome then none
  else
    b.live.runs.getLast?.bind fun r =>
      match r.task.point with
      | .finished => some .finished
      | .broken => some .broken
      | _ => none

/-- How the latest run ended, if it did so since a state before. -/
def endingSince? (before after : Rehearsal) : Option Ending :=
  if before.live.runs.length = after.live.runs.length && before.ending?.isSome then none
  else after.ending?

end Rehearsal

/-- The reports on the sessions of a feed, given the feed before the step. -/
def Feed.reports (before after : Feed Memory) (effects : List Tagged) : List Report :=
  (List.range after.sessions.length).filterMap fun n =>
    let seen := ((before.running? (n + 1)).map (·.link.sent.length)).getD 0
    (after.running? (n + 1)).map fun r => .of r seen (Tagged.ofNumber (n + 1) effects)

/-- Let something come to a session of a feed, and say whether it was taken. -/
def Feed.push (f : Feed Memory) (number : Nat) (i : Incoming) : Feed Memory × Bool :=
  if (f.running? number).any (!·.isOver) then (f.changeLink number (·.push i), true) else (f, false)

end MarketFeed
