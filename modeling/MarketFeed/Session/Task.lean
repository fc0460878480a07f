import MarketFeed.Message
import MarketFeed.Session.Basic
import MarketFeed.Session.Heartbeat

/-!
# The task of a session

A task makes the connection, requests what waits in the book, and answers to what comes: a close, a
tick of the heartbeat, a staged subscription, a frame. It stands at a point between two steps;
callers may act on the session at every such point. `Task.step` is one step, given what the task has
been waiting for.
-/

namespace MarketFeed

/-- A write on its way. -/
inductive Write
  | request (subscriptions : List Subscription)
  | ping
  | pong (payload : List UInt8)
  deriving DecidableEq, Repr

def Write.frame : Write → Frame
  | .request subscriptions => .subscribing subscriptions
  | .ping => .ping []
  | .pong payload => .pong payload

/-- Where a task stands. -/
inductive Point
  | fresh
  /-- A stage is next, unless somebody has asked for a close. -/
  | before (stage : Stage)
  /-- Nobody had asked for a close; the phase of the stage is next. -/
  | cleared (stage : Stage)
  /-- The phase tells of the stage, which is next to begin. -/
  | entered (stage : Stage)
  /-- A stage is on its way. -/
  | during (stage : Stage)
  /-- All stages are done. -/
  | connected
  /-- What waits in the book is next to be requested. -/
  | flushing
  | writing (w : Write)
  /-- Waiting for whatever comes first. -/
  | idle
  /-- An event is with the receiver of data. -/
  | delivering (event : DataEvent)
  /-- A message has been dealt with. -/
  | settling
  /-- Nothing waits; the book may retire. -/
  | retiring
  /-- Something may wait. -/
  | waking
  /-- The end has begun. -/
  | ending
  /-- The book is next to retire. -/
  | draining
  /-- The transport is next to be closed, if it is connected. -/
  | parting
  | closing
  | finished
  /-- The task has broken down. -/
  | broken
  deriving Repr

def Point.isLast : Point → Bool
  | .finished | .broken => true
  | _ => false

/-- A task: where its connection leads, where it stands, and its heartbeat. -/
structure Task where
  endpoint : Endpoint
  point : Point
  heartbeat : Heartbeat
  /-- When the heartbeat ticks next. -/
  deadline : Nat
  deriving Repr

/-- What a task sees of its surroundings in a step. -/
structure View where
  now : Nat
  /-- Whether the transport says that it is connected. -/
  isOpen : Bool
  deriving Repr

/-- What makes a task go on. -/
inductive Signal
  /-- The task waits for nothing. -/
  | go
  /-- A stage, a write or a close is done. -/
  | outcome (r : Except FeedError Unit)
  /-- The receiver of data is done. -/
  | delivered (panicked : Bool)
  | closeAsked
  | tick
  | wake
  | incoming (i : Incoming)

/-- What others see of a step. -/
inductive Effect
  | log (line : LogLine)
  | enter (phase : Phase)
  | begin (stage : Stage)
  | write (frame : Frame)
  | deliver (event : DataEvent)
  | close
  deriving Repr

/-- What a step leads to. -/
structure Turn where
  session : Session
  task : Task
  effects : List Effect
  deriving Repr

namespace Task

def new (endpoint : Endpoint) : Task := ⟨endpoint, .fresh, .new 0, 0⟩

def goTo (t : Task) (point : Point) : Task := { t with point }

/-- How late a tick may be and still keep its place in time. -/
def tolerance : Nat := 5 * Span.nanosPerMilli

/-- When the tick after this one comes. After a late tick the interval begins anew. -/
def nextDeadline (t : Task) (period now : Nat) : Nat :=
  if t.deadline + tolerance < now then now + period else t.deadline + period

/-- An error, told with the name of what failed. A timeout stays a timeout. -/
def failure (label : String) : FeedError → FeedError
  | .timeout reason => .timeout s!"{label}: {reason}"
  | error => .network s!"{label} failed: {error.message}"

/-- What the write of a request is called in messages. -/
def requestLabel : String := "subscribe write"

/-- Begin to end, with something to log first. -/
def leave (s : Session) (t : Task) (effects : List Effect) : Turn :=
  ⟨s, t.goTo .ending, effects⟩

def finish (s : Session) (t : Task) (effects : List Effect) : Turn :=
  ⟨s.enter .closed, t.goTo .finished,
    effects ++ [.enter .closed, .log (.info s!"{s.title} closed")]⟩

def proceed (view : View) (s : Session) (t : Task) : Turn :=
  match t.point with
  | .fresh =>
    ⟨s, t.goTo (.before .resolve),
      [.log (.info s!"{s.title} connecting to {t.endpoint.host}:{t.endpoint.port}")]⟩
  -- a close that comes after this look is seen before the next stage
  | .before stage => if s.closing then leave s t [] else ⟨s, t.goTo (.cleared stage), []⟩
  | .cleared stage => ⟨s.enter stage.phase, t.goTo (.entered stage), [.enter stage.phase]⟩
  | .entered stage => ⟨s, t.goTo (.during stage), [.begin stage]⟩
  | .connected =>
    if s.closing then leave s t []
    else if s.period = 0 then ⟨s, t.goTo .broken, []⟩
    else
      let deadline := view.now + s.period
      ⟨s, { t with point := .flushing, heartbeat := .new s.period, deadline }, []⟩
  | .flushing =>
    match s.book.take with
    | (book, []) => ⟨{ s with book }.enter .streaming, t.goTo .idle, [.enter .streaming]⟩
    | (book, subscriptions) =>
      let w := Write.request subscriptions
      ⟨{ s with book }.enter .subscribing, t.goTo (.writing w),
        [.enter .subscribing, .write w.frame]⟩
  | .settling => ⟨s, t.goTo (if s.book.hasPending then .waking else .retiring), []⟩
  | .waking => ⟨s, t.goTo (if s.book.hasPending then .flushing else .idle), []⟩
  | .retiring =>
    match s.book.retireIfIdle with
    | (book, true) =>
      leave { s with book } t [.log (.warning s!"{s.title}: no subscriptions, closing")]
    | (book, false) => ⟨{ s with book }, t.goTo .idle, []⟩
  | .ending => ⟨{ s with closing := true }, t.goTo .draining, []⟩
  | .draining => ⟨{ s with book := s.book.retire }, t.goTo .parting, []⟩
  | .parting =>
    let s := s.enter .closing
    if view.isOpen then ⟨s, t.goTo .closing, [.enter .closing, .close]⟩
    else finish s t [.enter .closing]
  | _ => ⟨s, t, []⟩

def afterStage (s : Session) (t : Task) (stage : Stage) : Except FeedError Unit → Turn
  | .ok _ =>
    match stage.next? with
    | some next => ⟨s, t.goTo (.before next), []⟩
    | none => ⟨s, t.goTo .connected, []⟩
  | .error error =>
    leave s t [.log (.error s!"{s.title}: {(failure stage.label error).message}")]

def afterWrite (view : View) (s : Session) (t : Task) : Write → Except FeedError Unit → Turn
  | .request _, .ok _ => ⟨s.enter .streaming, t.goTo .idle, [.enter .streaming]⟩
  | .request _, .error error =>
    leave s t [.log (.error s!"{s.title}: {(failure requestLabel error).message}")]
  | .ping, .ok _ => ⟨s, { t with point := .idle, heartbeat := t.heartbeat.recordPing view.now }, []⟩
  | .ping, .error error => leave s t [.log (.error s!"{s.title}: ping failed: {error.message}")]
  | .pong _, .ok _ => ⟨s, t.goTo .idle, []⟩
  | .pong _, .error error => leave s t [.log (.error s!"{s.title}: pong failed: {error.message}")]

def afterClose (s : Session) (t : Task) : Except FeedError Unit → Turn
  | .ok _ => finish s t []
  | .error error => finish s t [.log (.warning s!"{s.title}: close failed: {error.message}")]

/-- A tick of the heartbeat: a warning if the last ping is expired, and the next ping. -/
def beat (view : View) (s : Session) (t : Task) : Turn :=
  let warnings :=
    if t.heartbeat.isExpired then
      [Effect.log (.warning
        s!"{s.title}: ping expired, no pong within {Span.text t.heartbeat.interval}")]
    else []
  let t := { t with deadline := t.nextDeadline s.period view.now }
  if view.isOpen then ⟨s, t.goTo (.writing .ping), warnings ++ [.write Write.ping.frame]⟩
  else ⟨s, t, warnings⟩

def apply (s : Session) : Ack → Session × LogLine
  | .subscribed sub =>
    ({ s with book := s.book.confirm sub }, .info s!"subscribed: {sub.canonical}")
  | .unsubscribed sub =>
    ({ s with book := s.book.remove sub }, .info s!"unsubscribed: {sub.canonical}")
  | .refused code message =>
    (s, .error ("Subscription error " ++ code.getD "?" ++ ": " ++ message.getD ""))

/-- Take a message, or what a frame holds in the place of one. -/
def takeMessage (s : Session) (t : Task) : Except MessageFault (Option Message) → Turn
  | .ok none => ⟨s, t.goTo .settling, []⟩
  | .ok (some (.control ack)) =>
    let (s, line) := apply s ack
    ⟨s, t.goTo .settling, [.log line]⟩
  | .ok (some (.data event)) => ⟨s, t.goTo (.delivering event), [.deliver event]⟩
  | .error fault =>
    if fault.isFatal then leave s t [.log (.error s!"{s.title}: {fault.message}")]
    else
      ⟨s, t.goTo .settling,
        [.log (.warning s!"{s.title}: dropping message: {fault.toError.message}")]⟩

def takeFrame (view : View) (s : Session) (t : Task) : Frame → Turn
  | .ping payload =>
    let w := Write.pong payload
    ⟨s, t.goTo (.writing w), [.write w.frame]⟩
  | .pong _ => ⟨s, { t with heartbeat := t.heartbeat.recordPong view.now }, []⟩
  | .close reason =>
    leave s t
      [.log (.info s!"{s.title}: server closed the connection: {CloseReason.describe reason}")]
  | .raw _ => ⟨s, t, []⟩
  | f => takeMessage s t (Message.ofFrame f)

def takeIncoming (view : View) (s : Session) (t : Task) : Incoming → Turn
  | .ended => leave s t [.log (.info s!"{s.title}: stream ended by remote")]
  | .failed error => leave s t [.log (.error s!"{s.title}: read failed: {error.message}")]
  | .frame f => takeFrame view s t f

/-- Go on after the receiver of data, whatever became of it. -/
def afterDelivery (s : Session) (t : Task) (event : DataEvent) (panicked : Bool) : Turn :=
  ⟨s, t.goTo .settling,
    if panicked then
      [.log (.error s!"{s.title}: data callback panicked on {event.channel}:{event.instId}")]
    else []⟩

/-- One step. A signal that the task does not wait for changes nothing. -/
def step (view : View) (s : Session) (t : Task) (signal : Signal) : Turn :=
  match t.point, signal with
  | .during stage, .outcome r => afterStage s t stage r
  | .writing w, .outcome r => afterWrite view s t w r
  | .closing, .outcome r => afterClose s t r
  | .delivering event, .delivered panicked => afterDelivery s t event panicked
  | .idle, .closeAsked =>
    if s.closeAsked then leave { s with closeAsked := false } t [] else ⟨s, t, []⟩
  | .idle, .tick => if t.deadline ≤ view.now then beat view s t else ⟨s, t, []⟩
  | .idle, .wake =>
    if s.wake then ⟨{ s with wake := false }, t.goTo .waking, []⟩ else ⟨s, t, []⟩
  | .idle, .incoming i => takeIncoming view s t i
  | _, .go => proceed view s t
  | _, _ => ⟨s, t, []⟩

end Task

/-- A task for the first subscriptions of a session; there has to be one at least. -/
def Session.begin (s : Session) (endpoint : Endpoint) (subscriptions : List Subscription) :
    Except FeedError (Session × List LogLine × Task) :=
  if subscriptions.isEmpty then
    .error (.invalidParameters "a session needs at least one initial subscription")
  else
    let (s, lines) := s.stageAll subscriptions
    .ok (s, lines, .new endpoint)

end MarketFeed
