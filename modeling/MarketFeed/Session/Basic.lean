import MarketFeed.Config.Stream
import MarketFeed.Log
import MarketFeed.Session.Book
import MarketFeed.Session.Phase

/-!
# Sessions

A session is what a connection's task and the callers on other threads share: a book of
subscriptions, a phase, and two requests that callers leave for the task. Callers stage
subscriptions, ask what is confirmed and ask for a close; each of these is one step, between two
steps of the task.
-/

namespace MarketFeed

/-- What task and callers share. -/
structure Session where
  id : Nat
  settings : StreamConfig
  phase : Phase
  book : Book
  /-- Somebody asked for a close, or the task has begun to end. -/
  closing : Bool
  /-- A subscription was staged, and the task has not noticed yet. -/
  wake : Bool
  /-- A close was asked for, and the task has not noticed yet. -/
  closeAsked : Bool
  deriving DecidableEq, Repr

/-- What callers ask of a session. -/
inductive Call
  | subscribe (s : Subscription)
  | close
  deriving DecidableEq, Repr

namespace Session

def new (id : Nat) (settings : StreamConfig) : Session :=
  ⟨id, settings, .created, .new settings.capacity, false, false, false⟩

/-- The beginning of the log lines of a session. -/
def title (s : Session) : String := s!"Session {s.id}"

def describe (s : Session) : String :=
  "Session \x7b id: " ++ toString s.id ++ ", state: " ++ s.phase.name ++ ", .. \x7d"

/-- Whether a session takes subscriptions and has not begun to end. -/
def isAlive (s : Session) : Bool := !s.closing && s.phase != .closed && s.book.accepting

def isSubscribed (s : Session) (sub : Subscription) : Bool := s.book.isConfirmed sub

def period (s : Session) : Nat := s.settings.heartbeatMs * Span.nanosPerMilli

def enter (s : Session) (phase : Phase) : Session := { s with phase }

/-- What is said of a subscription that there is no room for. -/
def fullLine (sub : Subscription) : LogLine :=
  .warning s!"Pending queue full, dropping subscription {sub.canonical}"

/-- Stage a subscription; the lines that this logs, and false if the book has retired. -/
def subscribe (s : Session) (sub : Subscription) : Session × List LogLine × Bool :=
  match s.book.stage sub with
  | (book, .staged) => ({ s with book, wake := true }, [], true)
  | (_, .queueFull) => (s, [fullLine sub], true)
  | (_, .closed) => (s, [], false)
  | (_, _) => (s, [], true)

def close (s : Session) : Session :=
  if s.closing then s else { s with closing := true, closeAsked := true }

def obey (s : Session) : Call → Session × List LogLine
  | .subscribe sub =>
    let (s, lines, _) := s.subscribe sub
    (s, lines)
  | .close => (s.close, [])

/-- Do what callers ask, one after the other. -/
def obeyAll (s : Session) : List Call → Session × List LogLine
  | [] => (s, [])
  | c :: rest =>
    let (s, lines) := s.obey c
    let (s, more) := s.obeyAll rest
    (s, lines ++ more)

/-- Stage the first subscriptions, which a new task is going to request. -/
def stageAll (s : Session) : List Subscription → Session × List LogLine
  | [] => (s, [])
  | sub :: rest =>
    let (book, outcome) := s.book.stage sub
    let (s, lines) := stageAll { s with book } rest
    (s, if outcome = .queueFull then fullLine sub :: lines else lines)

end Session

end MarketFeed
