/-!
# Logging

Lines with a severity. A logger hands each line to its listener; loggers that were cloned from each
other share one listener.
-/

namespace MarketFeed

/-- How much a log line matters. -/
inductive Severity
  | trace
  | debug
  | info
  | warning
  | error
  | critical
  deriving DecidableEq, Repr

def Severity.name : Severity → String
  | .trace => "trace"
  | .debug => "debug"
  | .info => "info"
  | .warning => "warning"
  | .error => "error"
  | .critical => "critical"

def Severity.all : List Severity := [.trace, .debug, .info, .warning, .error, .critical]

/-- A log line. -/
structure LogLine where
  severity : Severity
  message : String
  deriving DecidableEq, Repr

def LogLine.info (message : String) : LogLine := ⟨.info, message⟩

def LogLine.warning (message : String) : LogLine := ⟨.warning, message⟩

def LogLine.error (message : String) : LogLine := ⟨.error, message⟩

/-- Who hears the lines of a logger. -/
structure Listener where
  tag : String
  /-- Takes itself off the logger when it hears a line. -/
  once : Bool
  deriving DecidableEq, Repr

/-- A line as a listener heard it. -/
structure Heard where
  tag : String
  line : LogLine
  deriving DecidableEq, Repr

/-- Loggers in slots. Each slot names the cell of its listener, and clones name the same cell. -/
structure Loggers where
  slots : List Nat
  cells : List (Option Listener)
  deriving Repr

namespace Loggers

def single : Loggers := ⟨[0], [none]⟩

def cell (l : Loggers) (slot : Nat) : Nat := l.slots.getD slot 0

def listener? (l : Loggers) (slot : Nat) : Option Listener := (l.cells.getD (l.cell slot) none)

/-- Put a listener on a slot, or take it off. -/
def listen (l : Loggers) (slot : Nat) (listener : Option Listener) : Loggers :=
  { l with cells := l.cells.set (l.cell slot) listener }

/-- Append a slot that shares its listener with another. -/
def clone (l : Loggers) (slot : Nat) : Loggers := { l with slots := l.slots ++ [l.cell slot] }

/-- Append a slot with a listener of its own. -/
def fresh (l : Loggers) : Loggers := ⟨l.slots ++ [l.cells.length], l.cells ++ [none]⟩

def log (l : Loggers) (slot : Nat) (line : LogLine) : Loggers × List Heard :=
  match l.listener? slot with
  | none => (l, [])
  | some listener =>
    (if listener.once then l.listen slot none else l, [⟨listener.tag, line⟩])

def describe (l : Loggers) (slot : Nat) : String :=
  "Logger \x7b has_callback: " ++ toString (l.listener? slot).isSome ++ " \x7d"

end Loggers

end MarketFeed
