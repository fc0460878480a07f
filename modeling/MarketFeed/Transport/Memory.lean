import MarketFeed.Transport.Basic

/-!
# A transport in memory

Frames come from a queue that the remote end fills, and every frame that is written is kept. All
stages succeed unless a fault is set; faults stand for what a network may do.
-/

namespace MarketFeed

/-- What goes wrong. -/
structure Faults where
  /-- Stages that fail. -/
  stages : List (Stage × FeedError)
  /-- Every write fails with this. -/
  write? : Option FeedError
  /-- What a close reports after it has closed. -/
  close? : Option FeedError
  /-- The transport says that it is not connected. -/
  hidden : Bool
  deriving Repr

def Faults.none : Faults := ⟨[], .none, .none, false⟩

/-- A transport in memory, with what its remote end can see of it. -/
structure Memory where
  /-- What waits to be read. -/
  inbox : List Incoming
  /-- All frames written so far. -/
  sent : List Frame
  isOpen : Bool
  isClosed : Bool
  /-- Whether the remote end is still there. -/
  isAttached : Bool
  connectError? : Option String
  faults : Faults
  deriving Repr

namespace Memory

def new (connectError? : Option String) (faults : Faults) : Memory :=
  ⟨[], [], false, false, true, connectError?, faults⟩

def push (m : Memory) (i : Incoming) : Memory := { m with inbox := m.inbox ++ [i] }

def detach (m : Memory) : Memory := { m with isAttached := false }

/-- The texts among the frames written so far. -/
def sentTexts (m : Memory) : List String :=
  m.sent.filterMap fun
    | .text s => some s
    | _ => none

def perform (stage : Stage) (m : Memory) : Except FeedError Unit × Memory :=
  match m.faults.stages.lookup stage, stage, m.connectError? with
  | some error, _, _ => (.error error, m)
  | none, .connect, some reason => (.error (.network reason), m)
  | none, .upgrade, _ => (.ok (), { m with isOpen := true })
  | none, _, _ => (.ok (), m)

def write (f : Frame) (m : Memory) : Except FeedError Unit × Memory :=
  match m.faults.write? with
  | some error => (.error error, m)
  | none =>
    if m.isOpen then (.ok (), { m with sent := m.sent ++ [f] }) else (.error .notConnected, m)

/-- The first of what waits; the end, once the remote end has gone. -/
def read (m : Memory) : Option (Incoming × Memory) :=
  match m.inbox with
  | i :: rest => some (i, { m with inbox := rest })
  | [] => if m.isAttached then none else some (.ended, { m with isOpen := false })

def close (m : Memory) : Except FeedError Unit × Memory :=
  (match m.faults.close? with
    | some error => .error error
    | none => .ok (),
    { m with isOpen := false, isClosed := true })

def transport : Transport Memory where
  perform _ := perform
  write := write
  read := read
  close := close
  isOpen m := m.isOpen && !m.faults.hidden
  backlog m := m.inbox.length + 1

end Memory

end MarketFeed
