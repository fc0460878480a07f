import MarketFeed.WebSocket.Wire

/-!
# Sockets

One end of a WebSocket connection. It cuts the bytes that arrive into frames and joins frames to
messages, answers pings and closes on its own account, and keeps to the order in which a connection
ends: a close from one side, its echo from the other, then nothing.
-/

namespace MarketFeed

/-- How far a connection has come towards its end. -/
inductive Standing
  | active
  | closedByUs
  | closedByPeer
  /-- The peer has echoed our close. -/
  | closeEchoed
  | over
  deriving DecidableEq, Repr

/-- Why a socket cannot go on. -/
inductive SocketFault
  | wire (fault : WireFault)
  | reset
  | sendAfterClosing
  | receivedAfterClosing
  | reservedBits
  | maskedFromServer
  | unmaskedFromClient
  | fragmentedControl
  | controlTooBig
  | strayContinuation
  | expectedContinuation (found : Opcode)
  | shortClose
  | notText
  /-- The other side has dropped the connection. -/
  | cut
  | closed
  deriving DecidableEq, Repr

namespace SocketFault

def violation (reason : String) : String := s!"WebSocket protocol error: {reason}"

def message : SocketFault → String
  | .wire (.reservedOpcode n) => violation s!"Encountered invalid opcode: {n}"
  | .wire (.tooLong size limit) => s!"Space limit exceeded: Message too long: {size} > {limit}"
  | .reset => violation "Connection reset without closing handshake"
  | .sendAfterClosing => violation "Sending after closing is not allowed"
  | .receivedAfterClosing => violation "Remote sent after having closed"
  | .reservedBits => violation "Reserved bits are non-zero"
  | .maskedFromServer => violation "Received a masked frame from server"
  | .unmaskedFromClient => violation "Received an unmasked frame from client"
  | .fragmentedControl => violation "Fragmented control frame"
  | .controlTooBig => violation "Control frame too big (payload must be 125 bytes or less)"
  | .strayContinuation => violation "Continue frame but nothing to continue"
  | .expectedContinuation found =>
    violation ("While waiting for more fragments received: "
      ++ if found = .text then "TEXT" else "BINARY")
  | .shortClose => violation "Invalid close sequence"
  | .notText => "UTF-8 encoding error"
  | .cut => "IO error: unexpected EOF"
  | .closed => "Trying to work with closed connection"

end SocketFault

/-- A message of which some parts have arrived. -/
structure Parts where
  isText : Bool
  bytes : List UInt8
  deriving DecidableEq, Repr

/-- One end of a connection. -/
structure Socket where
  isServer : Bool
  standing : Standing
  /-- An answer that goes out before anything else is read. -/
  answer? : Option WireFrame
  parts? : Option Parts
  /-- What has arrived and is not read yet. -/
  inbox : List UInt8
  /-- What has been written and is not on its way yet. -/
  outbox : List UInt8
  /-- The other side has dropped the connection: nothing more arrives. -/
  isCut : Bool
  deriving Repr

namespace Socket

def new (isServer : Bool) : Socket := ⟨isServer, .active, none, none, [], [], false⟩

def canReceive (s : Socket) : Bool :=
  match s.standing with
  | .active | .closedByUs => true
  | _ => false

def arrive (s : Socket) (bytes : List UInt8) : Socket := { s with inbox := s.inbox ++ bytes }

def put (s : Socket) (f : WireFrame) : Socket :=
  { s with outbox := s.outbox ++ { f with isMasked := !s.isServer }.bytes }

/-- Let an answer wait, unless a close waits already. -/
def setAnswer (s : Socket) (f : WireFrame) : Socket :=
  match s.answer? with
  | some g => if g.opcode = .pong then { s with answer? := some f } else s
  | none => { s with answer? := some f }

/-- Write the answer that waits. A server that has nothing to wait for is done then. -/
def flush (s : Socket) : Except SocketFault Unit × Socket :=
  let s := match s.answer? with
    | some f => { s.put f with answer? := none }
    | none => s
  if s.isCut then (.error .cut, s)
  else if s.isServer && !s.canReceive then (.error .closed, { s with standing := .over })
  else (.ok (), s)

/-- Send a frame. A pong takes the place of an answer that waits; after a close nothing is sent. -/
def send (s : Socket) (f : Frame) : Except SocketFault Unit × Socket :=
  match s.standing, f with
  | .over, _ => (.error .closed, s)
  | .active, .pong _ => (s.setAnswer f.wire).flush
  | .active, .close _ => ({ s with standing := .closedByUs }.put f.wire).flush
  | .active, _ => (s.put f.wire).flush
  | _, _ => (.error .sendAfterClosing, s)

def readClose (payload : List UInt8) : Except SocketFault (Option CloseReason) :=
  match payload with
  | [] => .ok none
  | [_] => .error .shortClose
  | a :: b :: rest =>
    match Utf8.decode rest with
    | .ok reason => .ok (some ⟨WireFrame.ofBigEndian [a, b], reason⟩)
    | .error _ => .error .notText

def isAllowedCode (n : Nat) : Bool :=
  (3000 ≤ n && n ≤ 4999)
    || (1000 ≤ n && n ≤ 1015 && !([1004, 1005, 1006, 1014, 1015] : List Nat).contains n)

/-- A close as it counts: one with a forbidden code is a violation. -/
def admitted : Option CloseReason → Option CloseReason
  | none => none
  | some r => if isAllowedCode r.code then some r else some ⟨1002, "Protocol violation"⟩

def complete (p : Parts) : Except SocketFault Frame :=
  if p.isText then
    match Utf8.decode p.bytes with
    | .ok s => .ok (.text s)
    | .error _ => .error .notText
  else .ok (.binary p.bytes)

/-- Whether parts may still become a message. -/
def mayComplete (p : Parts) : Bool :=
  !p.isText ||
    match Utf8.decode p.bytes with
    | .error (.invalid _ _) => false
    | _ => true

def takePart (s : Socket) (p : Parts) (isFinal : Bool) :
    Except SocketFault (Option Frame) × Socket :=
  if !mayComplete p then (.error .notText, s)
  else if isFinal then ((complete p).map some, { s with parts? := none })
  else (.ok none, { s with parts? := some p })

/-- Take a frame that controls the connection. -/
def takeControl (s : Socket) (f : WireFrame) : Except SocketFault (Option Frame) × Socket :=
  if !f.isFinal then (.error .fragmentedControl, s)
  else if 125 < f.payload.length then (.error .controlTooBig, s)
  else
    match f.opcode with
    | .ping =>
      (.ok (some (.ping f.payload)),
        if s.standing = .active then s.setAnswer (.whole .pong f.payload) else s)
    | .close =>
      match readClose f.payload with
      | .error fault => (.error fault, s)
      | .ok reason =>
        if s.standing = .active then
          let reason := admitted reason
          (.ok (some (.close reason)),
            { s with standing := .closedByPeer }.setAnswer (Frame.close reason).wire)
        else (.ok (some (.close reason)), { s with standing := .closeEchoed })
    | _ => (.ok (some (.pong f.payload)), s)

/-- Take a frame; a message is there when its last part is. -/
def take (s : Socket) (f : WireFrame) : Except SocketFault (Option Frame) × Socket :=
  if !s.canReceive then (.error .receivedAfterClosing, s)
  else if f.reserved ≠ 0 then (.error .reservedBits, s)
  else if s.isServer && !f.isMasked then (.error .unmaskedFromClient, s)
  else if !s.isServer && f.isMasked then (.error .maskedFromServer, s)
  else if f.opcode.isControl then s.takeControl f
  else
    match f.opcode, s.parts? with
    | .continuation, none => (.error .strayContinuation, s)
    | .continuation, some p => s.takePart { p with bytes := p.bytes ++ f.payload } f.isFinal
    | opcode, some _ => (.error (.expectedContinuation opcode), s)
    | opcode, none => s.takePart ⟨opcode = .text, f.payload⟩ f.isFinal

/-- What a read brings: a message, the end, or a fault. -/
abbrev Arrival := Except SocketFault (Option Frame)

def atEnd (s : Socket) : Arrival × Socket :=
  (match s.standing with
    | .closedByPeer | .closeEchoed => .ok none
    | _ => .error .reset,
    { s with standing := .over })

/-- Read until there is a message, through at most `fuel` frames; nothing as long as more has to
arrive. -/
def readWithin : Nat → Socket → Option (Arrival × Socket)
  | 0, _ => none
  | fuel + 1, s =>
    if s.standing = .over then some (.ok none, s)
    else
      match if s.answer?.isSome then s.flush else (.ok (), s) with
      | (.error .closed, s) => some (.ok none, s)
      | (.error fault, s) => some (.error fault, s)
      | (.ok _, s) =>
        if s.isServer && !s.canReceive then some (.ok none, { s with standing := .over })
        else
          match WireFrame.read s.inbox with
          | .error fault => some (.error (.wire fault), s)
          | .ok none => if s.isCut then some s.atEnd else none
          | .ok (some (f, rest)) =>
            match { s with inbox := rest }.take f with
            | (.error fault, s) => some (.error fault, s)
            | (.ok none, s) => readWithin fuel s
            | (.ok (some message), s) => some (.ok (some message), s)

/-- Read a message. Every frame has two bytes at least. -/
def read (s : Socket) : Option (Arrival × Socket) := readWithin (s.inbox.length + 2) s

end Socket

/-- Both ends of a connection. -/
structure Line where
  client : Socket
  server : Socket
  deriving Repr

namespace Line

def new : Line := ⟨.new false, .new true⟩

/-- Carry over what was written on both sides. -/
def carry (l : Line) : Line :=
  ⟨{ l.client.arrive l.server.outbox with outbox := [] },
    { l.server.arrive l.client.outbox with outbox := [] }⟩

def atClient {α : Type} (l : Line) (use : Socket → α × Socket) : α × Line :=
  let (a, client) := use l.client
  (a, { l with client }.carry)

def atServer {α : Type} (l : Line) (use : Socket → α × Socket) : α × Line :=
  let (a, server) := use l.server
  (a, { l with server }.carry)

def dropClient (l : Line) : Line := { l with server := { l.server with isCut := true } }

def dropServer (l : Line) : Line := { l with client := { l.client with isCut := true } }

end Line

end MarketFeed
