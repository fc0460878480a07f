import MarketFeed.Transport.Address
import MarketFeed.Transport.Basic
import MarketFeed.WebSocket.Upgrade

/-!
# Transports over a network

The transport that a feed uses in earnest. What the network does is a parameter: it may look hosts
up, connect, secure a connection and turn it into a WebSocket in any way it likes, and what it says of
its failures is its own. The transport
holds each connection in one of three places, by how far it has come: a stage takes it from the
place before and, if the stage succeeds, puts it into the next. Whatever leaves its place otherwise
is let go of.
-/

namespace MarketFeed

abbrev Connection := Nat

/-- What becomes of something that has a time limit. -/
inductive Outcome (α : Type)
  | done (value : α)
  | failed (reason : String)
  | timedOut
  deriving DecidableEq, Repr

/-- A network whose states are values of a type. -/
structure Network (ω : Type) where
  lookup : String → Nat → ω → Except String (List SocketAddress) × ω
  connect : SocketAddress → ω → Outcome Connection × ω
  /-- Set up what secures connections. -/
  prepare : ω → Except String Unit × ω
  /-- Secure a connection to a host. -/
  secure : String → Connection → ω → Outcome Unit × ω
  upgrade : UpgradeRequest → Connection → ω → Outcome Unit × ω
  write : Frame → Connection → ω → Except String Unit × ω
  /-- A frame, or the end; nothing while nothing has arrived. -/
  read : Connection → ω → Option (Except String (Option Frame) × ω)
  /-- Say that no more will be written. -/
  shut : Connection → ω → Except String Unit × ω
  /-- Let go of a connection. -/
  release : Connection → ω → ω
  /-- No more than so many reads bring something before the other side acts again. -/
  backlog : Connection → ω → Nat

/-- A transport over a network, with the network. -/
structure NetworkLink (ω : Type) where
  host : String
  port : Nat
  addresses : List SocketAddress
  /-- A connection that is not secure yet. -/
  plain? : Option Connection
  /-- A secure connection. -/
  secured? : Option Connection
  /-- A WebSocket. -/
  stream? : Option Connection
  isOpen : Bool
  world : ω
  deriving Repr

namespace NetworkLink

variable {ω : Type}

def new (world : ω) : NetworkLink ω := ⟨"", 0, [], none, none, none, false, world⟩

def withWorld (l : NetworkLink ω) (world : ω) : NetworkLink ω := { l with world }

def release (net : Network ω) (held? : Option Connection) (l : NetworkLink ω) : NetworkLink ω :=
  match held? with
  | some c => l.withWorld (net.release c l.world)
  | none => l

/-- Look up a host. What was known before stays known if that fails. -/
def resolve (net : Network ω) (host : String) (port : Nat) (l : NetworkLink ω) :
    Except FeedError Unit × NetworkLink ω :=
  match net.lookup host port l.world with
  | (.error reason, world) =>
    (.error (.network s!"Failed to resolve {host}: {reason}"), l.withWorld world)
  | (.ok [], world) => (.error (.network s!"No addresses found for {host}"), l.withWorld world)
  | (.ok addresses, world) => (.ok (), { l with host, port, addresses, world })

/-- Try addresses in their order, up to the first that answers; the last failure counts. -/
def connectFirst (net : Network ω) :
    List SocketAddress → FeedError → ω → Except FeedError Connection × ω
  | [], error, world => (.error error, world)
  | a :: rest, _, world =>
    let written := a.text
    match net.connect a world with
    | (.done c, world) => (.ok c, world)
    | (.failed reason, world) =>
      connectFirst net rest (.network s!"Failed to connect to {written}: {reason}") world
    | (.timedOut, world) =>
      connectFirst net rest (.timeout s!"TCP connect to {written} timed out") world

def connect (net : Network ω) (l : NetworkLink ω) : Except FeedError Unit × NetworkLink ω :=
  match connectFirst net l.addresses (.network "No resolved addresses to connect to") l.world with
  | (.error error, world) => (.error error, l.withWorld world)
  | (.ok c, world) => (.ok (), { l with plain? := some c, world }.release net l.plain?)

def secure (net : Network ω) (l : NetworkLink ω) : Except FeedError Unit × NetworkLink ω :=
  match l.plain? with
  | none => (.error (.network "TLS handshake without a TCP connection"), l)
  | some c =>
    let l := { l with plain? := none }
    match net.prepare l.world with
    | (.error reason, world) =>
      (.error (.network s!"Failed to build TLS connector: {reason}"),
        (l.withWorld world).release net (some c))
    | (.ok _, world) =>
      match net.secure l.host c world with
      | (.done _, world) => (.ok (), { l with secured? := some c, world }.release net l.secured?)
      | (.failed reason, world) =>
        (.error (.network s!"TLS handshake failed: {reason}"),
          (l.withWorld world).release net (some c))
      | (.timedOut, world) =>
        (.error (.timeout "TLS handshake timeout"), (l.withWorld world).release net (some c))

def upgrade (net : Network ω) (path : String) (l : NetworkLink ω) :
    Except FeedError Unit × NetworkLink ω :=
  match l.secured? with
  | none => (.error (.network "WebSocket handshake without a TLS stream"), l)
  | some c =>
    let l := { l with secured? := none }
    match UpgradeRequest.of l.host l.port path with
    | .error fault =>
      let url := s!"wss://{l.host}:{l.port}{path}"
      (.error (.invalidParameters s!"Invalid WebSocket URL {url}: {fault.message}"),
        l.release net (some c))
    | .ok request =>
      match net.upgrade request c l.world with
      | (.done _, world) =>
        (.ok (), { l with stream? := some c, isOpen := true, world }.release net l.stream?)
      | (.failed reason, world) =>
        (.error (.network s!"WebSocket handshake failed: {reason}"),
          (l.withWorld world).release net (some c))
      | (.timedOut, world) =>
        (.error (.timeout "WebSocket handshake timeout"), (l.withWorld world).release net (some c))

def perform (net : Network ω) (endpoint : Endpoint) :
    Stage → NetworkLink ω → Except FeedError Unit × NetworkLink ω
  | .resolve => resolve net endpoint.host endpoint.port
  | .connect => connect net
  | .tls => secure net
  | .upgrade => upgrade net endpoint.path

/-- The WebSocket, if the transport is connected. -/
def openStream (l : NetworkLink ω) : Except FeedError Connection :=
  if l.isOpen then
    match l.stream? with
    | some c => .ok c
    | none => .error (.network "WebSocket stream not available")
  else .error .notConnected

/-- Write a frame. After a failure the transport is not connected any more. -/
def write (net : Network ω) (f : Frame) (l : NetworkLink ω) :
    Except FeedError Unit × NetworkLink ω :=
  match l.openStream with
  | .error error => (.error error, l)
  | .ok c =>
    match net.write f c l.world with
    | (.ok _, world) => (.ok (), l.withWorld world)
    | (.error reason, world) =>
      (.error (.network s!"Failed to send WebSocket message: {reason}"),
        { l with isOpen := false, world })

/-- Whether a frame says that the other side closes. -/
def isClose : Frame → Bool
  | .close _ => true
  | _ => false

/-- Read. After a close, the end or a failure the transport is not connected any more. -/
def read (net : Network ω) (l : NetworkLink ω) : Option (Incoming × NetworkLink ω) :=
  match l.openStream with
  | .error error => some (.failed error, l)
  | .ok c =>
    (net.read c l.world).map fun
      | (.ok (some f), world) => (.frame f, { l with isOpen := !isClose f, world })
      | (.ok none, world) => (.ended, { l with isOpen := false, world })
      | (.error reason, world) =>
        (.failed (.network s!"WebSocket error: {reason}"), { l with isOpen := false, world })

/-- Close the WebSocket, if the transport is connected. -/
def shut (net : Network ω) (l : NetworkLink ω) : Except FeedError Unit × NetworkLink ω :=
  match l.openStream with
  | .error _ => (.ok (), l)
  | .ok c =>
    match net.shut c l.world with
    | (.ok _, world) => (.ok (), l.withWorld world)
    | (.error reason, world) =>
      (.error (.network s!"WebSocket close failed: {reason}"), l.withWorld world)

def reset (net : Network ω) (l : NetworkLink ω) : NetworkLink ω :=
  let empty := { l with isOpen := false, stream? := none, secured? := none, plain? := none }
  ((empty.release net l.stream?).release net l.secured?).release net l.plain?

/-- Close; nothing is held afterwards, whatever becomes of it. -/
def close (net : Network ω) (l : NetworkLink ω) : Except FeedError Unit × NetworkLink ω :=
  let (result, l) := l.shut net
  (result, l.reset net)

/-- No more than so many reads bring something. -/
def backlog (net : Network ω) (l : NetworkLink ω) : Nat :=
  match l.stream? with
  | some c => net.backlog c l.world + 1
  | none => 1

def transport (net : Network ω) : Transport (NetworkLink ω) where
  perform := perform net
  write := write net
  read := read net
  close := close net
  isOpen := isOpen
  backlog := backlog net

end NetworkLink

end MarketFeed
