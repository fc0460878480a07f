import MarketFeed.Transport.Network

/-!
# A network in memory

A network with one server, for trying out transports over a network. The server listens at one port
of all addresses, works on one connection at a time and can misbehave at each stage. Its certificate
is for one address only.
-/

namespace MarketFeed

/-- What the server makes of an attempt to connect. -/
inductive ConnectPlan
  | accept
  | refuse
  /-- The attempt never ends. -/
  | hang
  deriving DecidableEq, Repr

/-- What the server makes of an attempt to secure a connection. -/
inductive SecurePlan
  | accept
  /-- It shows a certificate that nobody trusts. -/
  | untrusted
  /-- It answers with plain text. -/
  | plain
  | close
  | silent
  deriving DecidableEq, Repr

/-- What the server makes of a request for an upgrade. -/
inductive UpgradePlan
  | accept
  | close
  | silent
  /-- It sends these bytes and closes. -/
  | reply (bytes : List UInt8)
  deriving DecidableEq, Repr

/-- What the server makes of each stage. -/
structure ServerPlan where
  connect : ConnectPlan
  secure : SecurePlan
  upgrade : UpgradePlan
  deriving DecidableEq, Repr

/-- A WebSocket with the request that it began with. -/
structure Accepted where
  request : UpgradeRequest
  line : Line
  deriving Repr

/-- The network: how the server behaves, if there is one, and what has become of connections. -/
structure LocalNetwork where
  plan? : Option ServerPlan
  /-- How many connections there have been. -/
  count : Nat
  /-- The connection that the server works on. -/
  served? : Option Connection
  accepted : List (Connection × Accepted)
  deriving Repr

namespace LocalNetwork

/-- A network in which nothing has happened yet. -/
def new (plan? : Option ServerPlan) : LocalNetwork := ⟨plan?, 0, none, []⟩

def port : Nat := 8443

def certified : String := "127.0.0.1"

def refusal : String := "Connection refused (os error 111)"

def lookup (host : String) (port : Nat) : Except String (List SocketAddress) :=
  if host.toList.contains '\x00' then .error "file name contained an unexpected NUL byte"
  else
    match IpAddress.ofText? (if host = "localhost" then certified else host) with
    | some ip => .ok [⟨ip, port⟩]
    | none => .error "failed to lookup address information: Name or service not known"

/-- Connect to an address; the server does not look at connections before it works on them. -/
def connect (a : SocketAddress) (n : LocalNetwork) : Outcome Connection × LocalNetwork :=
  match if a.port = port then n.plan?.map ServerPlan.connect else none with
  | some .accept => (.done n.count, { n with count := n.count + 1 })
  | some .hang => (.timedOut, n)
  | _ => (.failed refusal, n)

/-- Secure a connection. It has to wait as long as the server works on another one. -/
def secure (host : String) (c : Connection) (n : LocalNetwork) : Outcome Unit × LocalNetwork :=
  if n.served?.any (· != c) then (.timedOut, n)
  else
    match n.plan?.map ServerPlan.secure with
    | some .accept =>
      if host = certified then (.done (), { n with served? := some c })
      else (.failed LibraryWords.tls, n)
    | some .untrusted | some .plain => (.failed LibraryWords.tls, n)
    | some .close => (.failed "unexpected EOF", n)
    | _ => (.timedOut, n)

def upgrade (request : UpgradeRequest) (c : Connection) (n : LocalNetwork) :
    Outcome Unit × LocalNetwork :=
  let failed := fun (fault : UpgradeFault) =>
    (Outcome.failed fault.message, { n with served? := none })
  match n.plan?.map ServerPlan.upgrade with
  | some .accept =>
    if request.isReadable then
      (.done (), { n with accepted := n.accepted ++ [(c, ⟨request, .new⟩)] })
    else failed .unfinished
  | some .close => failed .unfinished
  | some (.reply bytes) => failed (.ofReply bytes)
  | _ => (.timedOut, n)

def get? (n : LocalNetwork) (c : Connection) : Option Accepted := n.accepted.lookup c

def withLine (n : LocalNetwork) (c : Connection) (line : Line) : LocalNetwork :=
  { n with
    accepted := n.accepted.map fun (d, a) => (d, if d = c then { a with line } else a) }

def write (f : Frame) (c : Connection) (n : LocalNetwork) : Except String Unit × LocalNetwork :=
  match n.get? c with
  | none => (.error SocketFault.cut.message, n)
  | some a =>
    let (result, line) := a.line.atClient (·.send f)
    (result.mapError SocketFault.message, n.withLine c line)

def read (c : Connection) (n : LocalNetwork) :
    Option (Except String (Option Frame) × LocalNetwork) := do
  let a ← n.get? c
  let (result, client) ← a.line.client.read
  let line := { a.line with client }.carry
  return (result.mapError SocketFault.message, n.withLine c line)

/-- The client lets go of a connection. The server goes on with a WebSocket until it drops it. -/
def release (c : Connection) (n : LocalNetwork) : LocalNetwork :=
  match n.get? c with
  | some a => n.withLine c a.line.dropClient
  | none => if n.served? = some c then { n with served? := none } else n

def network : Network LocalNetwork where
  lookup host port n := (lookup host port, n)
  connect := connect
  prepare n := (.ok (), n)
  secure := secure
  upgrade := upgrade
  write := write
  read := read
  shut c n := write (.close none) c n
  release := release
  backlog c n := ((n.get? c).map fun a => a.line.client.inbox.length + 2).getD 1

/-! ## The server -/

/-- The connection that the server works on, if it is a WebSocket. -/
def served (n : LocalNetwork) : Option (Connection × Accepted) := do
  let c ← n.served?
  let a ← n.get? c
  return (c, a)

def request? (n : LocalNetwork) : Option UpgradeRequest := n.served.map (·.2.request)

def atServer {α : Type} (n : LocalNetwork) (use : Line → α × Line) : Option α × LocalNetwork :=
  match n.served with
  | none => (none, n)
  | some (c, a) =>
    let (result, line) := use a.line
    (some result, n.withLine c line)

def send (n : LocalNetwork) (f : Frame) : LocalNetwork :=
  (n.atServer fun line => line.atServer (·.send f)).2

/-- The server sends bytes, whatever they are. -/
def sendBytes (n : LocalNetwork) (bytes : List UInt8) : LocalNetwork :=
  (n.atServer fun line => ((), { line with client := line.client.arrive bytes })).2

def receive (n : LocalNetwork) : Option Frame × LocalNetwork :=
  let (found, n) := n.atServer fun line =>
    match line.server.read with
    | some (.ok f?, server) => (f?, { line with server }.carry)
    | some (.error _, server) => (none, { line with server }.carry)
    | none => (none, line)
  (found.join, n)

/-- The server drops the connection and is ready for the next one. -/
def drop (n : LocalNetwork) : LocalNetwork :=
  { (n.atServer fun line => ((), line.dropServer)).2 with served? := none }

end LocalNetwork

end MarketFeed
