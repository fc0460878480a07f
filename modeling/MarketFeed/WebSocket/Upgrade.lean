import MarketFeed.Http.Head
import MarketFeed.Http.Status
import MarketFeed.Text.Utf8
import MarketFeed.WebSocket.Socket

/-!
# Upgrades

How a connection becomes a WebSocket: the client asks with a request for an address, and the
server's reply has to agree. Addresses are taken apart here by the rules for the targets of
requests, which are narrower than those for addresses that a user may enter.
-/

namespace MarketFeed

/-- Why an address is not usable. -/
inductive TargetFault
  | badCharacter
  | badAuthority
  | tooLong
  deriving DecidableEq, Repr

def httpFormat (reason : String) : String := s!"HTTP format error: {reason}"

/-- The sentence that reports an address that is not usable. -/
def TargetFault.message : TargetFault → String
  | .badCharacter => httpFormat "invalid uri character"
  | .badAuthority => httpFormat "invalid authority"
  | .tooLong => httpFormat "uri too long"

/-- What a client asks for. -/
structure UpgradeRequest where
  /-- The host as the request names it, with its port. -/
  host : String
  target : String
  deriving DecidableEq, Repr

namespace UpgradeRequest

def agent : String := "okx-stream"

def protocol : String := "websocket"

/-- More characters than this are too many in an address, in bytes. -/
def maxLength : Nat := 65534

def endsAuthority (c : Char) : Bool := c = '/' || c = '?' || c = '#'

/-- Whether a character may stand in an authority at all. -/
def inAuthority (c : Char) : Bool := c.isAlphanum || "!$%&'()*+,-.:;=@[]_~".toList.contains c

/-- What has been seen of an authority. What stands before an at sign or in brackets counts for
less. -/
structure Scan where
  colons : Nat
  opened : Bool
  closed : Bool
  /-- A percent sign, which may stand before an at sign only. -/
  percent : Bool
  /-- The last character was an at sign. -/
  atSign : Bool

namespace Scan

def start : Scan := ⟨0, false, false, false, false⟩

/-- So many colons may stand in a row of groups. -/
def maxColons : Nat := 8

def next (s : Scan) (c : Char) : Except TargetFault Scan :=
  if !inAuthority c then .error .badCharacter
  else
    let s := { s with atSign := c = '@' }
    match c with
    | ':' =>
      if s.colons ≥ maxColons then .error .badAuthority
      else .ok { s with colons := s.colons + 1 }
    | '[' => if s.percent || s.opened then .error .badAuthority else .ok { s with opened := true }
    | ']' =>
      if !s.opened || s.closed then .error .badAuthority
      else .ok { s with closed := true, colons := 0, percent := false }
    | '@' => .ok { s with colons := 0, percent := false }
    | '%' => .ok { s with percent := true }
    | _ => .ok s

def mayEnd (s : Scan) : Bool := s.opened == s.closed && s.colons ≤ 1 && !s.atSign && !s.percent

end Scan

def checkAuthority (cs : List Char) : Except TargetFault Unit := do
  let s ← cs.foldlM Scan.next Scan.start
  if s.mayEnd then .ok () else .error .badAuthority

def inPath (c : Char) : Bool :=
  let n := c.toNat
  n = 0x21 || (0x24 ≤ n && n ≤ 0x3B) || n = 0x3D || (0x40 ≤ n && n ≤ 0x5F) || (0x61 ≤ n && n ≤ 0x7A)
    || n = 0x7C || n = 0x7E || n = 0x22 || n = 0x7B || n = 0x7D

/-- Whether a character may stand in a query. -/
def inQuery (c : Char) : Bool :=
  let n := c.toNat
  n = 0x21 || (0x24 ≤ n && n ≤ 0x3B) || n = 0x3D || (0x3F ≤ n && n ≤ 0x7E)

/-- The path and the query, without what comes after a number sign. -/
def checkTarget (cs : List Char) : Except TargetFault String :=
  let cut := fun (c : Char) => c != '?' && c != '#'
  let path := cs.takeWhile cut
  let rest := cs.dropWhile cut
  let query := match rest with
    | '?' :: rest => '?' :: rest.takeWhile (· != '#')
    | _ => []
  if path.all inPath && query.tail.all inQuery then
    .ok (if path.isEmpty && query.isEmpty then "/" else String.ofList (path ++ query))
  else .error .badCharacter

/-- The part of an authority that names the host and the port. -/
def hostOf (authority : List Char) : List Char :=
  match authority.dropWhile (· != '@') with
  | _ :: rest => rest
  | [] => authority

/-- The request for a path on a host. The path may continue what stands before it. -/
def of (host : String) (port : Nat) (path : String) : Except TargetFault UpgradeRequest := do
  let text := s!"{host}:{port}{path}"
  if maxLength < text.utf8ByteSize + "wss://".length then .error .tooLong
  let authority := text.toList.takeWhile (!endsAuthority ·)
  checkAuthority authority
  let target ← checkTarget (text.toList.dropWhile (!endsAuthority ·))
  return ⟨String.ofList (hostOf authority), target⟩

def isReadable (r : UpgradeRequest) : Bool := r.target.toList.head? = some '/'

end UpgradeRequest

/-- Why an upgrade fails. -/
inductive UpgradeFault
  /-- The reply ends before it is complete. -/
  | unfinished
  | head (fault : ReplyHead.Fault)
  | oldVersion
  | badStatus
  /-- The server answers with another status. -/
  | refused (status : Nat)
  | noUpgrade
  | noConnection
  | keyMismatch
  deriving DecidableEq, Repr

namespace UpgradeFault

/-- The sentence that reports why an upgrade fails. -/
def message : UpgradeFault → String
  | .unfinished => SocketFault.violation "Handshake not finished"
  | .head .tooManyHeaders => "Space limit exceeded: Too many headers"
  | .head .newLine => unreadable "invalid new line"
  | .head .version => unreadable "invalid HTTP version"
  | .head .status => unreadable "invalid response status"
  | .head .headerName => unreadable "invalid header name"
  | .head .headerValue => unreadable "invalid header value"
  | .oldVersion => SocketFault.violation "HTTP version must be 1.1 or higher"
  | .badStatus => httpFormat "invalid status code"
  | .refused status => "HTTP error: " ++ Status.text status
  | .noUpgrade => SocketFault.violation "No \"Upgrade: websocket\" header"
  | .noConnection => SocketFault.violation "No \"Connection: upgrade\" header"
  | .keyMismatch => SocketFault.violation "Key mismatch in \"Sec-WebSocket-Accept\" header"
where
  unreadable (reason : String) : String := SocketFault.violation s!"httparse error: {reason}"

/-- No more headers than this are read in a reply. -/
def maxHeaders : Nat := 124

/-- Whether a value is a word, in large or small letters. -/
def isWord (word : String) (value? : Option (List UInt8)) : Bool :=
  match value? with
  | some value => value.map (fun b => (Char.ofNat b.toNat).toLower) = word.toList
  | none => false

/-- Why a reply that was made without knowledge of the request's key does not do. -/
def ofReply (reply : List UInt8) : UpgradeFault :=
  match ReplyHead.read maxHeaders reply with
  | .error fault => .head fault
  | .ok none => .unfinished
  | .ok (some (h, _)) =>
    if h.minor = 0 then .oldVersion
    else if !Status.isValid h.status then .badStatus
    else if h.status ≠ 101 then .refused h.status
    else if !isWord "websocket" (h.value? "upgrade") then .noUpgrade
    else if !isWord "upgrade" (h.value? "connection") then .noConnection
    else .keyMismatch

end UpgradeFault

end MarketFeed
