import MarketFeed.Error
import MarketFeed.Http.Reply
import MarketFeed.Http.Url

/-!
# Requests

What a client sends to a server, and why that may fail. A reply may send the client elsewhere:
`toward` is the request that is made then.
-/

namespace MarketFeed

/-- A request as it goes out. -/
structure Request where
  method : String
  url : Url
  headers : List (String × String)
  body : List UInt8
  deriving DecidableEq, Repr

/-- Why a request does not go out, or brings no reply. -/
inductive RequestFault
  | badUrl (fault : Url.Fault)
  | badScheme (url : Url)
  | badHeaderName
  | badHeaderValue
  | refused (url : Url)
  | untrusted (url : Url)
  | noReply (url : Url) (fault : Reply.Fault)
  | tooManyRedirects (url : Url)
  deriving DecidableEq, Repr

namespace RequestFault

/-- The sentence that reports a fault; for a server without a good certificate the words of the library
are left out. -/
def message : RequestFault → String
  | .badUrl .relative => "builder error: relative URL without a base"
  | .badUrl (.host fault) => s!"builder error: {fault.message}"
  | .badUrl .badPort => "builder error: invalid port number"
  | .badUrl (.hostless text) => s!"builder error for url ({text}): URL scheme is not allowed"
  | .badScheme url => s!"builder error for url ({url.text}): URL scheme is not allowed"
  | .badHeaderName => "builder error: invalid HTTP header name"
  | .badHeaderValue => "builder error: failed to parse header value"
  | .refused url =>
    s!"error sending request for url ({url.text}): error trying to connect: tcp connect error: "
      ++ "Connection refused (os error 111)"
  | .untrusted url =>
    s!"error sending request for url ({url.text}): error trying to connect: {LibraryWords.tls}"
  | .noReply url fault => s!"error sending request for url ({url.text}): {fault.message}"
  | .tooManyRedirects url => s!"error following redirect for url ({url.text}): too many redirects"

end RequestFault

/-! ## Headers -/

/-- Whether a character may stand in the name of a header. -/
def isHeaderNameChar (c : Char) : Bool :=
  c.isAlphanum || "!#$%&'*+-.^_\x60|~".toList.contains c

def isHeaderName (s : String) : Bool := !s.isEmpty && s.toList.all isHeaderNameChar

/-- Whether text is the value of a header: no control character but the tab. -/
def isHeaderValue (s : String) : Bool :=
  s.toList.all fun c => c = '\t' || (0x20 ≤ c.toNat && c.toNat ≠ 0x7F)

def readHeaderPair : String × String → Except RequestFault (String × String)
  | (name, value) =>
    if !isHeaderName name then .error .badHeaderName
    else if !isHeaderValue value then .error .badHeaderValue
    else .ok (String.ofList (name.toList.map Char.toLower), value)

/-! ## Redirects -/

namespace Request

/-- Statuses that send a client elsewhere without what it sent. -/
def afreshStatuses : List Nat := [301, 302, 303]

/-- Statuses that send a client elsewhere with what it sent. -/
def againStatuses : List Nat := [307, 308]

def bodyHeaders : List String :=
  ["transfer-encoding", "content-encoding", "content-type", "content-length"]

def secretHeaders : List String :=
  ["authorization", "cookie", "cookie2", "proxy-authorization", "www-authenticate"]

/-- Whether the schemes of two addresses are such that the second server may know of the first. -/
def mayTell (before after : Url) : Bool := !(before.scheme == "https" && after.scheme == "http")

/-- The request that is made when a reply of a status sends the client to an address. It says where
it comes from. -/
def toward (r : Request) (status : Nat) (url : Url) : Request :=
  let isAfresh := afreshStatuses.contains status
  let isSame := r.url.host == url.host && r.url.portNumber == url.portNumber
  let told := if mayTell r.url url then [("referer", { r.url with fragment? := none }.text)] else []
  let dropped := (if isAfresh then bodyHeaders else []) ++ (if isSame then [] else secretHeaders)
    ++ told.map (·.1)
  { method := if isAfresh && r.method != "HEAD" then "GET" else r.method
    url
    headers := r.headers.filter (fun header => !dropped.contains header.1) ++ told
    body := if isAfresh then [] else r.body }

end Request

/-- Where a reply to a request for an address sends the client, if it names an address. -/
def OpenReply.location? (r : OpenReply) (base : Url) : Option Url := do
  if (Request.afreshStatuses ++ Request.againStatuses).contains r.head.status then
    let value ← r.head.value? "location"
    let text ← (Utf8.decode value).toOption
    (base.join text).toOption
  else none

end MarketFeed
