import MarketFeed.Config.Account
import MarketFeed.Http.Request
import MarketFeed.Json.Parser
import MarketFeed.Rest.Dialogue
import MarketFeed.Text.Base64

/-!
# The HTTP client

A client turns a query into a request: it puts the address together, has the query signed where that
is asked for, and adds the headers. It goes where replies send it, and sorts the last reply by
status before it reads it.
-/

namespace MarketFeed

/-! ## Signing -/

/-- What a signer sees of a request. -/
structure SigningInput where
  method : String
  endpoint : String
  /-- Keys and values as they are, joined by `=` and `&`. -/
  query : String
  body : List UInt8
  deriving DecidableEq, Repr

/-- What a signer adds: headers, and parameters that replace those of the query if there are any. -/
structure Signed where
  headers : List (String × String)
  params : List (String × String)
  deriving DecidableEq, Repr

/-- Signs requests at a time in milliseconds. -/
structure Signer where
  sign : SigningInput → Nat → Except FeedError Signed

/-! ## The client -/

/-- Where the exchange is and how the client presents itself. -/
structure ClientConfig where
  baseUrl : String
  exchangeName : String
  timeoutSeconds : Nat
  userAgent : String
  deriving DecidableEq, Repr

/-- The settings for an address, with the defaults for the rest. -/
def ClientConfig.new (baseUrl exchangeName : String) : ClientConfig :=
  ⟨baseUrl, exchangeName, 30, "okx-stream/0.1"⟩

/-- A client, with or without a signer. -/
structure Client where
  config : ClientConfig
  signer? : Option Signer

namespace Client

/-- The client of some settings, if its name can stand in a header. -/
def build (config : ClientConfig) (signer? : Option Signer) : Except FeedError Client :=
  if isHeaderValue config.userAgent then .ok ⟨config, signer?⟩
  else .error (.other s!"Failed to build HTTP client: {RequestFault.badHeaderValue.message}")

def describe (c : Client) : String :=
  let config := "RestClientConfig \x7b base_url: " ++ Quoted.ofString c.config.baseUrl
    ++ ", exchange_name: " ++ Quoted.ofString c.config.exchangeName
    ++ ", timeout_seconds: " ++ toString c.config.timeoutSeconds
    ++ ", user_agent: " ++ Quoted.ofString c.config.userAgent ++ " \x7d"
  "ReqwestRest \x7b config: " ++ config
    ++ ", has_signer: " ++ toString c.signer?.isSome ++ ", .. \x7d"

/-- What is asked of the client. -/
structure Call where
  method : String
  endpoint : String
  params : List (String × String)
  body : List UInt8
  authenticated : Bool
  deriving DecidableEq, Repr

/-- Keys and values joined by `=` and `&`, as they are. -/
def queryText (params : List (String × String)) : String :=
  "&".intercalate (params.map fun (k, v) => k ++ "=" ++ v)

def Call.signingInput (call : Call) : SigningInput :=
  ⟨call.method, call.endpoint, queryText call.params, call.body⟩

/-- What the signer adds to a call; nothing to one that is not authenticated. -/
def signed (c : Client) (now : Nat) (call : Call) : Except FeedError Signed :=
  if call.authenticated then
    match c.signer? with
    | none => .error .authRequired
    | some signer => signer.sign call.signingInput now
  else .ok ⟨[], []⟩

def isAskable (url : Url) : Bool := url.scheme == "http" || url.scheme == "https"

def loginHeader (url : Url) : List (String × String) :=
  url.login?.toList.map fun (user, password) =>
    ("authorization", "Basic " ++ Base64.encode (Utf8.encode s!"{user}:{password}"))

/-- The request for a call with what the signer added. -/
def assemble (c : Client) (call : Call) (signed : Signed) : Except RequestFault Request :=
  match Url.parse (c.config.baseUrl ++ call.endpoint) with
  | .error fault => .error (.badUrl fault)
  | .ok url => do
    let headers ← signed.headers.mapM readHeaderPair
    let target := url.withForm (if signed.params.isEmpty then call.params else signed.params)
    let content := if call.body.isEmpty then [] else [("content-type", "application/json")]
    let agent :=
      if headers.any (·.1 == "user-agent") then [] else [("user-agent", c.config.userAgent)]
    if isAskable url then
      .ok ⟨call.method, target, loginHeader url ++ headers ++ content ++ agent, call.body⟩
    else .error (.badScheme target)

def requestFailed (fault : RequestFault) : FeedError :=
  .network s!"Request failed: {fault.message}"

def prepare (c : Client) (now : Nat) (call : Call) : Except FeedError Request := do
  let signed ← c.signed now call
  match c.assemble call signed with
  | .ok request => .ok request
  | .error fault => .error (requestFailed fault)

/-- The value in a reply, or the error that its status stands for. Of a text that is no JSON the words of
the library are left out. -/
def receive (reply : Received) : Except FeedError Json :=
  let text := reply.text
  if reply.status = 429 then .error (.rateLimit text)
  else if reply.status / 100 = 2 then
    match Json.parse text with
    | some v => .ok v
    | none => .error (.deserialization s!"Failed to parse JSON response: {LibraryWords.json}")
  else if reply.status / 100 = 5 then .error (.server s!"HTTP {reply.status}: {text}")
  else .error (.api reply.status text)

/-- What the network does with a request: it is refused, or the bytes of an answer come back. -/
abbrev Network := Request → Except RequestFault (List UInt8)

/-- Read the body of a reply, and the value in it. -/
def conclude (reply : OpenReply) : Except FeedError Json :=
  match reply.finish with
  | .ok reply => receive reply
  | .error fault =>
    .error (.network ("Failed to read response body: request or response body error: "
      ++ s!"error reading a body from connection: {fault.message}"))

/-- No more redirects than this are followed. -/
def maxRedirects : Nat := 9

/-- Send a request and go where replies send the client, at most so many times. What comes of it,
and the requests that went out. -/
def pursue (network : Network) (hops : Nat) (request : Request) :
    Except FeedError Json × List Request :=
  let failed := fun (fault : RequestFault) => (Except.error (requestFailed fault), [request])
  match network request with
  | .error fault => failed fault
  | .ok bytes =>
    match OpenReply.read bytes with
    | .error fault => failed (.noReply request.url fault)
    | .ok reply =>
      match reply.location? request.url with
      | none => (conclude reply, [request])
      | some url =>
        match hops with
        | 0 => failed (.tooManyRedirects request.url)
        | hops + 1 =>
          if isAskable url then
            let (result, requests) := pursue network hops (request.toward reply.head.status url)
            (result, request :: requests)
          else failed (.badScheme url)

def Call.ofQuery (q : Query) : Call := ⟨"GET", q.endpoint, q.params, [], q.authenticated⟩

/-- Make a call, and the requests that went out. -/
def perform (c : Client) (now : Nat) (network : Network) (call : Call) :
    Except FeedError Json × List Request :=
  match c.prepare now call with
  | .error e => (.error e, [])
  | .ok request => pursue network maxRedirects request

end Client

end MarketFeed
