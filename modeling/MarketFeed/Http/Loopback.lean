import MarketFeed.Http.Client

/-!
# Loopback

A server in the place of the network: it listens on one port and gives the same bytes back for every
request.
-/

namespace MarketFeed

/-- A server that gives one answer. -/
structure Loopback where
  answer : List UInt8

namespace Loopback

def port : Nat := 8080

def baseUrl : String := s!"http://127.0.0.1:{port}"

def isReached (request : Request) : Bool :=
  request.url.portNumber == port && request.url.scheme == "http"

/-- Requests that reach it are answered; no other port listens, and it has no certificate. -/
def network (l : Loopback) : Client.Network := fun request =>
  if isReached request then .ok l.answer
  else if request.url.portNumber = port then .error (.untrusted request.url)
  else .error (.refused request.url)

/-- Make a call, and what reached the server. -/
def perform (l : Loopback) (c : Client) (now : Nat) (call : Client.Call) :
    Except FeedError Json × List Request :=
  let (r, requests) := c.perform now l.network call
  (r, requests.filter isReached)

/-- Hold a dialogue through a client, and what reached the server. -/
def converse {α : Type} (l : Loopback) (c : Client) (now : Nat) (d : Dialogue α) :
    α × List Request :=
  let answer := fun (seen : List Request) (q : Query) =>
    let (r, requests) := l.perform c now (.ofQuery q)
    (r, seen ++ requests)
  let (a, seen, _) := d.run answer []
  (a, seen)

end Loopback

end MarketFeed
