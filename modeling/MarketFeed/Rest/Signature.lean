import MarketFeed.Digest.Hmac
import MarketFeed.Http.Client
import MarketFeed.Text.Base64
import MarketFeed.Time.Calendar

/-!
# Signatures

An authenticated request carries the time, and a digest of time, method, path with query, and body
under the secret of the account.
-/

namespace MarketFeed

/-- The credentials that requests are signed with. -/
structure ApiKey where
  key : String
  secret : String
  passphrase : String
  /-- Trade with play money. -/
  simulated : Bool
  deriving DecidableEq, Repr

namespace ApiKey

def signedMillis (timestamp : Nat) : Int :=
  let n := timestamp % 18446744073709551616
  if n < 9223372036854775808 then (n : Int) else (n : Int) - 18446744073709551616

def prehash (timestamp method path body : String) : String := timestamp ++ method ++ path ++ body

def signature (k : ApiKey) (prehash : String) : String :=
  Base64.encode (Hmac.sha256 (Utf8.encode k.secret) (Utf8.encode prehash))

/-- The endpoint with the query behind it, if there is one. -/
def requestPath (endpoint query : String) : String :=
  if query.isEmpty then endpoint else endpoint ++ "?" ++ query

def headers (k : ApiKey) (timestamp signature : String) : List (String × String) :=
  [("OK-ACCESS-KEY", k.key), ("OK-ACCESS-SIGN", signature), ("OK-ACCESS-TIMESTAMP", timestamp),
    ("OK-ACCESS-PASSPHRASE", k.passphrase)]
    ++ if k.simulated then [("x-simulated-trading", "1")] else []

/-- Sign a request at a time in milliseconds. -/
def sign (k : ApiKey) (input : SigningInput) (timestamp : Nat) : Except FeedError Signed :=
  match DateTime.textOfMillis? (signedMillis timestamp) with
  | none => .error (.auth "Invalid timestamp")
  | some time =>
    match Utf8.decode input.body with
    | .error fault => .error (.auth s!"Invalid body encoding: {fault.message}")
    | .ok body =>
      let text := prehash time input.method (requestPath input.endpoint input.query) body
      .ok ⟨k.headers time (k.signature text), []⟩

def signer (k : ApiKey) : Signer := ⟨k.sign⟩

end ApiKey

end MarketFeed
