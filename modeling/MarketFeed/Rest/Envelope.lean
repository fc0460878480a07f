import MarketFeed.Error
import MarketFeed.Record.Basic
import MarketFeed.Rest.Dialogue

/-!
# Envelopes

The exchange wraps every answer into a code, a message and the data. The code `0` stands for
success; the family of any other code decides which error is reported.
-/

namespace MarketFeed

/-- An answer of the exchange. -/
structure Envelope where
  code : String
  msg : String
  data : Json

namespace Envelope

def schema : Schema where
  name := "OkxResponse"
  fields := [.required "code" .text, .required "msg" .text, .withDefault "data" .any .null]

def codec : Codec Envelope :=
  schema.codec.convert (fun (code, msg, data, ()) => ⟨code, msg, data⟩)
    fun e => (e.code, e.msg, e.data, ())

/-- The number that a code stands for, -1 if it is none. -/
def codeNumber (code : String) : Int := (Integer.readInt32 code).toOption.getD (-1)

def error (code msg : String) : FeedError :=
  let n := codeNumber code
  if n = 50011 ∨ n = 50061 then .rateLimit s!"OKX rate limit exceeded: {code} - {msg}"
  else if 50100 ≤ n ∧ n ≤ 50119 then .auth s!"{code} - {msg}"
  else if n = 50001 ∨ n = 50004 ∨ n = 50013 ∨ n = 50026 then
    .server s!"OKX server error: {code} - {msg}"
  else if 51000 ≤ n ∧ n ≤ 51099 then .invalidParameters s!"Invalid parameter: {code} - {msg}"
  else .api n msg

def unwrap {α : Type} (c : Codec α) (v : Json) : Except FeedError α :=
  match codec.read v with
  | .error m => .error (.deserialization s!"Failed to parse OKX response: {m.message}")
  | .ok e =>
    if e.code ≠ "0" then .error (error e.code e.msg)
    else
      match c.read e.data with
      | .ok a => .ok a
      | .error m => .error (.deserialization s!"Failed to parse OKX data: {m.message}")

end Envelope

/-- Ask a query and read the data of its answer. -/
def Calling.fetch {α : Type} (c : Codec α) (endpoint : String) (params : List (String × String))
    (authenticated : Bool) : Calling α := do
  let v ← Calling.ask ⟨endpoint, params, authenticated⟩
  Envelope.unwrap c v

/-- The first of some items; `what` names them. -/
def Calling.first {α : Type} (what : String) : List α → Calling α
  | a :: _ => pure a
  | [] => throw (.parse s!"Empty {what} response")

end MarketFeed
