import MarketFeed.Config.Environment
import MarketFeed.Number.Integer
import MarketFeed.Time.Span

/-!
# Stream settings

Where market data is streamed from, and how a session behaves.
-/

namespace MarketFeed

/-- The endpoint of a stream and the tuning of its sessions. -/
structure StreamConfig where
  host : String
  port : Nat
  path : String
  /-- For each stage of the connection. -/
  connectTimeoutMs : Nat
  /-- Between two pings, and how long a pong may take. -/
  heartbeatMs : Nat
  /-- How many subscriptions may wait to be written. -/
  capacity : Nat
  deriving DecidableEq, Repr

namespace StreamConfig

def default : StreamConfig where
  host := "wsaws.okx.com"
  port := 8443
  path := "/ws/v5/public"
  connectTimeoutMs := 30000
  heartbeatMs := 20000
  capacity := 64

def url (c : StreamConfig) : String := s!"wss://{c.host}:{c.port}{c.path}"

/-- The default settings with the variables of an exchange put in; a port that is no number is
ignored. -/
def ofEnvironment (stem : String) (env : Environment) : StreamConfig :=
  let c := default
  let host := (env.get? (Environment.nameFor stem "WS_HOST")).getD c.host
  let port :=
    match env.get? (Environment.nameFor stem "WS_PORT") with
    | none => c.port
    | some raw => (Integer.readUInt16 raw).toOption.getD c.port
  let path := (env.get? (Environment.nameFor stem "WS_PATH")).getD c.path
  { c with host, port, path }

end StreamConfig

end MarketFeed
