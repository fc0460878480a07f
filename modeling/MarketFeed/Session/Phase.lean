import MarketFeed.Transport.Basic

/-!
# Phases

What a session is doing, for others to see.
-/

namespace MarketFeed

/-- The phases of a session. -/
inductive Phase
  | created
  | resolving
  | connecting
  | tlsHandshaking
  | wsHandshaking
  /-- Writing a request. -/
  | subscribing
  /-- Waiting for what comes. -/
  | streaming
  | closing
  | closed
  deriving DecidableEq, Repr

def Phase.name : Phase → String
  | .created => "Created"
  | .resolving => "Resolving"
  | .connecting => "Connecting"
  | .tlsHandshaking => "TlsHandshaking"
  | .wsHandshaking => "WsHandshaking"
  | .subscribing => "Subscribing"
  | .streaming => "Streaming"
  | .closing => "Closing"
  | .closed => "Closed"

/-- The phase of a session in a stage of its connection. -/
def Stage.phase : Stage → Phase
  | .resolve => .resolving
  | .connect => .connecting
  | .tls => .tlsHandshaking
  | .upgrade => .wsHandshaking

end MarketFeed
