import MarketFeed.Error
import MarketFeed.Frame

/-!
# Transports

A transport carries frames to the exchange and back. A connection is made in four stages, each on
top of the one before; then frames are written and read, until one side closes.
-/

namespace MarketFeed

/-- The stages of a connection, in their order. -/
inductive Stage
  /-- Look the host up. -/
  | resolve
  | connect
  /-- Secure the connection. -/
  | tls
  /-- Turn it into a WebSocket. -/
  | upgrade
  deriving DecidableEq, Repr

namespace Stage

def label : Stage → String
  | .resolve => "resolve"
  | .connect => "connect"
  | .tls => "TLS handshake"
  | .upgrade => "WebSocket handshake"

def next? : Stage → Option Stage
  | .resolve => some .connect
  | .connect => some .tls
  | .tls => some .upgrade
  | .upgrade => none

end Stage

/-- Where a connection leads. -/
structure Endpoint where
  host : String
  port : Nat
  path : String
  deriving DecidableEq, Repr

/-- What a read brings. -/
inductive Incoming
  | frame (f : Frame)
  | failed (error : FeedError)
  /-- The other side has gone. -/
  | ended
  deriving DecidableEq, Repr

/-- A transport whose states are values of a type. -/
structure Transport (σ : Type) where
  perform : Endpoint → Stage → σ → Except FeedError Unit × σ
  write : Frame → σ → Except FeedError Unit × σ
  /-- Nothing while nothing has arrived. -/
  read : σ → Option (Incoming × σ)
  close : σ → Except FeedError Unit × σ
  isOpen : σ → Bool
  /-- No more than so many reads bring something before the other side acts again. -/
  backlog : σ → Nat

/-- What is said of a write or a read without a connection. -/
def FeedError.notConnected : FeedError := .network "WebSocket not connected"

end MarketFeed
