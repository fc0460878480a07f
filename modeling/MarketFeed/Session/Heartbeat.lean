/-!
# The heartbeat

When the last ping was sent and the last pong came, in nanoseconds. A ping that stays without a pong
for longer than one interval is expired.
-/

namespace MarketFeed

/-- The interval between pings and the times of the last ping and the last pong. -/
structure Heartbeat where
  interval : Nat
  lastPing : Option Nat
  lastPong : Option Nat
  deriving DecidableEq, Repr

namespace Heartbeat

def new (interval : Nat) : Heartbeat := ⟨interval, none, none⟩

def recordPing (h : Heartbeat) (time : Nat) : Heartbeat := { h with lastPing := some time }

def recordPong (h : Heartbeat) (time : Nat) : Heartbeat := { h with lastPong := some time }

/-- Whether the last ping came more than an interval after the last pong, or without any. A pong
after the ping counts as no distance. -/
def isExpired (h : Heartbeat) : Bool :=
  match h.lastPing, h.lastPong with
  | some ping, some pong => h.interval < ping - pong
  | some _, none => true
  | none, _ => false

end Heartbeat

end MarketFeed
