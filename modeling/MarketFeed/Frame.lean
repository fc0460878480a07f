import MarketFeed.Text.Quoted

/-!
# Frames

What travels over a WebSocket connection: text, bytes, and the three kinds of control frames.
-/

namespace MarketFeed

/-- Why a peer closes a connection. -/
structure CloseReason where
  code : Nat
  reason : String
  deriving DecidableEq, Repr

/-- A frame. -/
inductive Frame
  | text (s : String)
  | binary (bytes : List UInt8)
  | ping (payload : List UInt8)
  | pong (payload : List UInt8)
  | close (reason : Option CloseReason)
  /-- A frame that is passed on as it is and means nothing to a session. -/
  | raw (payload : List UInt8)
  deriving DecidableEq, Repr

namespace CloseReason

def codeName (n : Nat) : String :=
  match n with
  | 1000 => "Normal"
  | 1001 => "Away"
  | 1002 => "Protocol"
  | 1003 => "Unsupported"
  | 1005 => "Status"
  | 1006 => "Abnormal"
  | 1007 => "Invalid"
  | 1008 => "Policy"
  | 1009 => "Size"
  | 1010 => "Extension"
  | 1011 => "Error"
  | 1012 => "Restart"
  | 1013 => "Again"
  | 1015 => "Tls"
  | n =>
    if 1016 ≤ n ∧ n ≤ 2999 then s!"Reserved({n})"
    else if 3000 ≤ n ∧ n ≤ 3999 then s!"Iana({n})"
    else if 4000 ≤ n ∧ n ≤ 4999 then s!"Library({n})"
    else s!"Bad({n})"

/-- A reason, or that there is none, for a log line. -/
def describe : Option CloseReason → String
  | none => "None"
  | some r =>
    "Some(CloseFrame \x7b code: " ++ codeName r.code ++ ", reason: " ++ Quoted.ofString r.reason
      ++ " \x7d)"

end CloseReason

end MarketFeed
