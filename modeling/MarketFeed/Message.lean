import MarketFeed.Error
import MarketFeed.Frame
import MarketFeed.Json.Parser
import MarketFeed.Market.Subscription
import MarketFeed.Text.Utf8

/-!
# Messages

What client and exchange tell each other in frames. The client asks for streams with a request; the
exchange acknowledges or refuses it with a control message, which has a field `event`, and sends
data messages, which have none. `Message.ofFrame` tells them apart.
-/

namespace MarketFeed

/-! ## Requests -/

/-- What a request wants done with its subscriptions. -/
inductive Operation
  | subscribe
  | unsubscribe
  deriving DecidableEq, Repr

namespace Operation

def name : Operation → String
  | .subscribe => "subscribe"
  | .unsubscribe => "unsubscribe"

/-- Reading and writing the names of operations. -/
def codec : Codec Operation :=
  .names [("subscribe", .subscribe), ("unsubscribe", .unsubscribe)] name

end Operation

def Operation.request (op : Operation) (subscriptions : List Subscription) : Json :=
  .obj [("args", .arr (subscriptions.map Subscription.toJson)), ("op", .str op.name)]

def Frame.subscribing (subscriptions : List Subscription) : Frame :=
  .text (Operation.subscribe.request subscriptions).text

/-! ## Control messages -/

/-- The kinds of control messages. -/
inductive EventKind
  | subscribe
  | unsubscribe
  | error
  deriving DecidableEq, Repr

def EventKind.table : List (String × EventKind) :=
  [("subscribe", .subscribe), ("unsubscribe", .unsubscribe), ("error", .error)]

def EventKind.name : EventKind → String
  | .subscribe => "subscribe"
  | .unsubscribe => "unsubscribe"
  | .error => "error"

def EventKind.codec : Codec EventKind := .names table name

/-- A control message. -/
inductive Ack
  | subscribed (s : Subscription)
  | unsubscribed (s : Subscription)
  /-- A request was refused; the exchange may say why. -/
  | refused (code message : Option String)
  deriving DecidableEq, Repr

/-- Data on a stream; the payload is not read yet. -/
structure DataEvent where
  channel : String
  instId : String
  data : Json
  deriving Repr

/-- A message of the exchange. -/
inductive Message
  | control (ack : Ack)
  | data (event : DataEvent)
  deriving Repr

/-- Why a frame holds no message. -/
inductive MessageFault
  | missingEvent
  | unknownEvent (event : Json) (mismatch : Mismatch)
  | missingArg
  | badArg (mismatch : Mismatch)
  | notText (fault : Utf8.Fault)
  | notJson (text : String)
  deriving Repr

namespace MessageFault

/-- The sentence that reports a fault; for what is no JSON the words of the library are left out. -/
def message : MessageFault → String
  | .missingEvent => "Missing event field"
  | .unknownEvent event mismatch => s!"Unknown event {event.text}: {mismatch.message}"
  | .missingArg => "Missing arg field"
  | .badArg mismatch => s!"Failed to parse arg: {mismatch.message}"
  | .notText fault => s!"Invalid UTF-8 in binary message: {fault.message}"
  | .notJson text => s!"Malformed JSON ({LibraryWords.json}): {text}"

/-- Whether the stream itself is broken, rather than one message. -/
def isFatal : MessageFault → Bool
  | .notText _ | .notJson _ => true
  | _ => false

/-- A fault as an error: unreadable input is one kind, a message of the wrong form another. -/
def toError (fault : MessageFault) : FeedError :=
  if fault.isFatal then .deserialization fault.message else .parse fault.message

end MessageFault

/-- The subscription that a message is about. -/
def readArg (v : Json) : Except MessageFault Subscription :=
  match v.field? "arg" with
  | none => .error .missingArg
  | some arg =>
    match Subscription.codec.read arg with
    | .ok s => .ok s
    | .error mismatch => .error (.badArg mismatch)

/-- A field as text: a string as it stands, another value as its JSON text, `null` as absent. -/
def readLoosely (v : Json) (name : String) : Option String :=
  match v.field? name with
  | none => none
  | some .null => none
  | some (.str s) => some s
  | some other => some other.text

def isControl (v : Json) : Bool := (v.field? "event").isSome

/-- The acknowledgement or refusal in a control message. -/
def Ack.ofJson (v : Json) : Except MessageFault Ack :=
  match v.field? "event" with
  | none => .error .missingEvent
  | some event =>
    match EventKind.codec.read event with
    | .error mismatch => .error (.unknownEvent event mismatch)
    | .ok .subscribe => (readArg v).map .subscribed
    | .ok .unsubscribe => (readArg v).map .unsubscribed
    | .ok .error => .ok (.refused (readLoosely v "code") (readLoosely v "msg"))

def DataEvent.ofJson (v : Json) : Except MessageFault DataEvent :=
  (readArg v).map fun s => ⟨s.channel, s.instId, (v.field? "data").getD .null⟩

/-- The message in a value; a value that is no object holds none. -/
def Message.ofJson (v : Json) : Except MessageFault (Option Message) :=
  if !v.isObject then .ok none
  else if isControl v then (Ack.ofJson v).map fun a => some (.control a)
  else (DataEvent.ofJson v).map fun e => some (.data e)

def Message.ofText (text : String) : Except MessageFault (Option Message) :=
  match Json.parse text with
  | none => .error (.notJson text)
  | some v => Message.ofJson v

/-- The message in a frame. A frame of bytes holds the message of the text that they spell; control
frames hold none. -/
def Message.ofFrame : Frame → Except MessageFault (Option Message)
  | .text s => Message.ofText s
  | .binary bytes =>
    match Utf8.decode bytes with
    | .ok s => Message.ofText s
    | .error fault => .error (.notText fault)
  | _ => .ok none

end MarketFeed
