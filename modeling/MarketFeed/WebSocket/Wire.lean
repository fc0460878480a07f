import MarketFeed.Frame
import MarketFeed.Text.Utf8

/-!
# Frames on the wire

A frame begins with two bytes: whether it is the last part of a message, three reserved bits, what
it is, whether it is masked, and its length or how many bytes give the length. Then come the length,
the mask and the payload.
-/

namespace MarketFeed

/-- What a frame is. -/
inductive Opcode
  | continuation
  | text
  | binary
  | close
  | ping
  | pong
  deriving DecidableEq, Repr

namespace Opcode

/-- The opcodes by their numbers; all others are reserved. -/
def table : List (Nat × Opcode) :=
  [(0, .continuation), (1, .text), (2, .binary), (8, .close), (9, .ping), (10, .pong)]

def number : Opcode → Nat
  | .continuation => 0
  | .text => 1
  | .binary => 2
  | .close => 8
  | .ping => 9
  | .pong => 10

def ofNumber? (n : Nat) : Option Opcode := table.lookup n

/-- Whether a frame controls the connection, rather than carry a message. -/
def isControl : Opcode → Bool
  | .close | .ping | .pong => true
  | _ => false

end Opcode

/-- A frame on the wire. -/
structure WireFrame where
  isFinal : Bool
  /-- The three reserved bits as a number. -/
  reserved : Nat
  opcode : Opcode
  isMasked : Bool
  payload : List UInt8
  deriving DecidableEq, Repr

/-- Why bytes are no frame. -/
inductive WireFault
  | reservedOpcode (n : Nat)
  | tooLong (size limit : Nat)
  deriving DecidableEq, Repr

namespace WireFrame

def whole (opcode : Opcode) (payload : List UInt8) : WireFrame := ⟨true, 0, opcode, false, payload⟩

def limit : Nat := 16777216

/-- A number in so many bytes, the highest first. -/
def bigEndian : Nat → Nat → List UInt8
  | 0, _ => []
  | width + 1, n => UInt8.ofNat (n / 256 ^ width) :: bigEndian width n

/-- The number that bytes spell, the highest first. -/
def ofBigEndian (bytes : List UInt8) : Nat := bytes.foldl (fun n b => n * 256 + b.toNat) 0

/-- A payload under a mask, which is repeated. Masking twice gives the payload back. -/
def masked (mask : List UInt8) (payload : List UInt8) : List UInt8 :=
  payload.mapIdx fun i b => b ^^^ mask.getD (i % 4) 0

/-- The bytes of a frame; the mask of masked ones is all zeros. -/
def bytes (f : WireFrame) : List UInt8 :=
  let n := f.payload.length
  let first := (if f.isFinal then 128 else 0) + f.reserved * 16 + f.opcode.number
  let mark := if f.isMasked then 128 else 0
  let size :=
    if n < 126 then [UInt8.ofNat (mark + n)]
    else if n < 65536 then UInt8.ofNat (mark + 126) :: bigEndian 2 n
    else UInt8.ofNat (mark + 127) :: bigEndian 8 n
  let mask := if f.isMasked then [0, 0, 0, 0] else []
  UInt8.ofNat first :: size ++ mask ++ f.payload

/-- So many bytes from the front and the rest, if there are so many. -/
def split? (n : Nat) (bytes : List UInt8) : Option (List UInt8 × List UInt8) :=
  if bytes.length < n then none else some (bytes.take n, bytes.drop n)

/-- The first frame of some bytes and the rest, or nothing as long as it is not all there. -/
def read (bytes : List UInt8) : Except WireFault (Option (WireFrame × List UInt8)) :=
  match bytes with
  | a :: b :: rest =>
    let short := b.toNat % 128
    let width := if short = 126 then 2 else if short = 127 then 8 else 0
    let isMasked := 128 ≤ b.toNat
    match split? width rest with
    | none => .ok none
    | some (size, rest) =>
      match split? (if isMasked then 4 else 0) rest with
      | none => .ok none
      | some (mask, rest) =>
        match Opcode.ofNumber? (a.toNat % 16) with
        | none => .error (.reservedOpcode (a.toNat % 16))
        | some opcode =>
          let length := if width = 0 then short else ofBigEndian size
          if limit < length then .error (.tooLong length limit)
          else
            match split? length rest with
            | none => .ok none
            | some (payload, rest) =>
              .ok (some (⟨128 ≤ a.toNat, a.toNat / 16 % 8, opcode, isMasked, masked mask payload⟩,
                rest))
  | _ => .ok none

end WireFrame

def CloseReason.payload : Option CloseReason → List UInt8
  | none => []
  | some r => WireFrame.bigEndian 2 r.code ++ Utf8.encode r.reason

/-- A frame as it goes over the wire, before it is masked. -/
def Frame.wire : Frame → WireFrame
  | .text s => .whole .text (Utf8.encode s)
  | .binary bytes => .whole .binary bytes
  | .ping payload => .whole .ping payload
  | .pong payload => .whole .pong payload
  | .close reason => .whole .close (CloseReason.payload reason)
  | .raw payload => .whole .pong payload

end MarketFeed
