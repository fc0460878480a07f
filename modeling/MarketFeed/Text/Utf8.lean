/-!
# UTF-8

Bytes as text. `pieces` cuts a byte sequence into characters and faults; `decode` accepts it when
there is no fault and otherwise names the first one, `decodeLossy` puts U+FFFD in the place of each
fault, and `encode` writes text as bytes.
-/

namespace MarketFeed.Utf8

/-- Why a byte sequence is not text. The bytes before `index` are well formed. -/
inductive Fault
  /-- `length` bytes at `index` can begin no character. -/
  | invalid (length index : Nat)
  /-- The sequence ends inside a character that begins at `index`. -/
  | incomplete (index : Nat)
  deriving DecidableEq, Repr

def Fault.message : Fault → String
  | .invalid length index =>
    s!"invalid utf-8 sequence of {length} bytes from index {index}"
  | .incomplete index => s!"incomplete utf-8 byte sequence from index {index}"

/-- A maximal part of a byte sequence that is read at once. -/
inductive Piece
  | char (c : Char) (size : Nat)
  | invalid (size : Nat)
  | incomplete
  deriving DecidableEq, Repr

/-- Bytes that may follow the first byte of a character. -/
def isContinuation (b : UInt8) : Bool := 0x80 ≤ b && b ≤ 0xBF

/-- Whether `b` may be the second byte after `a` in a character of three bytes: no short spelling
of a smaller code point, and no surrogate. -/
def isSecondOfThree (a b : UInt8) : Bool :=
  isContinuation b && (a != 0xE0 || 0xA0 ≤ b) && (a != 0xED || b ≤ 0x9F)

/-- Whether `b` may be the second byte after `a` in a character of four bytes: no short spelling
of a smaller code point, and none above U+10FFFF. -/
def isSecondOfFour (a b : UInt8) : Bool :=
  isContinuation b && (a != 0xF0 || 0x90 ≤ b) && (a != 0xF4 || b ≤ 0x8F)

/-- The low six bits, which a continuation byte carries. -/
def payload (b : UInt8) : Nat := b.toNat % 64

/-- The piece that begins with byte `a`, when `rest` follows. A fault covers the longest part that
could have begun a character, or one byte. -/
def first (a : UInt8) (rest : List UInt8) : Piece :=
  if a < 0x80 then .char (Char.ofNat a.toNat) 1
  else if 0xC2 ≤ a && a ≤ 0xDF then
    match rest with
    | [] => .incomplete
    | b :: _ =>
      if isContinuation b then .char (Char.ofNat (a.toNat % 32 * 64 + payload b)) 2
      else .invalid 1
  else if 0xE0 ≤ a && a ≤ 0xEF then
    match rest with
    | [] => .incomplete
    | [b] => if isSecondOfThree a b then .incomplete else .invalid 1
    | b :: c :: _ =>
      if !isSecondOfThree a b then .invalid 1
      else if !isContinuation c then .invalid 2
      else .char (Char.ofNat (a.toNat % 16 * 4096 + payload b * 64 + payload c)) 3
  else if 0xF0 ≤ a && a ≤ 0xF4 then
    match rest with
    | [] => .incomplete
    | [b] => if isSecondOfFour a b then .incomplete else .invalid 1
    | [b, c] =>
      if !isSecondOfFour a b then .invalid 1
      else if !isContinuation c then .invalid 2 else .incomplete
    | b :: c :: d :: _ =>
      if !isSecondOfFour a b then .invalid 1
      else if !isContinuation c then .invalid 2
      else if !isContinuation d then .invalid 3
      else .char (Char.ofNat (a.toNat % 8 * 262144 + payload b * 4096 + payload c * 64
        + payload d)) 4
  else .invalid 1

def Piece.more : Piece → Nat
  | .char _ size => size - 1
  | .invalid size => size - 1
  | .incomplete => 0

/-- The pieces of a byte sequence whose first `skip` bytes belong to a piece already read. -/
def piecesAfter : Nat → List UInt8 → List Piece
  | _, [] => []
  | skip + 1, _ :: rest => piecesAfter skip rest
  | 0, a :: rest =>
    match first a rest with
    | .incomplete => [.incomplete]
    | piece => piece :: piecesAfter piece.more rest

/-- A byte sequence cut into characters and faults. -/
def pieces (bytes : List UInt8) : List Piece := piecesAfter 0 bytes

/-- The characters of pieces that begin at byte `index`, or the first fault. -/
def collect (index : Nat) : List Piece → Except Fault (List Char)
  | [] => .ok []
  | .char c size :: rest => (collect (index + size) rest).map (c :: ·)
  | .invalid size :: _ => .error (.invalid size index)
  | .incomplete :: _ => .error (.incomplete index)

/-- The text that well-formed bytes spell, or the first fault. -/
def decode (bytes : List UInt8) : Except Fault String :=
  (collect 0 (pieces bytes)).map String.ofList

/-- A piece as a character, U+FFFD for a fault. -/
def Piece.toChar : Piece → Char
  | .char c _ => c
  | _ => '\uFFFD'

/-- The text that bytes spell, with U+FFFD for each fault. -/
def decodeLossy (bytes : List UInt8) : String :=
  String.ofList ((pieces bytes).map Piece.toChar)

def encode (s : String) : List UInt8 := s.toList.flatMap String.utf8EncodeChar

def isText (bytes : List UInt8) : Bool := (decode bytes).isOk

example : collect 0 (pieces [0x61, 0xC3, 0xA9]) = .ok ['a', 'é'] := by rfl
example : collect 0 (pieces [0x61, 0xFF]) = .error (.invalid 1 1) := by rfl
example : collect 0 (pieces [0xE6, 0x97]) = .error (.incomplete 0) := by rfl
example : (pieces [0x61, 0xFF, 0x62]).map Piece.toChar = ['a', '\uFFFD', 'b'] := by rfl

end MarketFeed.Utf8
