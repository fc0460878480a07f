/-!
# Heads of replies

The first part of a reply: a status line, then headers, up to an empty line. Lines end with a line
feed, with or without a carriage return before it. Bytes may end anywhere; then more of them may
still make a head.
-/

namespace MarketFeed

/-- The head of a reply. -/
structure ReplyHead where
  /-- The second part of the version: 0 or 1. -/
  minor : Nat
  status : Nat
  /-- Names in small letters, and values as they are. -/
  headers : List (List Char × List UInt8)
  deriving DecidableEq, Repr

namespace ReplyHead

/-- Why bytes begin no head, whatever follows. -/
inductive Fault
  | newLine
  | version
  | status
  | headerName
  | headerValue
  | tooManyHeaders
  deriving DecidableEq, Repr

/-- Something read and the bytes behind it, or nothing as long as they end too early. -/
abbrev Reading (α : Type) := Except Fault (Option (α × List UInt8))

/-- Whether a byte may stand in the name of a header. -/
def isNameByte (b : UInt8) : Bool :=
  (Char.ofNat b.toNat).isAlphanum || "!#$%&'*+-.^_\x60|~".toList.contains (Char.ofNat b.toNat)

/-- Whether a byte may stand in a value: no control character but the tab. -/
def isValueByte (b : UInt8) : Bool := b == 0x09 || (0x20 ≤ b && b != 0x7F)

def isBlankByte (b : UInt8) : Bool := b == 0x20 || b == 0x09

def readEnd (fault : Fault) : List UInt8 → Reading Unit
  | [] | [0x0D] => .ok none
  | 0x0A :: rest | 0x0D :: 0x0A :: rest => .ok (some ((), rest))
  | _ => .error fault

def skipEmptyLines : List UInt8 → Reading Unit
  | [] | [0x0D] => .ok none
  | 0x0A :: rest | 0x0D :: 0x0A :: rest => skipEmptyLines rest
  | 0x0D :: _ => .error .newLine
  | bytes => .ok (some ((), bytes))

def versionStem : List UInt8 := [0x48, 0x54, 0x54, 0x50, 0x2F, 0x31, 0x2E]

def readVersion (bytes : List UInt8) : Reading Nat :=
  let stem := versionStem.take bytes.length
  if bytes.take versionStem.length ≠ stem then .error .version
  else
    match bytes.drop versionStem.length with
    | [] | [0x30] | [0x31] => .ok none
    | 0x30 :: 0x20 :: rest => .ok (some (0, rest))
    | 0x31 :: 0x20 :: rest => .ok (some (1, rest))
    | _ => .error .version

def digit? (b : UInt8) : Option Nat := if 0x30 ≤ b ∧ b ≤ 0x39 then some (b.toNat - 48) else none

/-- A number of so many digits; `acc` is what the digits before spell. -/
def readDigits : Nat → Nat → List UInt8 → Reading Nat
  | 0, acc, bytes => .ok (some (acc, bytes))
  | _ + 1, _, [] => .ok none
  | n + 1, acc, b :: rest =>
    match digit? b with
    | some d => readDigits n (acc * 10 + d) rest
    | none => .error .status

/-- The phrase behind the status, which means nothing, and the end of its line. -/
def skipPhrase : List UInt8 → Reading Unit
  | [] => .ok none
  | 0x20 :: rest => readEnd .status (rest.dropWhile isValueByte)
  | bytes => readEnd .status bytes

def trimEnd (value : List UInt8) : List UInt8 := (value.reverse.dropWhile isBlankByte).reverse

def readHeader (bytes : List UInt8) : Reading (List Char × List UInt8) :=
  let name := bytes.takeWhile isNameByte
  match bytes.dropWhile isNameByte with
  | [] => .ok none
  | 0x3A :: rest =>
    if name.isEmpty then .error .headerName
    else
      let rest := rest.dropWhile isBlankByte
      match readEnd .headerValue (rest.dropWhile isValueByte) with
      | .ok (some (_, behind)) =>
        let name := name.map fun b => (Char.ofNat b.toNat).toLower
        .ok (some ((name, trimEnd (rest.takeWhile isValueByte)), behind))
      | .ok none => .ok none
      | .error fault => .error fault
  | _ => .error .headerName

/-- Go on with the bytes behind what was read. -/
def andThen {α β : Type} (r : Reading α) (next : α → List UInt8 → Reading β) : Reading β :=
  match r with
  | .ok (some (a, rest)) => next a rest
  | .ok none => .ok none
  | .error fault => .error fault

/-- Headers up to the empty line, at most `room` of them. -/
def readHeaders : Nat → List UInt8 → Reading (List (List Char × List UInt8))
  | _, [] | _, [0x0D] => .ok none
  | _, 0x0A :: rest | _, 0x0D :: 0x0A :: rest => .ok (some ([], rest))
  | _, 0x0D :: _ => .error .newLine
  | 0, b :: _ => .error (if isNameByte b then .tooManyHeaders else .headerName)
  | room + 1, bytes =>
    andThen (readHeader bytes) fun header rest =>
    andThen (readHeaders room rest) fun headers rest =>
    .ok (some (header :: headers, rest))

/-- A head with at most `room` headers, and the bytes behind it. -/
def read (room : Nat) (bytes : List UInt8) : Reading ReplyHead :=
  andThen (skipEmptyLines bytes) fun _ bytes =>
  andThen (readVersion bytes) fun minor bytes =>
  andThen (readDigits 3 0 bytes) fun status bytes =>
  andThen (skipPhrase bytes) fun _ bytes =>
  andThen (readHeaders room bytes) fun headers bytes =>
  .ok (some (⟨minor, status, headers⟩, bytes))

def values (h : ReplyHead) (name : String) : List (List UInt8) :=
  h.headers.filterMap fun (n, value) => if n = name.toList then some value else none

def value? (h : ReplyHead) (name : String) : Option (List UInt8) := (h.values name).head?

end ReplyHead

end MarketFeed
