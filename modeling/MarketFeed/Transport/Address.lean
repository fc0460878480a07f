import MarketFeed.Text.Hex
import MarketFeed.Text.Split

/-!
# Addresses

Addresses of the internet of both kinds, and where a port is added to one. Those of the long kind
are written in groups, with two colons in the place of zeros.
-/

namespace MarketFeed

/-- An address of a host. -/
inductive IpAddress
  | short (a b c d : UInt8)
  | long (groups : Vector UInt16 8)
  deriving DecidableEq, Repr

namespace IpAddress

/-- A part of a short address: at most three digits, without zeros in front. -/
def readOctet (cs : List Char) : Option UInt8 :=
  let isPadded := cs.head? = some '0' && 1 < cs.length
  if cs.isEmpty || 3 < cs.length || !cs.all Char.isDigit || isPadded then none
  else
    let n := cs.foldl (fun n c => n * 10 + (c.toNat - 48)) 0
    if n < 256 then some (UInt8.ofNat n) else none

/-- A group of a long address: one to four digits to base sixteen. -/
def readGroup (cs : List Char) : Option UInt16 :=
  if cs.isEmpty || 4 < cs.length then none
  else
    (cs.mapM Hex.value?).map fun digits => UInt16.ofNat (digits.foldl (fun n d => n * 16 + d) 0)

def readOctets (cs : List Char) : Option (UInt8 × UInt8 × UInt8 × UInt8) :=
  match (Split.parts '.' cs).mapM readOctet with
  | some [a, b, c, d] => some (a, b, c, d)
  | _ => none

def pair (a b : UInt8) : UInt16 := UInt16.ofNat (a.toNat * 256 + b.toNat)

/-- Groups from parts. The last one may be a short address, which stands for two groups. -/
def readParts (endsShort : Bool) : List (List Char) → Option (List UInt16)
  | [] => some []
  | [part] =>
    match readGroup part with
    | some g => some [g]
    | none =>
      if endsShort then (readOctets part).map fun (a, b, c, d) => [pair a b, pair c d] else none
  | part :: parts => do
    let g ← readGroup part
    let gs ← readParts endsShort parts
    return g :: gs

def readGroups (endsShort : Bool) (cs : List Char) : Option (List UInt16) :=
  if cs.isEmpty then some [] else readParts endsShort (Split.parts ':' cs)

/-- What stands before and after the first two colons in a row. -/
def atColons : List Char → Option (List Char × List Char)
  | ':' :: ':' :: rest => some ([], rest)
  | c :: rest => (atColons rest).map fun (before, after) => (c :: before, after)
  | [] => none

/-- A long address. Two colons stand for one group of zeros at least. -/
def readLong (cs : List Char) : Option IpAddress := do
  let groups ← match atColons cs with
    | none => readGroups true cs
    | some (before, after) => do
      let head ← readGroups false before
      let tail ← readGroups true after
      if head.length + tail.length ≤ 7 then
        some (head ++ List.replicate (8 - head.length - tail.length) 0 ++ tail)
      else none
  if h : groups.length = 8 then some (.long ⟨groups.toArray, by simpa using h⟩) else none

def ofText? (text : String) : Option IpAddress :=
  match readOctets text.toList with
  | some (a, b, c, d) => some (.short a b c d)
  | none => readLong text.toList

def groupsText (groups : List UInt16) : String :=
  String.intercalate ":" (groups.map fun g => String.ofList (Nat.toDigits 16 g.toNat))

def zeros (groups : List UInt16) : Nat := (groups.takeWhile (· == 0)).length

/-- Where the first of the longest runs of zeros begins, and its length. -/
def longestZeros (groups : List UInt16) : Nat × Nat :=
  (List.range groups.length).foldl
    (fun best i => let n := zeros (groups.drop i); if best.2 < n then (i, n) else best) (0, 0)

/-- Groups as they are written: a run of zeros gives way to two colons if it is longer than one
group. -/
def shortened (groups : List UInt16) : String :=
  let (start, n) := longestZeros groups
  if 1 < n then groupsText (groups.take start) ++ "::" ++ groupsText (groups.drop (start + n))
  else groupsText groups

def octetsText (a b c d : Nat) : String := s!"{a}.{b}.{c}.{d}"

/-- An address as it is written. Long addresses that stand for short ones end like these. -/
def text : IpAddress → String
  | .short a b c d => octetsText a.toNat b.toNat c.toNat d.toNat
  | .long groups =>
    match groups.toList with
    | [0, 0, 0, 0, 0, 0xFFFF, g, h] =>
      "::ffff:" ++ octetsText (g.toNat / 256) (g.toNat % 256) (h.toNat / 256) (h.toNat % 256)
    | gs => shortened gs

end IpAddress

/-- An address with a port. -/
structure SocketAddress where
  ip : IpAddress
  port : Nat
  deriving DecidableEq, Repr

/-- An address with a port as it is written; brackets keep long ones apart from the port. -/
def SocketAddress.text (s : SocketAddress) : String :=
  match s.ip with
  | .short .. => s.ip.text ++ ":" ++ toString s.port
  | .long _ => "[" ++ s.ip.text ++ "]:" ++ toString s.port

end MarketFeed
