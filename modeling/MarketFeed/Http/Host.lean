import MarketFeed.Http.Percent
import MarketFeed.Text.Split
import MarketFeed.Transport.Address

/-!
# Hosts

The host of a resource has one standard form: a name in small letters without escapes, an address of
four bytes as four decimal numbers however it was given, a long address in brackets.
-/

namespace MarketFeed.Host

/-- Why text is no host. -/
inductive Fault
  | empty
  | badName
  | badShort
  | badLong
  deriving DecidableEq, Repr

def Fault.message : Fault → String
  | .empty => "empty host"
  | .badName => "invalid international domain name"
  | .badShort => "invalid IPv4 address"
  | .badLong => "invalid IPv6 address"

/-- A number in an address of four bytes: decimal, or hexadecimal after `0x`, or octal after `0`. -/
def number? (cs : List Char) : Option Nat :=
  let digits := fun (base : Nat) (ds : List Char) =>
    ds.foldl (fun (acc : Option Nat) c => do
      let n ← acc
      let d ← Hex.value? c
      if d < base then some (n * base + d) else none) (some 0)
  match cs with
  | [] => none
  | '0' :: 'x' :: ds | '0' :: 'X' :: ds => digits 16 ds
  | '0' :: d :: ds => digits 8 (d :: ds)
  | ds => digits 10 ds

/-- The number of an address: each part is a byte, and the last one fills what is left. -/
def join? : Nat → List Nat → Option Nat
  | _, [] => none
  | left, [n] => if n < 256 ^ left then some n else none
  | 0, _ => none
  | left + 1, n :: ns =>
    if n < 256 then (join? left ns).map fun rest => n * 256 ^ left + rest else none

/-- The parts of a name between points; a point at the end means nothing. -/
def parts (name : List Char) : List (List Char) :=
  let ps := Split.parts '.' name
  if ps.length ≠ 1 ∧ ps.getLast? = some [] then ps.dropLast else ps

/-- Whether a name ends with a number, so that all of it has to be an address. -/
def endsWithNumber (ps : List (List Char)) : Bool :=
  match ps.getLast? with
  | some last => last.all Char.isDigit && !last.isEmpty || (number? last).isSome
  | none => false

def readShort (ps : List (List Char)) : Except Fault String :=
  match ps.mapM number? with
  | none => .error .badShort
  | some ns =>
    match if ns.length ≤ 4 then join? 4 ns else none with
    | none => .error .badShort
    | some n =>
      .ok (IpAddress.octetsText (n / 16777216) (n / 65536 % 256) (n / 256 % 256) (n % 256))

def isForbidden (c : Char) : Bool :=
  c.toNat ≤ 0x20 || c.toNat = 0x7F || "%#/:<>?@[\\]^|".toList.contains c

def readName (cs : List Char) : Except Fault String :=
  match Percent.decodeText? cs with
  | none => .error .badName
  | some text =>
    let name := text.toList.map Char.toLower
    if name = [] then .error .empty
    else if name.any isForbidden then .error .badName
    else if endsWithNumber (parts name) then readShort (parts name)
    else .ok (String.ofList name)

def readLong (cs : List Char) : Except Fault String :=
  match IpAddress.readLong cs with
  | some (.long groups) => .ok ("[" ++ IpAddress.shortened groups.toList ++ "]")
  | _ => .error .badLong

def read (cs : List Char) : Except Fault String :=
  match cs with
  | [] => .error .empty
  | '[' :: rest => if rest.getLast? = some ']' then readLong rest.dropLast else .error .badLong
  | cs => readName cs

end MarketFeed.Host
