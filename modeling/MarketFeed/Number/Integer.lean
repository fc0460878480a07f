/-!
# Integers in text

Reading a whole number between two bounds: an optional sign and digits. The first bad character or
the first digit that leaves the bounds decides which fault is reported.
-/

namespace MarketFeed.Integer

/-- Why text is no whole number between the bounds. -/
inductive Fault
  | empty
  | invalidDigit
  | tooLarge
  | tooSmall
  deriving DecidableEq, Repr

def Fault.message : Fault → String
  | .empty => "cannot parse integer from empty string"
  | .invalidDigit => "invalid digit found in string"
  | .tooLarge => "number too large to fit in target type"
  | .tooSmall => "number too small to fit in target type"

def digit? (c : Char) : Option Nat :=
  if '0' ≤ c ∧ c ≤ '9' then some (c.toNat - '0'.toNat) else none

/-- Digits behind a number `m` already read, as long as the number does not exceed `bound`. -/
def readDigits (bound : Nat) (beyond : Fault) (m : Nat) : List Char → Except Fault Nat
  | [] => .ok m
  | c :: rest =>
    match digit? c with
    | none => .error .invalidDigit
    | some d =>
      if m * 10 + d ≤ bound then readDigits bound beyond (m * 10 + d) rest else .error beyond

/-- A whole number from `low` to `high`. A minus sign is read only where numbers below zero are
allowed. -/
def read (low high : Int) : List Char → Except Fault Int
  | [] => .error .empty
  | ['+'] | ['-'] => .error .invalidDigit
  | '+' :: rest => (readDigits high.toNat .tooLarge 0 rest).map Int.ofNat
  | '-' :: rest =>
    if low < 0 then (readDigits (-low).toNat .tooSmall 0 rest).map fun n => -Int.ofNat n
    else .error .invalidDigit
  | cs => (readDigits high.toNat .tooLarge 0 cs).map Int.ofNat

def readInt64 (s : String) : Except Fault Int :=
  read (-9223372036854775808) 9223372036854775807 s.toList

def readInt32 (s : String) : Except Fault Int := read (-2147483648) 2147483647 s.toList

def readUInt16 (s : String) : Except Fault Nat := (read 0 65535 s.toList).map Int.toNat

def readUInt32 (cs : List Char) : Except Fault Nat := (read 0 4294967295 cs).map Int.toNat

example : read (-128) 127 "-128".toList = .ok (-128) := by rfl
example : read (-128) 127 "+0127".toList = .ok 127 := by rfl
example : read (-128) 127 "128x".toList = .error .tooLarge := by rfl
example : read (-128) 127 "12x8".toList = .error .invalidDigit := by rfl
example : read 0 127 "-1".toList = .error .invalidDigit := by rfl

end MarketFeed.Integer
