/-!
# Binary floating point

The finite numbers of the 64-bit binary format, with exact arithmetic behind every operation:
`ofRatio?` is the number nearest to a quotient (a tie goes to the even significand), and products,
quotients and scaled decimals are rounded through it.
-/

namespace MarketFeed

/-- A finite number `± significand · 2 ^ exponent`. In the numbers that `ofRatio?` gives, the
significand has 53 bits, or fewer at the least exponent. -/
structure Binary64 where
  negative : Bool
  significand : Nat
  exponent : Int
  deriving DecidableEq, Repr

namespace Binary64

/-- The least significand of 53 bits, `2 ^ 52`. -/
def leastFull : Nat := 4503599627370496

def minExponent : Int := -1074

def maxExponent : Int := 971

def zero : Binary64 := ⟨false, 0, minExponent⟩

/-- The quotient rounded to a whole number, a half to the even neighbour. -/
def roundDiv (num den : Nat) : Nat :=
  let q := num / den
  let r := num % den
  if 2 * r < den then q
  else if den < 2 * r then q + 1
  else if q % 2 = 0 then q else q + 1

def scaleDown (num den : Nat) (e : Int) : Nat × Nat :=
  if 0 ≤ e then (num, den * Nat.pow 2 e.toNat) else (num * Nat.pow 2 (-e).toNat, den)

/-- The exponent at which a positive fraction has a whole part of 53 bits, or the least one. -/
def exponentOf (num den : Nat) : Int :=
  let e := (num.log2 : Int) - den.log2 - 52
  let (n, d) := scaleDown num den e
  max minExponent (if n / d < leastFull then e - 1 else e)

/-- The number nearest to `num / den`, unless it lies beyond the greatest. -/
def ofRatio? (negative : Bool) (num den : Nat) : Option Binary64 :=
  if num = 0 then some { zero with negative }
  else
    let e := exponentOf num den
    let (n, d) := scaleDown num den e
    let m := roundDiv n d
    let (m, e) := if m = 2 * leastFull then (leastFull, e + 1) else (m, e)
    if maxExponent < e then none else some ⟨negative, m, e⟩

/-- The number as a fraction without its sign. -/
def ratio (x : Binary64) : Nat × Nat :=
  if 0 ≤ x.exponent then (x.significand * Nat.pow 2 x.exponent.toNat, 1)
  else (x.significand, Nat.pow 2 (-x.exponent).toNat)

def mul? (x y : Binary64) : Option Binary64 :=
  let (a, b) := x.ratio
  let (c, d) := y.ratio
  ofRatio? (x.negative != y.negative) (a * c) (b * d)

/-- The rounded quotient; the divisor is not zero. -/
def div? (x y : Binary64) : Option Binary64 :=
  let (a, b) := x.ratio
  let (c, d) := y.ratio
  ofRatio? (x.negative != y.negative) (a * d) (b * c)

def powerOfTen (n : Nat) : Binary64 := (ofRatio? false (Nat.pow 10 n) 1).getD zero

/-- The greatest power of ten that is finite. -/
def maxPowerOfTen : Nat := 308

/-- A number times a power of ten, with at most `fuel` divisions by the greatest power while the
exponent lies below them all. -/
def timesPowerOfTenWith (fuel : Nat) (x : Binary64) (exponent : Int) : Option Binary64 :=
  if exponent.natAbs ≤ maxPowerOfTen then
    let p := powerOfTen exponent.natAbs
    if 0 ≤ exponent then x.mul? p else x.div? p
  else if x.significand = 0 then some x
  else if 0 ≤ exponent then none
  else
    match fuel with
    | 0 => none
    | fuel + 1 =>
      match x.div? (powerOfTen maxPowerOfTen) with
      | none => none
      | some y => timesPowerOfTenWith fuel y (exponent + maxPowerOfTen)

/-- A number times a power of ten: one multiplication or division by a rounded power of ten, after
the divisions that a very small one needs. -/
def timesPowerOfTen? (x : Binary64) (exponent : Int) : Option Binary64 :=
  x.timesPowerOfTenWith (exponent.natAbs / maxPowerOfTen + 1) exponent

/-- The number read from a decimal significand and a power of ten: each is rounded, then their
product or quotient. -/
def ofDecimal? (negative : Bool) (significand : Nat) (exponent : Int) : Option Binary64 := do
  let x ← ofRatio? false significand 1
  let y ← x.timesPowerOfTen? exponent
  some { y with negative }

example : ofRatio? false 1 3 = some ⟨false, 6004799503160661, -54⟩ := by decide +kernel
example : ofRatio? false 1 1 = some ⟨false, leastFull, -52⟩ := by decide +kernel
example : ofRatio? false (Nat.pow 10 309) 1 = none := by decide +kernel

end Binary64

end MarketFeed
