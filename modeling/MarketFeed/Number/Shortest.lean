import MarketFeed.Number.Binary64

/-!
# Shortest decimals

The decimal with the fewest digits that reads back as a given binary number, and of those the
nearest one. A grid of decimals with a fixed number of digits has a point that reads back only if
one of the two points around the number does, so trying those on finer and finer grids finds it.
-/

namespace MarketFeed

/-- A decimal `digits · 10 ^ exponent`. -/
structure ScaledDecimal where
  digits : Nat
  exponent : Int
  deriving DecidableEq, Repr

namespace ScaledDecimal

/-- The number of decimal digits, none for zero. -/
def length (n : Nat) : Nat := if n = 0 then 0 else (Nat.toDigits 10 n).length

/-- Take the zeros off the end of the digits, at most `fuel` of them. -/
def trim : Nat → ScaledDecimal → ScaledDecimal
  | 0, x => x
  | fuel + 1, x =>
    if x.digits ≠ 0 ∧ x.digits % 10 = 0 then trim fuel ⟨x.digits / 10, x.exponent + 1⟩ else x

end ScaledDecimal

namespace Binary64

/-- The exponent `k` of ten with `10 ^ k ≤ num / den < 10 ^ (k + 1)`. -/
def decimalExponent (num den : Nat) : Int :=
  if den ≤ num then (ScaledDecimal.length (num / den) : Int) - 1
  else -(ScaledDecimal.length ((den + num - 1) / num - 1) : Int)

/-- Whether `num / den` lies in the interval of numbers that round to `x`. Its ends belong to it
when the significand is even. The lower half is narrower below a power of two. -/
def roundsTo (x : Binary64) (num den : Nat) : Bool :=
  let m := x.significand
  let low := if m = leastFull ∧ minExponent < x.exponent then 4 * m - 1 else 4 * m - 2
  let high := 4 * m + 2
  let (a, b) := scaleDown num den (x.exponent - 2)
  if m % 2 = 0 then low * b ≤ a && a ≤ high * b else low * b < a && a < high * b

/-- A point of the grid with unit `10 ^ e` as a fraction. -/
def gridPoint (n : Nat) (e : Int) : Nat × Nat :=
  if 0 ≤ e then (n * Nat.pow 10 e.toNat, 1) else (n, Nat.pow 10 (-e).toNat)

/-- The point of the grid with unit `10 ^ e` that reads back as `x`, the nearer of two, and the
even one of two that are equally near. -/
def onGrid? (x : Binary64) (e : Int) : Option Nat :=
  let (num, den) := x.ratio
  let (a, b) :=
    if 0 ≤ e then (num, den * Nat.pow 10 e.toNat) else (num * Nat.pow 10 (-e).toNat, den)
  let below := a / b
  let r := a % b
  let reads := fun n => let p := gridPoint n e; x.roundsTo p.1 p.2
  let low := 0 < below && reads below
  let high := reads (below + 1)
  if low && high then
    if 2 * r < b then some below
    else if b < 2 * r then some (below + 1)
    else if below % 2 = 0 then some below else some (below + 1)
  else if low then some below
  else if high then some (below + 1)
  else none

/-- Try grids with one more digit each, `left` of them, from the unit `10 ^ e` down. -/
def searchGrids (x : Binary64) : Nat → Int → ScaledDecimal
  | 0, _ => ⟨0, 0⟩
  | left + 1, e =>
    match x.onGrid? e with
    | some n => ScaledDecimal.trim 17 ⟨n, e⟩
    | none => searchGrids x left (e - 1)

/-- The shortest decimal that reads back as `x` without its sign; seventeen digits always do. -/
def shortest (x : Binary64) : ScaledDecimal :=
  if x.significand = 0 then ⟨0, 0⟩
  else
    let (num, den) := x.ratio
    searchGrids x 17 (decimalExponent num den)

end Binary64

namespace ScaledDecimal

/-- Digits with the point placed by the exponent and at least one digit on each side of it. -/
def positional (x : ScaledDecimal) : List Char :=
  let ds := Nat.toDigits 10 x.digits
  if 0 ≤ x.exponent then ds ++ List.replicate x.exponent.toNat '0' ++ ['.', '0']
  else
    let places := (-x.exponent).toNat
    if places < ds.length then ds.take (ds.length - places) ++ '.' :: ds.drop (ds.length - places)
    else '0' :: '.' :: List.replicate (places - ds.length) '0' ++ ds

/-- One digit before the point, the others behind it, and the exponent with its sign. -/
def scientific (x : ScaledDecimal) : List Char :=
  let ds := Nat.toDigits 10 x.digits
  let e := x.exponent + (ds.length - 1 : Nat)
  let fraction := match ds.drop 1 with
    | [] => []
    | more => '.' :: more
  let sign := if 0 ≤ e then '+' else '-'
  ds.take 1 ++ fraction ++ 'e' :: sign :: Nat.toDigits 10 e.natAbs

def leading (x : ScaledDecimal) : Int := x.exponent + (length x.digits - 1 : Nat)

end ScaledDecimal

namespace Binary64

def signed (x : Binary64) (text : List Char) : List Char :=
  if x.negative then '-' :: text else text

end Binary64

end MarketFeed
