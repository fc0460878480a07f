/-!
# Decimals

Prices and sizes as exact decimals: a sign, a mantissa of 96 bits, and a scale of at most 28, the
number of digits behind the point. Trailing zeros count: `1.50` and `1.5` are the same number with
different scales.
-/

namespace MarketFeed

abbrev Decimal.mantissaBound : Nat := 79228162514264337593543950336

abbrev Decimal.maxScale : Nat := 28

/-- The number `± mantissa / 10 ^ scale`. -/
structure Decimal where
  negative : Bool
  mantissa : Nat
  scale : Nat
  mantissa_lt : mantissa < Decimal.mantissaBound
  scale_le : scale ≤ Decimal.maxScale
  deriving DecidableEq, Repr

namespace Decimal

def zero : Decimal := ⟨false, 0, 0, by decide, by decide⟩

instance : Inhabited Decimal := ⟨zero⟩

/-- The decimal with these parts, if they lie within the bounds. -/
def ofParts? (negative : Bool) (mantissa scale : Nat) : Option Decimal :=
  if h : mantissa < mantissaBound ∧ scale ≤ maxScale then
    some ⟨negative, mantissa, scale, h.1, h.2⟩
  else none

/-- The digits of a number, filled up with zeros on the left to at least `width`. -/
def padded (width n : Nat) : List Char :=
  let ds := Nat.toDigits 10 n
  List.replicate (width - ds.length) '0' ++ ds

/-- The digits with a point before the last `scale` of them. -/
def unsignedText (mantissa scale : Nat) : List Char :=
  if scale = 0 then Nat.toDigits 10 mantissa
  else
    let ds := padded (scale + 1) mantissa
    ds.take (ds.length - scale) ++ '.' :: ds.drop (ds.length - scale)

/-- The text of a decimal. Zero shows no sign. -/
def text (d : Decimal) : List Char :=
  if d.negative && d.mantissa != 0 then '-' :: unsignedText d.mantissa d.scale
  else unsignedText d.mantissa d.scale

instance : ToString Decimal := ⟨fun d => String.ofList d.text⟩

example : unsignedText 150 2 = ['1', '.', '5', '0'] := by decide
example : unsignedText 5 3 = ['0', '.', '0', '0', '5'] := by decide

end Decimal

end MarketFeed
