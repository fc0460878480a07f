/-!
# Spans of time

A span in nanoseconds, written in the largest unit that makes it at least one, with as many decimals
as it needs: `20s`, `1.5s`, `999ms`, `0ns`.
-/

namespace MarketFeed.Span

def nanosPerMilli : Nat := 1000000

/-- The digits behind a point, without the zeros at the end; `width` digits stand for one. -/
def decimals (width n : Nat) : List Char :=
  let ds := Nat.toDigits 10 n
  let ds := List.replicate (width - ds.length) '0' ++ ds
  match (ds.reverse.dropWhile (· == '0')).reverse with
  | [] => []
  | ds => '.' :: ds

def text (nanos : Nat) : String :=
  let write := fun (width : Nat) (unit : String) =>
    let size := Nat.pow 10 width
    String.ofList (Nat.toDigits 10 (nanos / size) ++ decimals width (nanos % size) ++ unit.toList)
  if 1000000000 ≤ nanos then write 9 "s"
  else if nanosPerMilli ≤ nanos then write 6 "ms"
  else if 1000 ≤ nanos then write 3 "µs"
  else write 0 "ns"

def textOfMillis (ms : Nat) : String := text (ms * nanosPerMilli)

end MarketFeed.Span
