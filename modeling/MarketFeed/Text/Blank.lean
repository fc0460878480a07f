import MarketFeed.Text.Ranges

/-!
# Blanks

The characters that count as white space in Unicode.
-/

namespace MarketFeed.Blank

def ranges : CharRanges := [
  (0x9, 0xD), (0x20, 0x20), (0x85, 0x85), (0xA0, 0xA0), (0x1680, 0x1680), (0x2000, 0x200A),
  (0x2028, 0x2029), (0x202F, 0x202F), (0x205F, 0x205F), (0x3000, 0x3000)]

def test (c : Char) : Bool := ranges.contains c

def trimEnd (cs : List Char) : List Char := (cs.reverse.dropWhile test).reverse

end MarketFeed.Blank
