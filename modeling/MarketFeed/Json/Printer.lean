import MarketFeed.Json.Basic
import MarketFeed.Number.Shortest
import MarketFeed.Text.Hex

/-!
# JSON text

`Json.text` writes a value without blanks. Only what has to be escaped in a string is escaped.
-/

namespace MarketFeed.Json

def escape (c : Char) : List Char :=
  if c = '"' || c = '\\' then ['\\', c]
  else if c = '\x08' then ['\\', 'b']
  else if c = '\x0c' then ['\\', 'f']
  else if c = '\n' then ['\\', 'n']
  else if c = '\r' then ['\\', 'r']
  else if c = '\t' then ['\\', 't']
  else if c.toNat < 0x20 then
    '\\' :: 'u' :: Hex.unit c.toNat
  else [c]

def quote (s : String) : List Char := '"' :: s.toList.flatMap escape ++ ['"']

def intText (n : Int) : List Char :=
  if n < 0 then '-' :: Nat.toDigits 10 n.natAbs else Nat.toDigits 10 n.natAbs

/-- The first power of ten that is written with an exponent. -/
def scientificFrom : Int := 16

/-- The least power of ten that is written without an exponent. -/
def positionalFrom : Int := -5

/-- The text of a floating point number: the shortest digits that read back, without an exponent
from 0.00001 up to sixteen digits before the point. -/
def doubleText (x : Binary64) : List Char :=
  let d := x.shortest
  if positionalFrom ≤ d.leading ∧ d.leading < scientificFrom then x.signed d.positional
  else x.signed d.scientific

mutual

def chars : Json → List Char
  | .null => ['n', 'u', 'l', 'l']
  | .bool true => ['t', 'r', 'u', 'e']
  | .bool false => ['f', 'a', 'l', 's', 'e']
  | .int n => intText n
  | .double x => doubleText x
  | .str s => quote s
  | .arr items => '[' :: itemChars items ++ [']']
  | .obj fields => '\x7b' :: fieldChars fields ++ ['\x7d']

/-- The items of an array with commas between them. -/
def itemChars : List Json → List Char
  | [] => []
  | [v] => chars v
  | v :: rest => chars v ++ ',' :: itemChars rest

/-- The fields of an object with commas between them. -/
def fieldChars : List (String × Json) → List Char
  | [] => []
  | [(k, v)] => quote k ++ ':' :: chars v
  | (k, v) :: rest => quote k ++ ':' :: chars v ++ ',' :: fieldChars rest

end

def text (v : Json) : String := String.ofList v.chars

/-- A character of a text in ASCII: others are escaped as one code unit or a pair of them. -/
def asciiEscape (c : Char) : List Char :=
  let n := c.toNat
  if n < 0x80 then [c]
  else if n < 0x10000 then '\\' :: 'u' :: Hex.unit n
  else
    let high := 0xD800 + (n - 0x10000) / 0x400
    let low := 0xDC00 + (n - 0x10000) % 0x400
    '\\' :: 'u' :: Hex.unit high ++ '\\' :: 'u' :: Hex.unit low

def asciiText (v : Json) : String := String.ofList (v.chars.flatMap asciiEscape)

end MarketFeed.Json
