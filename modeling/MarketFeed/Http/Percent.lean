import MarketFeed.Text.Hex
import MarketFeed.Text.Utf8

/-!
# Percent encoding

Text as ASCII: bytes that may not stand for themselves are written as `%` and two capital
hexadecimal digits. A form puts keys and values together, with `+` for a space.
-/

namespace MarketFeed.Percent

def hexDigit (n : Nat) : Char := if n < 10 then Char.ofNat (48 + n) else Char.ofNat (55 + n)

def escape (b : UInt8) : List Char := ['%', hexDigit (b.toNat / 16), hexDigit (b.toNat % 16)]

/-- The bytes of text, those outside of `plain` escaped. -/
def encodeBytes (plain : UInt8 → Bool) (bytes : List UInt8) : List Char :=
  bytes.flatMap fun b => if plain b then [Char.ofNat b.toNat] else escape b

/-- Text with everything outside of `plain` escaped. -/
def encode (plain : UInt8 → Bool) (s : String) : List Char := encodeBytes plain (Utf8.encode s)

/-- Bytes with escapes replaced by what they stand for. A `%` without two digits stays. -/
def decode : List UInt8 → List UInt8
  | 0x25 :: a :: b :: rest =>
    match Hex.value? (Char.ofNat a.toNat), Hex.value? (Char.ofNat b.toNat) with
    | some x, some y => UInt8.ofNat (x * 16 + y) :: decode rest
    | _, _ => 0x25 :: decode (a :: b :: rest)
  | b :: rest => b :: decode rest
  | [] => []

/-- Text with escapes replaced, if that is text again. -/
def decodeText? (cs : List Char) : Option String :=
  (Utf8.decode (decode (Utf8.encode (String.ofList cs)))).toOption

/-- Whether a byte is a visible ASCII character. -/
def isVisible (b : UInt8) : Bool := 0x21 ≤ b && b ≤ 0x7E

/-- Whether a byte is one of some ASCII characters. -/
def isOneOf (cs : List Char) (b : UInt8) : Bool := cs.contains (Char.ofNat b.toNat)

/-- What stands for itself in the path of an address. -/
def inPath (b : UInt8) : Bool :=
  isVisible b && !isOneOf ['"', '<', '>', '\x60', '#', '?', '\x7b', '\x7d'] b

/-- What stands for itself in the query of an address. -/
def inQuery (b : UInt8) : Bool := isVisible b && !isOneOf ['"', '#', '<', '>', '\''] b

/-- What stands for itself in the fragment of an address. -/
def inFragment (b : UInt8) : Bool := isVisible b && !isOneOf ['"', '<', '>', '\x60'] b

def inForm (b : UInt8) : Bool :=
  (Char.ofNat b.toNat).isAlphanum || isOneOf ['*', '-', '.', '_'] b

def formText (s : String) : List Char :=
  (Utf8.encode s).flatMap fun b =>
    if b = 0x20 then ['+'] else if inForm b then [Char.ofNat b.toNat] else escape b

def form : List (String × String) → List Char
  | [] => []
  | [(k, v)] => formText k ++ '=' :: formText v
  | (k, v) :: rest => formText k ++ '=' :: formText v ++ '&' :: form rest

end MarketFeed.Percent
