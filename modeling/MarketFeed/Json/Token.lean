import MarketFeed.Json.Basic
import MarketFeed.Number.Integer
import MarketFeed.Text.Hex

/-!
# JSON tokens

Text cut into brackets, marks, strings and the values that have no parts. Each token is as long as
it can be, and blanks between tokens are dropped. A number is read digit by digit: digits that no
longer fit a significand of 64 bits only count as places.
-/

namespace MarketFeed.Json

/-- The smallest parts of JSON text. -/
inductive Token
  | openBracket
  | closeBracket
  | openBrace
  | closeBrace
  | colon
  | comma
  | str (s : String)
  /-- A value without parts that is no string. -/
  | atom (v : Json)

/-! ## Strings -/

/-- The number that four hexadecimal digits stand for. -/
def hexUnit? (a b c d : Char) : Option Nat := do
  let a ← Hex.value? a
  let b ← Hex.value? b
  let c ← Hex.value? c
  let d ← Hex.value? d
  some (a * 4096 + b * 256 + c * 16 + d)

/-- The character that a backslash and a letter stand for. -/
def simpleEscape? : Char → Option Char
  | '"' => some '"'
  | '\\' => some '\\'
  | '/' => some '/'
  | 'b' => some '\x08'
  | 'f' => some '\x0c'
  | 'n' => some '\n'
  | 'r' => some '\r'
  | 't' => some '\t'
  | _ => none

/-- Whether a code unit is the first half of a pair. -/
def isHighHalf (n : Nat) : Bool := 0xD800 ≤ n && n < 0xDC00

/-- Whether a code unit is the second half of a pair. -/
def isLowHalf (n : Nat) : Bool := 0xDC00 ≤ n && n < 0xE000

/-- The character that a pair of halves stands for. -/
def joinHalves (high low : Nat) : Char :=
  Char.ofNat (0x10000 + (high - 0xD800) * 0x400 + (low - 0xDC00))

/-- The characters of a string up to its closing quote, and what follows. `high` is the first half
of a pair that was just read; the second half has to come next. -/
def stringChars : Option Nat → List Char → Option (List Char × List Char)
  | none, '"' :: rest => some ([], rest)
  | high, '\\' :: 'u' :: a :: b :: c :: d :: rest =>
    match hexUnit? a b c d, high with
    | none, _ => none
    | some n, none =>
      if isHighHalf n then stringChars (some n) rest
      else if isLowHalf n then none
      else (stringChars none rest).map fun (cs, rest) => (Char.ofNat n :: cs, rest)
    | some n, some h =>
      if isLowHalf n then
        (stringChars none rest).map fun (cs, rest) => (joinHalves h n :: cs, rest)
      else none
  | none, '\\' :: c :: rest =>
    match simpleEscape? c with
    | none => none
    | some c => (stringChars none rest).map fun (cs, rest) => (c :: cs, rest)
  | none, c :: rest =>
    if c.toNat < 0x20 then none
    else (stringChars none rest).map fun (cs, rest) => (c :: cs, rest)
  | _, _ => none

/-! ## Numbers -/

/-- The greatest significand that is read digit by digit. -/
def maxSignificand : Nat := 18446744073709551615

/-- The leading decimal digits of a text, and what follows them. -/
def spanDigits : List Char → List Nat × List Char
  | [] => ([], [])
  | c :: rest =>
    match Integer.digit? c with
    | some d => let (ds, rest) := spanDigits rest; (d :: ds, rest)
    | none => ([], c :: rest)

/-- Append digits to a significand as long as it fits; also the number of digits left over. -/
def absorb (m : Nat) : List Nat → Nat × Nat
  | [] => (m, 0)
  | d :: ds => if m * 10 + d ≤ maxSignificand then absorb (m * 10 + d) ds else (m, ds.length + 1)

/-- The parts of a number's text. -/
structure NumberText where
  negative : Bool
  whole : List Nat
  /-- The digits behind the point, if there is one. -/
  fraction : Option (List Nat)
  /-- The sign and the digits of the exponent, if there is one. -/
  exponent : Option (Bool × List Nat)

/-- The greatest exponent that is told from a greater one. -/
def maxWrittenExponent : Nat := 2147483647

def ofDigits (ds : List Nat) : Nat := ds.foldl (fun n d => n * 10 + d) 0

/-- The value of a number's text; none if it is too large. -/
def NumberText.value? (t : NumberText) : Option Json :=
  let (m, more) := absorb 0 t.whole
  match t.fraction, t.exponent with
  | none, none =>
    if more = 0 ∧ t.negative = false then some (.int m)
    else if more = 0 ∧ m ≠ 0 ∧ minInt ≤ -(m : Int) then some (.int (-(m : Int)))
    else (Binary64.ofDecimal? t.negative m more).map .double
  | fraction, exponent =>
    let digits := fraction.getD []
    let (m, unused) := absorb m digits
    let places : Int := more - (digits.length - unused : Nat)
    match exponent with
    | none => (Binary64.ofDecimal? t.negative m places).map .double
    | some (down, ds) =>
      let e := ofDigits ds
      if maxWrittenExponent < e then
        if m = 0 ∨ down then some (.double { Binary64.zero with negative := t.negative }) else none
      else
        (Binary64.ofDecimal? t.negative m (if down then places - e else places + e)).map .double

/-- The fraction of a number: a point has to be followed by a digit. -/
def fractionText : List Char → Option (Option (List Nat) × List Char)
  | '.' :: rest =>
    match spanDigits rest with
    | ([], _) => none
    | (ds, rest) => some (some ds, rest)
  | rest => some (none, rest)

/-- The digits of an exponent behind its sign: at least one. -/
def exponentDigits (down : Bool) (cs : List Char) :
    Option (Option (Bool × List Nat) × List Char) :=
  match spanDigits cs with
  | ([], _) => none
  | (ds, rest) => some (some (down, ds), rest)

def exponentText : List Char → Option (Option (Bool × List Nat) × List Char)
  | c :: rest =>
    if c = 'e' ∨ c = 'E' then
      match rest with
      | '+' :: rest => exponentDigits false rest
      | '-' :: rest => exponentDigits true rest
      | rest => exponentDigits false rest
    else some (none, c :: rest)
  | [] => some (none, [])

/-- A number without its sign: no digit follows a leading zero. -/
def numberText (negative : Bool) (cs : List Char) : Option (NumberText × List Char) :=
  match spanDigits cs with
  | ([], _) => none
  | (0 :: _ :: _, _) => none
  | (whole, rest) => do
    let (fraction, rest) ← fractionText rest
    let (exponent, rest) ← exponentText rest
    some (⟨negative, whole, fraction, exponent⟩, rest)

def number? (negative : Bool) (cs : List Char) : Option (Token × List Char) := do
  let (t, rest) ← numberText negative cs
  let v ← t.value?
  some (.atom v, rest)

/-! ## Text -/

/-- The blanks that may stand between tokens. -/
def isBlank (c : Char) : Bool := c = ' ' || c = '\n' || c = '\r' || c = '\t'

/-- The token that begins with `c`, when `rest` follows, and what follows the token. -/
def token? (c : Char) (rest : List Char) : Option (Token × List Char) :=
  match c, rest with
  | '[', rest => some (.openBracket, rest)
  | ']', rest => some (.closeBracket, rest)
  | '\x7b', rest => some (.openBrace, rest)
  | '\x7d', rest => some (.closeBrace, rest)
  | ':', rest => some (.colon, rest)
  | ',', rest => some (.comma, rest)
  | '"', rest => (stringChars none rest).map fun (cs, rest) => (.str (String.ofList cs), rest)
  | 'n', 'u' :: 'l' :: 'l' :: rest => some (.atom .null, rest)
  | 't', 'r' :: 'u' :: 'e' :: rest => some (.atom (.bool true), rest)
  | 'f', 'a' :: 'l' :: 's' :: 'e' :: rest => some (.atom (.bool false), rest)
  | '-', rest => number? true rest
  | c, rest => if (Integer.digit? c).isSome then number? false (c :: rest) else none

/-- The tokens of a text, at most `fuel` of them and blanks. -/
def tokensWith : Nat → List Char → Option (List Token)
  | _, [] => some []
  | 0, _ => none
  | fuel + 1, c :: rest =>
    if isBlank c then tokensWith fuel rest
    else do
      let (t, rest) ← token? c rest
      let ts ← tokensWith fuel rest
      some (t :: ts)

/-- The tokens of a text; each token and each blank takes at least one character. -/
def tokens (cs : List Char) : Option (List Token) := tokensWith cs.length cs

end MarketFeed.Json
