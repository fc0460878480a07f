import MarketFeed.Decimal.Basic
import MarketFeed.Number.Integer

/-!
# Reading decimals

`plain` reads an optional sign and digits with at most one point; a low line between digits is
skipped. Digits behind the point that no longer fit are rounded away. `scientific` reads such a text
with an exponent, and `read` takes the first of the two that succeeds.
-/

namespace MarketFeed.Decimal

/-- Why text is no decimal. -/
inductive Fault
  | empty
  | noDigits
  | twoPoints
  | leadingSeparator
  | unknownCharacter
  | tooManyDigits
  | overflowAfterRounding
  /-- There is no exponent, or it is no number. -/
  | unreadable
  | scaleTooLarge (scale : Nat)
  | tooLarge
  deriving DecidableEq, Repr

def Fault.message : Fault → String
  | .empty => "Invalid decimal: empty"
  | .noDigits => "Invalid decimal: no digits found"
  | .twoPoints => "Invalid decimal: two decimal points"
  | .leadingSeparator => "Invalid decimal: must start lead with a number"
  | .unknownCharacter => "Invalid decimal: unknown character"
  | .tooManyDigits => "Invalid decimal: overflow from too many digits"
  | .overflowAfterRounding => "Invalid decimal: overflow from mantissa after rounding"
  | .unreadable => "Failed to parse"
  | .scaleTooLarge scale => s!"Scale exceeds the maximum precision allowed: {scale} > 28"
  | .tooLarge => "Number exceeds maximum value that can be represented."

/-- What is wrong with a character that cannot stand where it does. -/
def misplaced : Char → Fault
  | '.' => .twoPoints
  | '_' => .leadingSeparator
  | _ => .unknownCharacter

/-- The decimal with these parts. Its parts are within the bounds wherever this is used. -/
def make (negative : Bool) (mantissa scale : Nat) : Except Fault Decimal :=
  match ofParts? negative mantissa scale with
  | some d => .ok d
  | none => .error .tooManyDigits

/-- The first of these characters that is neither a digit nor a low line. -/
def stray? (cs : List Char) : Option Char :=
  cs.find? fun c => (Integer.digit? c).isNone && c != '_'

/-- Finish a mantissa that holds no further digit: the next digit rounds it, a half upwards, and the
rest has only to be digits. If rounding overflows the mantissa, it gives up its last digit. -/
def round (negative : Bool) (m scale digit : Nat) (rest : List Char) : Except Fault Decimal :=
  match stray? rest with
  | some c => .error (misplaced c)
  | none =>
    if digit < 5 then make negative m scale
    else if m + 1 < mantissaBound then make negative (m + 1) scale
    else if scale = 0 then .error .overflowAfterRounding
    else make negative ((m + 1 + 4) / 10) (scale - 1)

/-- Round by the next digit behind any low lines; if none is left there is nothing to round. -/
def roundNext (negative : Bool) (m scale : Nat) : List Char → Except Fault Decimal
  | [] => make negative m scale
  | '_' :: rest => roundNext negative m scale rest
  | c :: rest =>
    match Integer.digit? c with
    | some digit => round negative m scale digit rest
    | none => .error (misplaced c)

/-- A mantissa below this holds another digit in 64 bits. -/
def narrowBound : Nat := 18446744073709551615 / 10 - 255

/-- Digits behind a mantissa that may fill its 96 bits. -/
def wide (negative point : Bool) (m scale : Nat) : List Char → Except Fault Decimal
  | [] => make negative m scale
  | c :: rest =>
    match Integer.digit? c with
    | some digit =>
      let next := m * 10 + digit
      if mantissaBound ≤ next then
        if point then round negative m scale digit rest else .error .tooManyDigits
      else
        let scale := if point then scale + 1 else scale
        if point && maxScale ≤ scale then roundNext negative next scale rest
        else wide negative point next scale rest
    | none =>
      if c = '.' && !point then wide negative true m scale rest
      else if c = '_' then wide negative point m scale rest
      else .error (misplaced c)

/-- Digits behind a mantissa below `narrowBound`. `started` says that there was a digit. Where the
scale is used up, the next character decides the rounding, and a low line rounds down. -/
def narrow (negative point started : Bool) (m scale : Nat) : List Char → Except Fault Decimal
  | [] => if started then make negative m scale else .error .noDigits
  | c :: rest =>
    match Integer.digit? c with
    | some digit =>
      let m := m * 10 + digit
      let scale := if point then scale + 1 else 0
      match rest with
      | [] => make negative m scale
      | next :: rest' =>
        if point && maxScale ≤ scale then
          match Integer.digit? next with
          | some digit => round negative m scale digit rest'
          | none =>
            if next = '_' then round negative m scale 0 rest' else .error (misplaced next)
        else if narrowBound ≤ m then wide negative point m scale (next :: rest')
        else narrow negative point true m scale (next :: rest')
    | none =>
      if c = '.' && !point then narrow negative true started m scale rest
      else if c = '_' && started then narrow negative point started m scale rest
      else .error (misplaced c)

/-- Digits with at most one point, after an optional sign. -/
def plain : List Char → Except Fault Decimal
  | [] => .error .empty
  | '-' :: rest => narrow true false false 0 0 rest
  | '+' :: rest => narrow false false false 0 0 rest
  | cs => narrow false false false 0 0 cs

/-- Text before and behind the first `e` or `E`. -/
def splitExponent : List Char → Option (List Char × List Char)
  | [] => none
  | c :: rest =>
    if c = 'e' ∨ c = 'E' then some ([], rest)
    else (splitExponent rest).map fun (base, exponent) => (c :: base, exponent)

/-- Shift the point to the left; digits that no scale can hold are rounded away, a half away from
zero. -/
def shrink (d : Decimal) (n : Nat) : Except Fault Decimal :=
  if maxScale < n then .error (.scaleTooLarge n)
  else if d.scale + n ≤ maxScale then make d.negative d.mantissa (d.scale + n)
  else
    let unit := Nat.pow 10 (d.scale + n - maxScale)
    make d.negative ((d.mantissa + unit / 2) / unit) maxScale

def grow (d : Decimal) (n : Nat) : Except Fault Decimal :=
  if n ≤ d.scale then make d.negative d.mantissa (d.scale - n)
  else if maxScale < n then .error (.scaleTooLarge n)
  else if d.mantissa * Nat.pow 10 (n - d.scale) < mantissaBound then
    make d.negative (d.mantissa * Nat.pow 10 (n - d.scale)) 0
  else .error .tooLarge

/-- A plain decimal, `e` or `E`, and a whole exponent. -/
def scientific (cs : List Char) : Except Fault Decimal :=
  match splitExponent cs with
  | none => .error .unreadable
  | some (base, exponent) =>
    match plain base with
    | .error fault => .error fault
    | .ok d =>
      match exponent with
      | '-' :: digits =>
        match Integer.readUInt32 digits with
        | .ok n => d.shrink n
        | .error _ => .error .unreadable
      | digits =>
        match Integer.readUInt32 digits with
        | .ok n => d.grow n
        | .error _ => .error .unreadable

def read (s : String) : Except Fault Decimal :=
  match plain s.toList with
  | .ok d => .ok d
  | .error _ => scientific s.toList

end MarketFeed.Decimal
