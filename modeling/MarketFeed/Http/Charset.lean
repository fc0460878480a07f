import MarketFeed.Http.Head
import MarketFeed.Json.Token
import MarketFeed.Text.Utf8

/-!
# Charsets

How the bytes of a body are read as text. The media type in the head of a reply may name a charset as
one of its parameters; without one that is known the text is UTF-8.
-/

namespace MarketFeed

/-! ## Media types -/

namespace MediaType

/-- Whether a character may stand in the name of a type or a parameter, or in a value without
quotes. -/
def isTokenChar (c : Char) : Bool := c.isAlphanum || "!#$%&'+-.^_\x60|~".toList.contains c

/-- The name of a parameter and its value. -/
abbrev Param := List Char × List Char

/-- Where a reader of parameters stands. -/
inductive Point
  | name
  | value
  /-- In a value in quotes. -/
  | quote
  /-- Behind a value in quotes. -/
  | behind
  deriving DecidableEq, Repr

/-- Parameters between semicolons. `name` is the name of the one that is being read, and `part` what
has been read of its name or value. -/
def params? : Point → (name part : List Char) → List Char → Option (List Param)
  | .name, _, [], [] => some []
  | .name, _, _, [] => none
  | .name, _, part, c :: rest =>
    if c = ' ' ∧ part = [] then params? .name [] [] rest
    else if c = '=' ∧ part ≠ [] then params? .value part [] rest
    else if isTokenChar c then params? .name [] (part ++ [c]) rest
    else none
  | .value, name, part, [] => some [(name, part)]
  | .value, name, part, c :: rest =>
    if c = '"' ∧ part = [] then params? .quote name [] rest
    else if c = ';' ∧ part ≠ [] then (params? .name [] [] rest).map ((name, part) :: ·)
    else if isTokenChar c then params? .value name (part ++ [c]) rest
    else none
  | .quote, _, _, [] => none
  | .quote, name, part, c :: rest =>
    if c = '"' ∧ part ≠ [] then params? .behind name part rest
    else if c = '\t' then none
    else params? .quote name (part ++ [c]) rest
  | .behind, name, part, [] => some [(name, part)]
  | .behind, name, part, c :: rest =>
    if c = ';' then (params? .name [] [] rest).map ((name, part) :: ·)
    else if c = ' ' then params? .behind name part rest
    else none

/-- The parameters of a media type. -/
def read? (cs : List Char) : Option (List Param) :=
  match cs.span isTokenChar with
  | (_ :: _, '/' :: rest) =>
    match rest.span isTokenChar with
    | (_, []) => some []
    | (_ :: _, ';' :: rest) => params? .name [] [] rest
    | _ => none
  | _ => none

/-- The value of a header as text, if its characters can be seen. -/
def visible? (value : List UInt8) : Option (List Char) :=
  if value.all fun b => b == 0x09 || (0x20 ≤ b && b ≤ 0x7E) then
    some (value.map fun b => Char.ofNat b.toNat)
  else none

end MediaType

/-! ## Reading text -/

/-- The charsets that are told apart. -/
inductive Charset
  | utf8
  | utf16Little
  | utf16Big
  /-- One byte for each character, Western. -/
  | western
  deriving DecidableEq, Repr

namespace Charset

/-- The names of each charset. Names of other charsets are as good as none: what they stand for is left
out. -/
def names : Charset → List String
  | .utf8 => ["unicode-1-1-utf-8", "unicode11utf8", "unicode20utf8", "utf-8", "utf8", "x-unicode20utf8"]
  | .utf16Little =>
    ["csunicode", "iso-10646-ucs-2", "ucs-2", "unicode", "unicodefeff", "utf-16", "utf-16le"]
  | .utf16Big => ["unicodefffe", "utf-16be"]
  | .western =>
    ["ansi_x3.4-1968", "ascii", "cp1252", "cp819", "csisolatin1", "ibm819", "iso-8859-1", "iso-ir-100",
      "iso8859-1", "iso88591", "iso_8859-1", "iso_8859-1:1987", "l1", "latin1", "us-ascii",
      "windows-1252", "x-cp1252"]

def ofName? (name : List Char) : Option Charset :=
  let name := String.ofList (name.map Char.toLower)
  [utf8, utf16Little, utf16Big, western].find? fun charset => charset.names.contains name

/-- The charset that the value of a header names. Blanks around its name mean nothing. -/
def ofContentType? (value : List UInt8) : Option Charset := do
  let text ← MediaType.visible? value
  let params ← MediaType.read? text
  let (_, label) ← params.find? fun (name, _) => name.map Char.toLower = "charset".toList
  let label := label.dropWhile (· == ' ')
  ofName? (label.reverse.dropWhile (· == ' ')).reverse

def ofHead (h : ReplyHead) : Charset := ((h.value? "content-type").bind ofContentType?).getD .utf8

/-- Code units of two bytes as characters. A half without its partner becomes U+FFFD. -/
def utf16Chars (unit : UInt8 → UInt8 → Nat) (high : Option Nat) : List UInt8 → List Char
  | a :: b :: rest =>
    let n := unit a b
    let lost := if high.isSome then ['\uFFFD'] else []
    if Json.isLowHalf n then
      match high with
      | some h => Json.joinHalves h n :: utf16Chars unit none rest
      | none => '\uFFFD' :: utf16Chars unit none rest
    else if Json.isHighHalf n then lost ++ utf16Chars unit (some n) rest
    else lost ++ Char.ofNat n :: utf16Chars unit none rest
  | [_] => (if high.isSome then ['\uFFFD'] else []) ++ ['\uFFFD']
  | [] => if high.isSome then ['\uFFFD'] else []

/-- The Western characters from 0x80 to 0x9F. The others are those of their numbers. -/
def westernPoints : List Nat := [
  0x20AC, 0x81, 0x201A, 0x192, 0x201E, 0x2026, 0x2020, 0x2021, 0x2C6, 0x2030, 0x160, 0x2039, 0x152,
  0x8D, 0x17D, 0x8F, 0x90, 0x2018, 0x2019, 0x201C, 0x201D, 0x2022, 0x2013, 0x2014, 0x2DC, 0x2122,
  0x161, 0x203A, 0x153, 0x9D, 0x17E, 0x178]

def westernChar (b : UInt8) : Char :=
  Char.ofNat (if b < 0x80 then b.toNat else westernPoints.getD (b.toNat - 0x80) b.toNat)

/-- Bytes as text. What cannot be read becomes U+FFFD. -/
def decode : Charset → List UInt8 → String
  | .utf8, bytes => Utf8.decodeLossy bytes
  | .utf16Little, bytes =>
    String.ofList (utf16Chars (fun a b => b.toNat * 256 + a.toNat) none bytes)
  | .utf16Big, bytes =>
    String.ofList (utf16Chars (fun a b => a.toNat * 256 + b.toNat) none bytes)
  | .western, bytes => String.ofList (bytes.map westernChar)

example : ofContentType? (Utf8.encode "text/plain; charset=\"Latin1\"; q=1") = some .western := by rfl
example : ofContentType? (Utf8.encode "application/json; Charset=utf-16le") = some .utf16Little := by
  rfl
example : ofContentType? (Utf8.encode "application/json;charset") = none := by rfl
example : western.decode [0x47, 0xFC, 0x80] = "Gü€" := by rfl

end Charset

end MarketFeed
