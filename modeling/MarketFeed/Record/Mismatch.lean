import MarketFeed.Json.Printer
import MarketFeed.Decimal.Reader
import MarketFeed.Text.Quoted

/-!
# Mismatches

Why a JSON value does not have the form that a record or one of its fields asks for, and the
sentence that says so.
-/

namespace MarketFeed

/-- Why a value is not read. -/
inductive Mismatch
  /-- A value of another type than the expected one. -/
  | type (found : Json) (expected : String)
  /-- A name outside of a closed list. -/
  | variant (name : String) (known : List String)
  /-- An object that names no variant or several. -/
  | variantCount
  | missingField (name : String)
  /-- An array that ends before a field of a record that has to be present. -/
  | tooFewItems (count : Nat) (record : String) (size : Nat)
  | tooManyItems (count : Nat)
  | decimal (raw : String) (fault : Decimal.Fault)
  | timestamp (raw : String) (fault : Integer.Fault)
  | integer (fault : Integer.Fault)
  | shortRow (count : Nat)
  deriving Repr

namespace Mismatch

def kind : Json → String
  | .null => "null"
  | .bool b => s!"boolean `{b}`"
  | .int n => s!"integer `{String.ofList (Json.intText n)}`"
  | .double x => s!"floating point `{String.ofList (Json.doubleText x)}`"
  | .str s => "string " ++ Quoted.ofString s
  | .arr _ => "sequence"
  | .obj _ => "map"

def mark (name : String) : String := "`" ++ name ++ "`"

def choice : List String → String
  | [a] => mark a
  | [a, b] => mark a ++ " or " ++ mark b
  | names => "one of " ++ ", ".intercalate (names.map mark)

def elements (n : Nat) : String := if n = 1 then "1 element" else s!"{n} elements"

def message : Mismatch → String
  | .type found expected => s!"invalid type: {kind found}, expected {expected}"
  | .variant name known => s!"unknown variant {mark name}, expected {choice known}"
  | .variantCount => "invalid value: map, expected map with a single key"
  | .missingField name => s!"missing field {mark name}"
  | .tooFewItems count record size =>
    s!"invalid length {count}, expected struct {record} with {elements size}"
  | .tooManyItems count => s!"invalid length {count}, expected fewer elements in array"
  | .decimal raw fault => s!"Invalid decimal '{raw}': {fault.message}"
  | .timestamp raw fault => s!"Invalid timestamp '{raw}': {fault.message}"
  | .integer fault => fault.message
  | .shortRow count => s!"Candle row needs at least 6 fields, got {count}"

end Mismatch

end MarketFeed
