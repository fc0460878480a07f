import MarketFeed.Number.Binary64

/-!
# JSON values

A number is an integer where its text is one within 64 bits, and binary floating point otherwise.
The fields of an object are kept in the order of their names, each name once.
-/

namespace MarketFeed

/-- A JSON value. -/
inductive Json
  | null
  | bool (b : Bool)
  | int (n : Int)
  | double (x : Binary64)
  | str (s : String)
  | arr (items : List Json)
  | obj (fields : List (String × Json))
  deriving Repr

namespace Json

instance : Inhabited Json := ⟨null⟩

/-- Put a field at its place in the order of names, over an earlier one of that name. -/
def insertField (name : String) (value : Json) :
    List (String × Json) → List (String × Json)
  | [] => [(name, value)]
  | (k, v) :: rest =>
    if name < k then (name, value) :: (k, v) :: rest
    else if name = k then (name, value) :: rest
    else (k, v) :: insertField name value rest

/-- The object with these fields; a later field replaces an earlier one of its name. -/
def object (fields : List (String × Json)) : Json :=
  .obj (fields.foldl (fun acc (k, v) => insertField k v acc) [])

/-- The value of a field, if this is an object that has it. -/
def field? (name : String) : Json → Option Json
  | .obj fields => (fields.find? (·.1 == name)).map (·.2)
  | _ => none

def isObject : Json → Bool
  | .obj _ => true
  | _ => false

/-- The least integer that is kept as one, in 64 bits with a sign. -/
def minInt : Int := -9223372036854775808

/-- The greatest integer that is kept as one, in 64 bits without a sign. -/
def maxInt : Int := 18446744073709551615

end Json

end MarketFeed
