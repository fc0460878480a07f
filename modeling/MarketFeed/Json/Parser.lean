import MarketFeed.Json.Token

/-!
# Reading JSON text

Tokens are put together from the outside in: the containers that are still open lie on a stack, and
each token either opens one, adds to the innermost, or closes it. `parse` accepts one value and
nothing behind it, nested less than 128 deep.
-/

namespace MarketFeed.Json

/-- A container that is still open. Its parts are kept last first. -/
inductive Pending
  | array (items : List Json)
  | object (fields : List (String × Json)) (name : String)

/-- What may come next. -/
inductive Expected
  | value
  /-- A value, or the end of an array that is still empty. -/
  | firstItem
  /-- The name of a field, or the end of an object that is still empty. -/
  | firstName (fields : List (String × Json))
  | name (fields : List (String × Json))
  | colon (fields : List (String × Json)) (name : String)
  /-- A comma, or the end of the innermost container. -/
  | more
  /-- Nothing: the value is complete. -/
  | done (v : Json)

/-- A value that is being put together. -/
structure Assembly where
  stack : List Pending
  expected : Expected

namespace Assembly

def start : Assembly := ⟨[], .value⟩

/-- Add a complete value to the innermost container. -/
def add (v : Json) : List Pending → Assembly
  | [] => ⟨[], .done v⟩
  | .array items :: stack => ⟨.array (v :: items) :: stack, .more⟩
  | .object fields name :: stack => ⟨.object ((name, v) :: fields) "" :: stack, .more⟩

/-- Begin a value with one token; containers stay less than `limit` deep. -/
def begin (limit : Nat) (stack : List Pending) : Token → Option Assembly
  | .atom v => some (add v stack)
  | .str s => some (add (.str s) stack)
  | .openBracket =>
    if stack.length + 1 < limit then some ⟨.array [] :: stack, .firstItem⟩ else none
  | .openBrace => if stack.length + 1 < limit then some ⟨stack, .firstName []⟩ else none
  | _ => none

def step (limit : Nat) (a : Assembly) (t : Token) : Option Assembly :=
  match a.expected, t, a.stack with
  | .firstItem, .closeBracket, .array _ :: stack => some (add (.arr []) stack)
  | .value, t, stack => begin limit stack t
  | .firstItem, t, stack => begin limit stack t
  | .firstName _, .closeBrace, stack => some (add (.obj []) stack)
  | .firstName fields, .str name, stack => some ⟨stack, .colon fields name⟩
  | .name fields, .str name, stack => some ⟨stack, .colon fields name⟩
  | .colon fields name, .colon, stack => some ⟨.object fields name :: stack, .value⟩
  | .more, .comma, .array items :: stack => some ⟨.array items :: stack, .value⟩
  | .more, .comma, .object fields _ :: stack => some ⟨stack, .name fields⟩
  | .more, .closeBracket, .array items :: stack => some (add (.arr items.reverse) stack)
  | .more, .closeBrace, .object fields _ :: stack => some (add (object fields.reverse) stack)
  | _, _, _ => none

def run (limit : Nat) (a : Assembly) : List Token → Option Assembly
  | [] => some a
  | t :: ts => (a.step limit t).bind fun a => run limit a ts

def result? (a : Assembly) : Option Json :=
  match a.expected with
  | .done v => some v
  | _ => none

end Assembly

/-- Text that is nested this deep is refused. -/
def maxDepth : Nat := 128

/-- The value that a text spells, nested less than `limit` deep. -/
def parseWithin (limit : Nat) (s : String) : Option Json := do
  let ts ← tokens s.toList
  let a ← Assembly.start.run limit ts
  a.result?

def parse (s : String) : Option Json := parseWithin maxDepth s

end MarketFeed.Json
