import MarketFeed.Record.Mismatch

/-!
# Codecs

How a value of a field is read from JSON and written to it. The exchange sends numbers as strings
and an empty string for an absent one, which reads as zero.
-/

namespace MarketFeed

/-- A way to read and to write values of a type. -/
structure Codec (α : Type) where
  read : Json → Except Mismatch α
  write : α → Json

namespace Codec

def text : Codec String where
  read
    | .str s => .ok s
    | v => .error (.type v "a string")
  write := .str

/-- A string that `parse` turns into a value. -/
def viaText {α : Type} (parse : String → Except Mismatch α) (write : α → Json) : Codec α where
  read v := do parse (← text.read v)
  write := write

def parseDecimal (raw : String) : Except Mismatch Decimal :=
  if raw.isEmpty then .ok .zero
  else
    match Decimal.read raw with
    | .ok d => .ok d
    | .error fault => .error (.decimal raw fault)

/-- Milliseconds since 1970 in a string; zero if empty. -/
def parseMillis (raw : String) : Except Mismatch Int :=
  if raw.isEmpty then .ok 0
  else
    match Integer.readInt64 raw with
    | .ok n => .ok n
    | .error fault => .error (.timestamp raw fault)

/-- A small whole number in a string; zero if empty. -/
def parseCount (raw : String) : Except Mismatch Int :=
  if raw.isEmpty then .ok 0
  else
    match Integer.readInt32 raw with
    | .ok n => .ok n
    | .error fault => .error (.integer fault)

/-- A decimal, written as a string with its scale kept. -/
def decimal : Codec Decimal := viaText parseDecimal fun d => .str (toString d)

def millis : Codec Int := viaText parseMillis .int

/-- A small whole number, written as a number. -/
def count : Codec Int := viaText parseCount .int

def flag : Codec Bool where
  read
    | .bool b => .ok b
    | v => .error (.type v "a boolean")
  write := .bool

def any : Codec Json := ⟨.ok, id⟩

def optional {α : Type} (c : Codec α) : Codec (Option α) where
  read
    | .null => .ok none
    | v => (c.read v).map some
  write
    | none => .null
    | some a => c.write a

/-- The values of an array, read from the first to the last. -/
def list {α : Type} (c : Codec α) : Codec (List α) where
  read
    | .arr items => items.mapM c.read
    | v => .error (.type v "a sequence")
  write as := .arr (as.map c.write)

/-- Items that read one by one read as a list. -/
theorem read_list {α β : Type} {c : Codec α} {f : β → Json} {g : β → α} {items : List β}
    (h : ∀ b ∈ items, c.read (f b) = .ok (g b)) :
    (list c).read (.arr (items.map f)) = .ok (items.map g) := by
  show (items.map f).mapM c.read = _
  induction items with
  | nil => rfl
  | cons b rest ih =>
    rw [List.map_cons, List.mapM_cons, h b (by simp), ih fun b hb => h b (by simp [hb])]
    rfl

/-- One of a list of names, each with its value; also as the only name of an object, over `null`. -/
def names {α : Type} (table : List (String × α)) (nameOf : α → String) : Codec α where
  read v :=
    let find (name : String) : Except Mismatch α :=
      match table.find? (·.1 == name) with
      | some (_, a) => .ok a
      | none => .error (.variant name (table.map (·.1)))
    match v with
    | .str name => find name
    | .obj [(name, content)] => do
      let a ← find name
      match content with
      | .null => .ok a
      | content => .error (.type content "unit")
    | .obj _ => .error .variantCount
    | v => .error (.type v "string or map")
  write a := .str (nameOf a)

/-- Read and write another type through a pair of functions. -/
def convert {α β : Type} (c : Codec α) (f : α → β) (g : β → α) : Codec β where
  read v := (c.read v).map f
  write b := c.write (g b)

end Codec

end MarketFeed
