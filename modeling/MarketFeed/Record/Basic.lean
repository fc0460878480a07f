import MarketFeed.Record.Codec

/-!
# Records

A record is a list of named fields with a codec each. It is read from an object, whose entries are
taken in the order of their names and whose missing fields are then filled in or reported in the
order of the record, or from an array, whose items are taken in the order of the record.
-/

namespace MarketFeed

/-- A field of a record. -/
structure Field where
  name : String
  Value : Type
  codec : Codec Value
  /-- The value of the field in an object without it. -/
  absent? : Option Value
  /-- Whether an array may end before the field. -/
  mayEnd : Bool

namespace Field

def required {α : Type} (name : String) (c : Codec α) : Field := ⟨name, α, c, none, false⟩

/-- A field that has a value even if it is absent. -/
def withDefault {α : Type} (name : String) (c : Codec α) (default : α) : Field :=
  ⟨name, α, c, some default, true⟩

def text (name : String) : Field := withDefault name .text ""

def decimal (name : String) : Field := withDefault name .decimal .zero

def millis (name : String) : Field := withDefault name .millis 0

def count (name : String) : Field := withDefault name .count 0

/-- A text that may be absent from an object; an array has to hold it. -/
def optionalText (name : String) : Field :=
  ⟨name, Option String, .optional .text, some none, false⟩

end Field

def Values : List Field → Type
  | [] => Unit
  | f :: fs => f.Value × Values fs

/-- The values of fields as far as they are known. -/
def Slots : List Field → Type
  | [] => Unit
  | f :: fs => Option f.Value × Slots fs

namespace Slots

def empty : (fs : List Field) → Slots fs
  | [] => ()
  | _ :: fs => (none, empty fs)

/-- Read the entry of an object into the slot of its name; without such a slot it is skipped. -/
def put (name : String) (v : Json) : (fs : List Field) → Slots fs → Except Mismatch (Slots fs)
  | [], slots => .ok slots
  | f :: fs, (slot, slots) =>
    if f.name = name then do
      let a ← f.codec.read v
      .ok (some a, slots)
    else do
      let slots ← put name v fs slots
      .ok (slot, slots)

theorem put_cons_of_eq {f : Field} {fs : List Field} {name : String} (h : f.name = name) (v : Json)
    (slot : Option f.Value) (slots : Slots fs) :
    put name v (f :: fs) (slot, slots) = (f.codec.read v).map fun a => (some a, slots) :=
  if_pos h

theorem put_cons_of_ne {f : Field} {fs : List Field} {name : String} (h : f.name ≠ name) (v : Json)
    (slot : Option f.Value) (slots : Slots fs) :
    put name v (f :: fs) (slot, slots) = (put name v fs slots).map fun slots => (slot, slots) :=
  if_neg h

/-- Read the entries of an object in their order. -/
def putAll (fs : List Field) (slots : Slots fs) :
    List (String × Json) → Except Mismatch (Slots fs)
  | [] => .ok slots
  | (name, v) :: rest => do
    let slots ← put name v fs slots
    putAll fs slots rest

/-- Fill the slots that are still empty; report the first field that has to be present. -/
def complete : (fs : List Field) → Slots fs → Except Mismatch (Values fs)
  | [], _ => .ok ()
  | f :: fs, (slot, slots) => do
    let a ← match slot with
      | some a => .ok a
      | none =>
        match f.absent? with
        | some a => .ok a
        | none => .error (.missingField f.name)
    let as ← complete fs slots
    .ok (a, as)

theorem complete_cons {f : Field} {fs : List Field} (slot : Option f.Value) (slots : Slots fs) :
    complete (f :: fs) (slot, slots) =
      match slot.or f.absent? with
      | some a => (complete fs slots).map fun as => (a, as)
      | none => .error (.missingField f.name) := by
  cases slot with
  | some a => rfl
  | none =>
    rw [complete, Option.none_or]
    cases f.absent? <;> rfl

end Slots

/-- A record: the name that messages give it, and its fields. -/
structure Schema where
  name : String
  fields : List Field

namespace Schema

/-- Read the items of an array, from the field at `index` on; `size` is the number of fields. Items
beyond the last field are left. -/
def readItems (record : String) (size index : Nat) :
    (fs : List Field) → List Json → Except Mismatch (Values fs × List Json)
  | [], items => .ok ((), items)
  | f :: fs, [] =>
    match f.absent?, f.mayEnd with
    | some a, true => do
      let (as, rest) ← readItems record size (index + 1) fs []
      .ok ((a, as), rest)
    | _, _ => .error (.tooFewItems index record size)
  | f :: fs, v :: items => do
    let a ← f.codec.read v
    let (as, rest) ← readItems record size (index + 1) fs items
    .ok ((a, as), rest)

def readArray (s : Schema) (items : List Json) : Except Mismatch (Values s.fields) := do
  let (as, rest) ← readItems s.name s.fields.length 0 s.fields items
  match rest with
  | [] => .ok as
  | _ => .error (.tooManyItems items.length)

def readObject (s : Schema) (entries : List (String × Json)) :
    Except Mismatch (Values s.fields) := do
  let slots ← Slots.putAll s.fields (Slots.empty s.fields) entries
  Slots.complete s.fields slots

theorem readObject_eq (s : Schema) (entries : List (String × Json)) :
    s.readObject entries =
      (Slots.putAll s.fields (Slots.empty s.fields) entries).bind (Slots.complete s.fields) := rfl

def writeFields : (fs : List Field) → Values fs → List (String × Json)
  | [], _ => []
  | f :: fs, (a, as) => (f.name, f.codec.write a) :: writeFields fs as

/-- Reading a record from an object or an array, and writing it to an object. -/
def codec (s : Schema) : Codec (Values s.fields) where
  read
    | .obj entries => s.readObject entries
    | .arr items => s.readArray items
    | v => .error (.type v ("struct " ++ s.name))
  write as := Json.object (writeFields s.fields as)

end Schema

end MarketFeed
