import Mathlib.Data.List.Nodup
import MarketFeed.Proofs.Json.Fields
import MarketFeed.Proofs.Json.RoundTrip
import MarketFeed.Proofs.Number.Integer
import MarketFeed.Record.Basic

/-!
# What a record is written as

Whatever holds of what each of its fields writes holds of all that a record writes after it was read
(`writes_of_read`). A field is found under its name in what is written (`field?_write`), and where all
fields write strings and whole numbers within 64 bits, the text reads back (`parse_written`).
-/

namespace MarketFeed

open Json (isExact haveExact depth fieldsDepth)

variable {P : Json → Prop}

/-- A computation in two steps succeeds if both of them do. -/
theorem exists_of_bind {ε α β : Type} {x : Except ε α} {f : α → Except ε β} {b : β}
    (h : x >>= f = .ok b) : ∃ a, x = .ok a ∧ f a = .ok b := by
  cases x with
  | error e => cases h
  | ok a => exact ⟨a, rfl, h⟩

theorem exists_of_map_eq_ok {ε α β : Type} {f : α → β} {r : Except ε α} {b : β}
    (h : r.map f = .ok b) : ∃ a, r = .ok a ∧ f a = b := by
  cases r with
  | error e => cases h
  | ok a => exact ⟨a, rfl, Except.ok.inj h⟩

/-- Something holds of whatever a codec writes of what it has read. -/
def Codec.Writes {α : Type} (P : Json → Prop) (c : Codec α) : Prop :=
  ∀ v a, c.read v = .ok a → P (c.write a)

/-- Something holds of whatever a field writes: of what was read, and of its value if it is absent. -/
structure Field.Writes (P : Json → Prop) (f : Field) : Prop where
  read : f.codec.Writes P
  absent : ∀ a, f.absent? = some a → P (f.codec.write a)

/-! ## Reading keeps what holds of every field -/

/-- Something holds of whatever the slots that are filled write. -/
def Slots.Write (P : Json → Prop) : (fs : List Field) → Slots fs → Prop
  | [], _ => True
  | f :: fs, (slot, slots) => (∀ a, slot = some a → P (f.codec.write a)) ∧ Slots.Write P fs slots

/-- Something holds of whatever values write. -/
def Values.Write (P : Json → Prop) : (fs : List Field) → Values fs → Prop
  | [], _ => True
  | f :: fs, (a, as) => P (f.codec.write a) ∧ Values.Write P fs as

theorem Values.Write.forall_mem : ∀ {fs : List Field} {as : Values fs}, as.Write P fs →
    ∀ e ∈ Schema.writeFields fs as, P e.2
  | [], _, _ => nofun
  | _ :: _, (_, _), h => List.forall_mem_cons.mpr ⟨h.1, h.2.forall_mem⟩

namespace Slots

theorem write_empty : ∀ fs : List Field, (empty fs).Write P fs
  | [] => trivial
  | _ :: fs => ⟨nofun, write_empty fs⟩

theorem put_write {name : String} {v : Json} : ∀ {fs : List Field}, (∀ f ∈ fs, f.Writes P) →
    ∀ {slots slots' : Slots fs}, slots.Write P fs → put name v fs slots = .ok slots' →
    slots'.Write P fs
  | [], _, _, _, _, _ => trivial
  | f :: fs, hfields, (slot, slots), _, hslots, h => by
    obtain ⟨hfield, hrest⟩ := List.forall_mem_cons.mp hfields
    by_cases hname : f.name = name
    · rw [put_cons_of_eq hname] at h
      obtain ⟨a, hread, rfl⟩ := exists_of_map_eq_ok h
      refine ⟨fun a' ha' => ?_, hslots.2⟩
      cases ha'
      exact hfield.read v a hread
    · rw [put_cons_of_ne hname] at h
      obtain ⟨slots', hput, rfl⟩ := exists_of_map_eq_ok h
      exact ⟨hslots.1, put_write hrest hslots.2 hput⟩

/-- What each entry of an object keeps of the slots, all of them keep. -/
theorem putAll_invariant {fs : List Field} {I : Slots fs → Prop} {entries : List (String × Json)}
    (hput : ∀ e ∈ entries, ∀ {slots slots' : Slots fs}, I slots →
      put e.1 e.2 fs slots = .ok slots' → I slots')
    {slots slots' : Slots fs} (hslots : I slots) (h : putAll fs slots entries = .ok slots') :
    I slots' := by
  induction entries generalizing slots with
  | nil =>
    cases h
    exact hslots
  | cons e rest ih =>
    obtain ⟨hfirst, hrest⟩ := List.forall_mem_cons.mp hput
    obtain ⟨next, hnext, h⟩ := exists_of_bind h
    exact ih hrest (hfirst hslots hnext) h

theorem putAll_write {fs : List Field} (hfields : ∀ f ∈ fs, f.Writes P) {slots slots' : Slots fs}
    {entries : List (String × Json)} (hslots : slots.Write P fs)
    (h : putAll fs slots entries = .ok slots') : slots'.Write P fs :=
  putAll_invariant (fun _ _ => put_write hfields) hslots h

theorem complete_write : ∀ {fs : List Field}, (∀ f ∈ fs, f.Writes P) → ∀ {slots : Slots fs}
    {as : Values fs}, slots.Write P fs → complete fs slots = .ok as → as.Write P fs
  | [], _, _, _, _, _ => trivial
  | f :: fs, hfields, (slot, slots), _, hslots, h => by
    obtain ⟨hfield, hrest⟩ := List.forall_mem_cons.mp hfields
    rw [complete_cons] at h
    split at h
    · rename_i a hvalue
      obtain ⟨as, htail, rfl⟩ := exists_of_map_eq_ok h
      refine ⟨?_, complete_write hrest hslots.2 htail⟩
      rcases Option.or_eq_some_iff.mp hvalue with hslot | ⟨-, habsent⟩
      · exact hslots.1 a hslot
      · exact hfield.absent a habsent
    · cases h

end Slots

namespace Schema

theorem readItems_write {record : String} {size : Nat} : ∀ {fs : List Field},
    (∀ f ∈ fs, f.Writes P) → ∀ {index : Nat} {items rest : List Json} {as : Values fs},
    readItems record size index fs items = .ok (as, rest) → as.Write P fs
  | [], _, _, _, _, _, _ => trivial
  | f :: fs, hfields, index, [], _, _, h => by
    obtain ⟨hfield, hrest⟩ := List.forall_mem_cons.mp hfields
    rw [readItems] at h
    split at h
    · rename_i a habsent _
      obtain ⟨read, htail, h⟩ := exists_of_bind h
      cases h
      exact ⟨hfield.absent a habsent, readItems_write hrest htail⟩
    · cases h
  | f :: fs, hfields, index, v :: items, _, _, h => by
    obtain ⟨hfield, hrest⟩ := List.forall_mem_cons.mp hfields
    obtain ⟨a, hread, h⟩ := exists_of_bind h
    obtain ⟨read, htail, h⟩ := exists_of_bind h
    cases h
    exact ⟨hfield.read v a hread, readItems_write hrest htail⟩

/-- What holds of whatever the fields write holds of all that a record writes that was read. -/
theorem writes_of_read {s : Schema} (hfields : ∀ f ∈ s.fields, f.Writes P) {v : Json}
    {as : Values s.fields} (h : s.codec.read v = .ok as) : ∀ e ∈ writeFields s.fields as, P e.2 := by
  apply Values.Write.forall_mem
  cases v with
  | obj entries =>
    obtain ⟨slots, hput, h⟩ := exists_of_bind h
    exact Slots.complete_write hfields
      (Slots.putAll_write hfields (Slots.write_empty s.fields) hput) h
  | arr items =>
    obtain ⟨⟨as', rest⟩, hitems, h⟩ := exists_of_bind h
    cases rest with
    | nil =>
      cases h
      exact readItems_write hfields hitems
    | cons _ _ => cases h
  | _ => cases h

/-! ## What is written -/

theorem map_fst_writeFields : ∀ (fs : List Field) (as : Values fs),
    (writeFields fs as).map Prod.fst = fs.map Field.name
  | [], _ => rfl
  | f :: fs, (_, as) => congrArg (f.name :: ·) (map_fst_writeFields fs as)

/-- What is written of a field is found under its name. -/
theorem field?_write {s : Schema} (hnames : (s.fields.map Field.name).Nodup) (as : Values s.fields)
    {name : String} {v : Json} (h : (name, v) ∈ writeFields s.fields as) :
    (s.codec.write as).field? name = some v := by
  have hnodup : ((writeFields s.fields as).map Prod.fst).Nodup := by
    rw [map_fst_writeFields]
    exact hnames
  have hwrite : s.codec.write as = Json.object (writeFields s.fields as) := rfl
  rw [hwrite, Json.field?_object]
  have hmem : (name, v) ∈ (writeFields s.fields as).filter (·.1 == name) :=
    List.mem_filter.mpr ⟨h, beq_self_eq_true name⟩
  have hlast := List.getLast?_eq_getLast_of_ne_nil (List.ne_nil_of_mem hmem)
  obtain ⟨hin, hname⟩ := List.mem_filter.mp (List.getLast_mem (List.ne_nil_of_mem hmem))
  rw [hlast, Option.map_some]
  rw [List.inj_on_of_nodup_map hnodup hin h (beq_iff_eq.mp hname)]

end Schema

/-! ## Values without others in them -/

/-- A value that is what its text says, and that holds no other values. -/
structure Json.IsPlain (v : Json) : Prop where
  exact : v.isExact = true
  depth : v.depth = 0

namespace Json

theorem isPlain_str (s : String) : (str s).IsPlain := ⟨rfl, rfl⟩

theorem isPlain_int {n : Int} (hlow : minInt ≤ n) (hhigh : n ≤ maxInt) : (int n).IsPlain :=
  ⟨by simp [isExact, hlow, hhigh], rfl⟩

theorem haveExact_of_isPlain {fields : List (String × Json)} (h : ∀ e ∈ fields, e.2.IsPlain) :
    haveExact fields = true ∧ fieldsDepth fields = 0 := by
  induction fields with
  | nil => exact ⟨rfl, rfl⟩
  | cons e rest ih =>
    obtain ⟨name, v⟩ := e
    obtain ⟨hv, hrest⟩ := List.forall_mem_cons.mp h
    obtain ⟨hexact, hdepth⟩ := ih hrest
    constructor
    · rw [haveExact, hv.exact, hexact]
      rfl
    · rw [fieldsDepth, hv.depth, hdepth]
      rfl

end Json

/-- The text of a record reads as the record was written. -/
theorem Schema.parse_written {s : Schema} {as : Values s.fields}
    (h : ∀ e ∈ writeFields s.fields as, e.2.IsPlain) :
    Json.parse (Json.obj (writeFields s.fields as)).text = some (s.codec.write as) := by
  obtain ⟨hexact, hdepth⟩ := Json.haveExact_of_isPlain h
  rw [Json.parse_text_obj hexact, if_pos]
  · rfl
  · rw [depth, hdepth]
    decide

/-! ## The codecs of fields -/

namespace Codec

@[simp] theorem writes_text : Codec.text.Writes Json.IsPlain := fun _ a _ => Json.isPlain_str a

@[simp] theorem writes_decimal : Codec.decimal.Writes Json.IsPlain :=
  fun _ a _ => Json.isPlain_str (toString a)

/-- A whole number that was read from text between two bounds lies between them. -/
theorem writes_viaText_int {parse : String → Except Mismatch Int} (low high : Int)
    (hlow : Json.minInt ≤ low) (hhigh : high ≤ Json.maxInt)
    (hparse : ∀ raw n, parse raw = .ok n → low ≤ n ∧ n ≤ high) :
    (viaText parse .int).Writes Json.IsPlain := by
  intro v n h
  obtain ⟨raw, -, h⟩ := exists_of_bind h
  obtain ⟨hl, hh⟩ := hparse raw n h
  exact Json.isPlain_int (Int.le_trans hlow hl) (Int.le_trans hh hhigh)

@[simp] theorem writes_millis : Codec.millis.Writes Json.IsPlain := by
  apply writes_viaText_int (-9223372036854775808) 9223372036854775807 (by decide) (by decide)
  intro raw n h
  rw [parseMillis] at h
  split_ifs at h
  · cases h
    decide
  · split at h
    · rename_i m hread
      cases h
      exact ((Integer.read_eq_ok_iff (by decide) (by decide) _ _).mp hread).2
    · cases h

@[simp] theorem writes_count : Codec.count.Writes Json.IsPlain := by
  apply writes_viaText_int (-2147483648) 2147483647 (by decide) (by decide)
  intro raw n h
  rw [parseCount] at h
  split_ifs at h
  · cases h
    decide
  · split at h
    · rename_i m hread
      cases h
      exact ((Integer.read_eq_ok_iff (by decide) (by decide) _ _).mp hread).2
    · cases h

@[simp] theorem writes_names {α : Type} (table : List (String × α)) (nameOf : α → String) :
    (names table nameOf).Writes Json.IsPlain := fun _ a _ => Json.isPlain_str (nameOf a)

end Codec

namespace Field

@[simp] theorem writes_required {α : Type} {c : Codec α} (h : c.Writes P) (name : String) :
    (required name c).Writes P :=
  ⟨h, nofun⟩

theorem writes_withDefault {α : Type} {c : Codec α} (h : c.Writes P) (name : String) {default : α}
    (hdefault : P (c.write default)) : (withDefault name c default).Writes P := by
  refine ⟨h, fun a ha => ?_⟩
  cases ha
  exact hdefault

@[simp] theorem writes_text (name : String) : (text name).Writes Json.IsPlain :=
  writes_withDefault Codec.writes_text name (Json.isPlain_str _)

@[simp] theorem writes_decimal (name : String) : (decimal name).Writes Json.IsPlain :=
  writes_withDefault Codec.writes_decimal name (Json.isPlain_str _)

@[simp] theorem writes_millis (name : String) : (millis name).Writes Json.IsPlain :=
  writes_withDefault Codec.writes_millis name (Json.isPlain_int (by decide) (by decide))

@[simp] theorem writes_count (name : String) : (count name).Writes Json.IsPlain :=
  writes_withDefault Codec.writes_count name (Json.isPlain_int (by decide) (by decide))

end Field

end MarketFeed
