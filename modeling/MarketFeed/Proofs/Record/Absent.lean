import Mathlib.Data.List.GetD
import MarketFeed.Market.AccountBalance
import MarketFeed.Market.Candle
import MarketFeed.Market.FundingRate
import MarketFeed.Market.Instrument
import MarketFeed.Market.Position
import MarketFeed.Proofs.Record.Written

/-!
# Empty strings and absent values

The exchange leaves a value out or sends an empty string for it. To a field that may be absent both
are one (`TakesEmptyAsAbsent`): an entry with an empty string fills the slot of the field with the
value that an empty slot stands for (`put_empty`), and that changes neither how the other entries are
read nor what the slots come to (`putAll_fill`, `complete_fill`). In the row of a candle, strings that
are missing at the end are empty ones (`ofRow_congr`).
-/

namespace MarketFeed

/-- An empty string reads as the value that a field has if it is absent. -/
def Field.EmptyIsAbsent (f : Field) : Prop :=
  ∃ a, f.codec.read (.str "") = .ok a ∧ f.absent? = some a

/-- A value stands among values in the place of a field. -/
inductive Values.Has : (fs : List Field) → Values fs → (f : Field) → f.Value → Prop
  | head (f : Field) {fs : List Field} (a : f.Value) (as : Values fs) : Has (f :: fs) (a, as) f a
  | tail (g : Field) {fs : List Field} (b : g.Value) {as : Values fs} {f : Field} {a : f.Value}
    (h : Has fs as f a) : Has (g :: fs) (b, as) f a

example (b : AccountBalance) :
    Values.Has AccountBalance.schema.fields b.values (.decimal "adjEq") b.adjEq :=
  .tail _ _ (.head (.decimal "adjEq") b.adjEq _)

/-! ## Slots that wait for a value -/

namespace Slots

/-- The slots of a name are empty. -/
def Lack (name : String) : (fs : List Field) → Slots fs → Prop
  | [], _ => True
  | f :: fs, (slot, slots) => (f.name = name → slot = none) ∧ Lack name fs slots

/-- The slots with what the empty ones of them stand for. -/
def fill : (fs : List Field) → Slots fs → Slots fs
  | [], slots => slots
  | f :: fs, (slot, slots) => (slot.or f.absent?, fill fs slots)

theorem lack_empty (name : String) : ∀ fs : List Field, (empty fs).Lack name fs
  | [] => trivial
  | _ :: fs => ⟨fun _ => rfl, lack_empty name fs⟩

theorem put_lack {name other : String} (hother : other ≠ name) {v : Json} : ∀ {fs : List Field}
    {slots slots' : Slots fs}, slots.Lack name fs → put other v fs slots = .ok slots' →
    slots'.Lack name fs
  | [], _, _, _, _ => trivial
  | f :: fs, (slot, slots), _, hslots, h => by
    by_cases hname : f.name = other
    · rw [put_cons_of_eq hname] at h
      obtain ⟨a, -, rfl⟩ := exists_of_map_eq_ok h
      exact ⟨fun heq => absurd (hname.symm.trans heq) hother, hslots.2⟩
    · rw [put_cons_of_ne hname] at h
      obtain ⟨slots', hput, rfl⟩ := exists_of_map_eq_ok h
      exact ⟨hslots.1, put_lack hother hslots.2 hput⟩

theorem putAll_lack {name : String} {fs : List Field} {entries : List (String × Json)}
    (hentries : ∀ e ∈ entries, e.1 ≠ name) {slots slots' : Slots fs} (hslots : slots.Lack name fs)
    (h : putAll fs slots entries = .ok slots') : slots'.Lack name fs :=
  putAll_invariant (fun e he => put_lack (hentries e he)) hslots h

/-- An empty string puts into an empty slot what the slot stands for. -/
theorem put_empty {name : String} : ∀ {fs : List Field},
    (∀ f ∈ fs, f.name = name → f.EmptyIsAbsent) → ∀ {slots : Slots fs}, slots.Lack name fs →
    ∃ slots', put name (.str "") fs slots = .ok slots' ∧ fill fs slots' = fill fs slots
  | [], _, slots, _ => ⟨slots, rfl, rfl⟩
  | f :: fs, hfields, (slot, slots), hslots => by
    obtain ⟨hfield, hrest⟩ := List.forall_mem_cons.mp hfields
    by_cases hname : f.name = name
    · obtain ⟨a, hread, habsent⟩ := hfield hname
      refine ⟨(some a, slots), by rw [put_cons_of_eq hname, hread]; rfl, ?_⟩
      rw [fill, fill, hslots.1 hname, habsent]
      rfl
    · obtain ⟨slots', hput, hfill⟩ := put_empty hrest hslots.2
      refine ⟨(slot, slots'), by rw [put_cons_of_ne hname, hput]; rfl, ?_⟩
      rw [fill, fill, hfill]

/-- An entry is read alike whether the slots are filled or still wait. -/
theorem put_fill (name : String) (v : Json) : ∀ (fs : List Field) (slots : Slots fs),
    put name v fs (fill fs slots) = (put name v fs slots).map (fill fs)
  | [], _ => rfl
  | f :: fs, (slot, slots) => by
    rw [fill]
    by_cases hname : f.name = name
    · rw [put_cons_of_eq hname, put_cons_of_eq hname]
      cases f.codec.read v <;> rfl
    · rw [put_cons_of_ne hname, put_cons_of_ne hname, put_fill]
      cases put name v fs slots <;> rfl

theorem putAll_fill {fs : List Field} (entries : List (String × Json)) (slots : Slots fs) :
    putAll fs (fill fs slots) entries = (putAll fs slots entries).map (fill fs) := by
  induction entries generalizing slots with
  | nil => rfl
  | cons e rest ih =>
    obtain ⟨name, v⟩ := e
    rw [putAll, putAll, put_fill]
    cases put name v fs slots with
    | error mismatch => rfl
    | ok next => exact ih next

theorem complete_fill : ∀ {fs : List Field} (slots : Slots fs),
    complete fs (fill fs slots) = complete fs slots
  | [], _ => rfl
  | f :: fs, (slot, slots) => by
    rw [fill, complete_cons, complete_cons, complete_fill slots, Option.or_assoc, Option.or_self]

/-- Entries come to the same values out of slots that stand for the same. -/
theorem complete_of_fill_eq {fs : List Field} {slots slots' : Slots fs}
    (h : fill fs slots = fill fs slots') (entries : List (String × Json)) :
    (putAll fs slots entries).bind (complete fs) = (putAll fs slots' entries).bind (complete fs) := by
  -- The slots may be filled before the entries are read: what they come to is the same.
  have hfilled : ∀ slots : Slots fs, (putAll fs slots entries).bind (complete fs) =
      (putAll fs (fill fs slots) entries).bind (complete fs) := by
    intro slots
    rw [putAll_fill]
    cases putAll fs slots entries with
    | error mismatch => rfl
    | ok next => exact (complete_fill next).symm
  rw [hfilled slots, h, ← hfilled slots']

theorem putAll_append {fs : List Field} (slots : Slots fs) (first rest : List (String × Json)) :
    putAll fs slots (first ++ rest) =
      (putAll fs slots first).bind fun slots => putAll fs slots rest := by
  induction first generalizing slots with
  | nil => rfl
  | cons e first ih =>
    obtain ⟨name, v⟩ := e
    rw [List.cons_append, putAll, putAll]
    cases put name v fs slots with
    | error mismatch => rfl
    | ok next => exact ih next

/-- A slot that no entry has filled comes to the value of its field where that is absent. -/
theorem complete_has {f : Field} {a : f.Value} (habsent : f.absent? = some a) :
    ∀ {fs : List Field}, f ∈ fs → ∀ {slots : Slots fs} {as : Values fs}, slots.Lack f.name fs →
    complete fs slots = .ok as → as.Has fs f a
  | g :: fs, hmem, (slot, slots), _, hslots, h => by
    rw [complete_cons] at h
    rcases List.mem_cons.mp hmem with rfl | hmem
    · rw [hslots.1 rfl, habsent] at h
      obtain ⟨as, -, rfl⟩ := exists_of_map_eq_ok h
      exact .head f a as
    · split at h
      · obtain ⟨as, hrest, rfl⟩ := exists_of_map_eq_ok h
        exact .tail g _ (complete_has habsent hmem hslots.2 hrest)
      · cases h

end Slots

namespace Schema

variable {s : Schema}

/-- An entry with an empty string may be left out, if no entry of its name stands before it. -/
theorem readObject_empty {name : String} (hfields : ∀ f ∈ s.fields, f.name = name → f.EmptyIsAbsent)
    {before : List (String × Json)} (hbefore : ∀ e ∈ before, e.1 ≠ name)
    (after : List (String × Json)) :
    s.readObject (before ++ (name, .str "") :: after) = s.readObject (before ++ after) := by
  rw [readObject_eq, readObject_eq, Slots.putAll_append, Slots.putAll_append]
  cases hread : Slots.putAll s.fields (Slots.empty s.fields) before with
  | error mismatch => rfl
  | ok slots =>
    -- The slot of the name still waits, so the empty string only fills it with what it stands for.
    have hlack := Slots.putAll_lack hbefore (Slots.lack_empty name s.fields) hread
    obtain ⟨slots', hput, hfill⟩ := Slots.put_empty hfields hlack
    have hnext : Slots.putAll s.fields slots ((name, .str "") :: after) =
        Slots.putAll s.fields slots' after := by
      rw [Slots.putAll, hput]
      rfl
    show (Slots.putAll s.fields slots _).bind _ = (Slots.putAll s.fields slots after).bind _
    rw [hnext]
    exact Slots.complete_of_fill_eq hfill after

/-- What an object without a field comes to has the value of the absent field in its place. -/
theorem readObject_has {f : Field} {a : f.Value} (habsent : f.absent? = some a) (hf : f ∈ s.fields)
    {entries : List (String × Json)} (hentries : ∀ e ∈ entries, e.1 ≠ f.name) {as : Values s.fields}
    (h : s.readObject entries = .ok as) : as.Has s.fields f a := by
  obtain ⟨slots, hput, hcomplete⟩ := exists_of_bind h
  exact Slots.complete_has habsent hf
    (Slots.putAll_lack hentries (Slots.lack_empty f.name s.fields) hput) hcomplete

end Schema

/-! ## Records -/

/-- In the objects of a record, an empty string in a field means what the absence of the field means:
an object reads alike with the one and with the other, and what it reads as has in the field what the
empty string reads as. -/
def TakesEmptyAsAbsent {α : Type} (c : Codec α) {s : Schema} (values : α → Values s.fields)
    (f : Field) : Prop :=
  ∀ fields, (Json.obj fields).IsOrdered →
    c.read (.obj (Json.insertField f.name (.str "") fields)) =
      c.read (.obj (Json.eraseField f.name fields)) ∧
    ∀ r, c.read (.obj (Json.eraseField f.name fields)) = .ok r →
      ∃ a, f.codec.read (.str "") = .ok a ∧ (values r).Has s.fields f a

theorem takesEmptyAsAbsent_convert {α : Type} {s : Schema} {ofValues : Values s.fields → α}
    {values : α → Values s.fields} (hvalues : ∀ as, values (ofValues as) = as)
    (hnames : (s.fields.map Field.name).Nodup) {f : Field} (hf : f ∈ s.fields)
    (hempty : f.EmptyIsAbsent) :
    TakesEmptyAsAbsent (s.codec.convert ofValues values) values f := by
  intro fields hordered
  have hothers : ∀ e ∈ Json.eraseField f.name fields, e.1 ≠ f.name := fun e he =>
    of_decide_eq_true (List.mem_filter.mp he).2
  constructor
  · obtain ⟨before, after, hinsert, herase⟩ :=
      Json.insertField_eq_append hordered f.name (.str "")
    have hfields : ∀ g ∈ s.fields, g.name = f.name → g.EmptyIsAbsent := by
      intro g hg hname
      rw [List.inj_on_of_nodup_map hnames hg hf hname]
      exact hempty
    rw [herase] at hothers ⊢
    rw [hinsert]
    exact congrArg (Except.map ofValues) (Schema.readObject_empty hfields
      (fun e he => hothers e (List.mem_append_left after he)) after)
  · intro r hr
    obtain ⟨as, hread, rfl⟩ := exists_of_map_eq_ok hr
    obtain ⟨a, hread_empty, habsent⟩ := hempty
    rw [hvalues as]
    exact ⟨a, hread_empty, Schema.readObject_has habsent hf hothers hread⟩

namespace Field

@[simp] theorem absent?_required {α : Type} (name : String) (c : Codec α) :
    (required name c).absent? = none := rfl

@[simp] theorem name_withDefault {α : Type} (name : String) (c : Codec α) (default : α) :
    (withDefault name c default).name = name := rfl

@[simp] theorem emptyIsAbsent_text (name : String) : (text name).EmptyIsAbsent :=
  ⟨"", rfl, rfl⟩

@[simp] theorem emptyIsAbsent_decimal (name : String) : (decimal name).EmptyIsAbsent :=
  ⟨.zero, rfl, rfl⟩

@[simp] theorem emptyIsAbsent_millis (name : String) : (millis name).EmptyIsAbsent :=
  ⟨(0 : Int), rfl, rfl⟩

@[simp] theorem emptyIsAbsent_count (name : String) : (count name).EmptyIsAbsent :=
  ⟨(0 : Int), rfl, rfl⟩

end Field

theorem Instrument.takesEmptyAsAbsent :
    ∀ f ∈ schema.fields, f.absent?.isSome → TakesEmptyAsAbsent codec values f := by
  intro f hf habsent
  have hempty : ∀ f ∈ schema.fields, f.absent?.isSome → f.EmptyIsAbsent := by simp [schema]
  exact takesEmptyAsAbsent_convert values_ofValues (by decide) hf (hempty f hf habsent)

theorem FundingRate.takesEmptyAsAbsent :
    ∀ f ∈ schema.fields, f.absent?.isSome → TakesEmptyAsAbsent codec values f := by
  intro f hf habsent
  have hempty : ∀ f ∈ schema.fields, f.absent?.isSome → f.EmptyIsAbsent := by simp [schema]
  exact takesEmptyAsAbsent_convert values_ofValues (by decide) hf (hempty f hf habsent)

theorem Position.takesEmptyAsAbsent :
    ∀ f ∈ schema.fields, f.absent?.isSome → TakesEmptyAsAbsent codec values f := by
  intro f hf habsent
  have hempty : ∀ f ∈ schema.fields, f.absent?.isSome → f.EmptyIsAbsent := by simp [schema]
  exact takesEmptyAsAbsent_convert values_ofValues (by decide) hf (hempty f hf habsent)

theorem BalanceDetail.takesEmptyAsAbsent :
    ∀ f ∈ schema.fields, f.absent?.isSome → TakesEmptyAsAbsent codec values f := by
  intro f hf habsent
  have hempty : ∀ f ∈ schema.fields, f.absent?.isSome → f.EmptyIsAbsent := by simp [schema]
  exact takesEmptyAsAbsent_convert values_ofValues (by decide) hf (hempty f hf habsent)

theorem AccountBalance.takesEmptyAsAbsent : ∀ f ∈ schema.fields, f.absent?.isSome →
    f.name ≠ "details" → TakesEmptyAsAbsent codec values f := by
  intro f hf habsent hname
  have hempty : ∀ f ∈ schema.fields, f.absent?.isSome → f.name ≠ "details" → f.EmptyIsAbsent := by
    simp [schema]
  exact takesEmptyAsAbsent_convert values_ofValues (by decide) hf (hempty f hf habsent hname)

/-! ## Rows of candles -/

namespace Candle

/-- Behind its end a row has empty strings. -/
theorem field_eq_empty {row : List String} {i : Nat} (h : row.length ≤ i) : field row i = "" := by
  rw [field, List.getD_eq_default row "" h]

theorem field_append {row : List String} {i : Nat} (h : i < row.length) (more : List String) :
    field (row ++ more) i = field row i :=
  List.getD_append row more "" i h

theorem field_append_replicate (row : List String) (k i : Nat) :
    field (row ++ List.replicate k "") i = field row i := by
  rcases Nat.lt_or_ge i row.length with hi | hi
  · exact field_append hi _
  · rw [field_eq_empty hi, field, List.getD_append_right row _ "" i hi]
    rw [List.getD_eq_getElem?_getD, List.getElem?_getD_replicate_default_eq]

/-- The first nine fields decide. -/
theorem ofRow_congr {row row' : List String} (hrow : minFields ≤ row.length)
    (hrow' : minFields ≤ row'.length) (h : ∀ i < 9, field row i = field row' i) :
    ofRow row = ofRow row' := by
  rw [ofRow, ofRow, if_neg (Nat.not_lt.mpr hrow), if_neg (Nat.not_lt.mpr hrow')]
  rw [h 0 (by decide), h 1 (by decide), h 2 (by decide), h 3 (by decide), h 4 (by decide),
    h 5 (by decide), h 6 (by decide), h 7 (by decide), h 8 (by decide)]

theorem read_row (row : List String) : codec.read (.arr (row.map .str)) = ofRow row := by
  have hread : (Codec.list Codec.text).read (.arr (row.map .str)) = .ok (row.map id) :=
    Codec.read_list fun _ _ => rfl
  show ((Codec.list Codec.text).read _).bind ofRow = _
  rw [hread, List.map_id]
  rfl

/-- A volume that a row lacks is zero, and a row without its mark is of a period that is over. -/
theorem ofRow_lacking {row : List String} {c : Candle} (h : ofRow row = .ok c) :
    (row.length ≤ 6 → c.volCcy = .zero) ∧ (row.length ≤ 7 → c.volCcyQuote = .zero) ∧
      (row.length ≤ 8 → c.confirmed = true) := by
  rw [ofRow] at h
  split_ifs at h
  obtain ⟨ts, -, h⟩ := exists_of_bind h
  obtain ⟨opening, -, h⟩ := exists_of_bind h
  obtain ⟨high, -, h⟩ := exists_of_bind h
  obtain ⟨low, -, h⟩ := exists_of_bind h
  obtain ⟨close, -, h⟩ := exists_of_bind h
  obtain ⟨vol, -, h⟩ := exists_of_bind h
  obtain ⟨volCcy, hvolCcy, h⟩ := exists_of_bind h
  obtain ⟨volCcyQuote, hvolCcyQuote, h⟩ := exists_of_bind h
  cases h
  have hzero : ∀ d, Codec.parseDecimal "" = .ok d → d = .zero := fun d hd => (Except.ok.inj hd).symm
  refine ⟨fun hlen => ?_, fun hlen => ?_, fun hlen => ?_⟩
  · rw [field_eq_empty hlen] at hvolCcy
    exact hzero _ hvolCcy
  · rw [field_eq_empty hlen] at hvolCcyQuote
    exact hzero _ hvolCcyQuote
  · show (field row 8 != "0") = true
    rw [field_eq_empty hlen]
    decide

/-- Empty strings behind a row change nothing. -/
theorem read_append_replicate {row : List String} (h : minFields ≤ row.length) (k : Nat) :
    codec.read (.arr ((row ++ List.replicate k "").map .str)) = codec.read (.arr (row.map .str)) := by
  rw [read_row, read_row]
  have hlength : minFields ≤ (row ++ List.replicate k "").length := by
    rw [List.length_append]
    omega
  exact ofRow_congr hlength h fun i _ => field_append_replicate row k i

/-- Strings behind the ninth change nothing. -/
theorem read_append {row : List String} (h : 9 ≤ row.length) (more : List String) :
    codec.read (.arr ((row ++ more).map .str)) = codec.read (.arr (row.map .str)) := by
  rw [read_row, read_row]
  have hrow : minFields ≤ row.length := Nat.le_trans (by decide) h
  have hlength : minFields ≤ (row ++ more).length := by
    rw [List.length_append]
    omega
  exact ofRow_congr hlength hrow fun i hi => field_append (Nat.lt_of_lt_of_le hi h) more

end Candle

/-! ## The main fact -/

/-- **An empty string and an absent value mean the same.** Each field of a record that may be absent
takes an empty string as its absence, whatever the other fields of the object hold: all that have a
default, but for the details of an account, which are a list. In the row of a candle that has the first
six strings, empty strings at the end may be left out, and strings behind the ninth are not heeded; a
volume that is missing is zero, and a period without its mark is over. -/
theorem empty_string_means_absent :
    (∀ f ∈ Instrument.schema.fields, f.absent?.isSome →
      TakesEmptyAsAbsent Instrument.codec Instrument.values f) ∧
    (∀ f ∈ FundingRate.schema.fields, f.absent?.isSome →
      TakesEmptyAsAbsent FundingRate.codec FundingRate.values f) ∧
    (∀ f ∈ Position.schema.fields, f.absent?.isSome →
      TakesEmptyAsAbsent Position.codec Position.values f) ∧
    (∀ f ∈ BalanceDetail.schema.fields, f.absent?.isSome →
      TakesEmptyAsAbsent BalanceDetail.codec BalanceDetail.values f) ∧
    (∀ f ∈ AccountBalance.schema.fields, f.absent?.isSome → f.name ≠ "details" →
      TakesEmptyAsAbsent AccountBalance.codec AccountBalance.values f) ∧
    (∀ row : List String, 6 ≤ row.length →
      (∀ k, Candle.codec.read (.arr ((row ++ List.replicate k "").map .str)) =
        Candle.codec.read (.arr (row.map .str))) ∧
      (9 ≤ row.length → ∀ more, Candle.codec.read (.arr ((row ++ more).map .str)) =
        Candle.codec.read (.arr (row.map .str))) ∧
      ∀ c, Candle.codec.read (.arr (row.map .str)) = .ok c →
        (row.length ≤ 6 → c.volCcy = .zero) ∧ (row.length ≤ 7 → c.volCcyQuote = .zero) ∧
          (row.length ≤ 8 → c.confirmed = true)) := by
  refine ⟨Instrument.takesEmptyAsAbsent, FundingRate.takesEmptyAsAbsent,
    Position.takesEmptyAsAbsent, BalanceDetail.takesEmptyAsAbsent,
    AccountBalance.takesEmptyAsAbsent, fun row hrow => ?_⟩
  refine ⟨Candle.read_append_replicate hrow, Candle.read_append, fun c hc => ?_⟩
  rw [Candle.read_row] at hc
  exact Candle.ofRow_lacking hc

/-- A rate reads without its premium as with an empty one, a balance with a fault reads as that fault
with or without its total, and a candle needs but six strings. -/
theorem premium_and_total_left_out :
    (FundingRate.codec.read (.obj [("fundingTime", .str "1700000000000"),
        ("instId", .str "BTC-USDT-SWAP"), ("instType", .str "SWAP"), ("premium", .str "")]) =
      FundingRate.codec.read (.obj [("fundingTime", .str "1700000000000"),
        ("instId", .str "BTC-USDT-SWAP"), ("instType", .str "SWAP")])) ∧
    (∃ r a, FundingRate.codec.read (.obj [("fundingTime", .str "1700000000000"),
        ("instId", .str "BTC-USDT-SWAP"), ("instType", .str "SWAP")]) = .ok r ∧
      (Field.decimal "premium").codec.read (.str "") = .ok a ∧
      r.values.Has FundingRate.schema.fields (.decimal "premium") a) ∧
    (AccountBalance.codec.read (.obj [("imr", .str "x"), ("totalEq", .str "")]) =
      AccountBalance.codec.read (.obj [("imr", .str "x")]) ∧
      ∃ fault, AccountBalance.codec.read (.obj [("imr", .str "x")]) = .error (.decimal "x" fault)) ∧
    Candle.codec.read (.arr (["60000", "1", "2", "0.5", "1", "10", "", "", ""].map .str)) =
      Candle.codec.read (.arr (["60000", "1", "2", "0.5", "1", "10"].map .str)) ∧
    Candle.codec.read (.arr (["60000", "1", "2", "0.5", "1", "10", "", "", "", "more"].map .str)) =
      Candle.codec.read (.arr (["60000", "1", "2", "0.5", "1", "10", "", "", ""].map .str)) := by
  obtain ⟨-, hrates, -, -, haccounts, hcandles⟩ := empty_string_means_absent
  have hrate : (Json.obj [("fundingTime", .str "1700000000000"), ("instId", .str "BTC-USDT-SWAP"),
      ("instType", .str "SWAP"), ("premium", .str "0.1")]).IsOrdered := by
    simp only [Json.IsOrdered]
    decide +kernel
  obtain ⟨hpremium, hhas⟩ := hrates (.decimal "premium") (by simp [FundingRate.schema]) rfl _ hrate
  have haccount : (Json.obj [("imr", .str "x"), ("totalEq", .str "1")]).IsOrdered := by
    simp only [Json.IsOrdered]
    decide +kernel
  obtain ⟨htotal, -⟩ :=
    haccounts (.decimal "totalEq") (by simp [AccountBalance.schema]) rfl (by decide) _ haccount
  refine ⟨hpremium, ?_, ⟨htotal, _, rfl⟩, ?_, ?_⟩
  · obtain ⟨a, ha, h⟩ := hhas _ rfl
    exact ⟨_, a, rfl, ha, h⟩
  · exact (hcandles ["60000", "1", "2", "0.5", "1", "10"] (by decide)).1 3
  · exact (hcandles ["60000", "1", "2", "0.5", "1", "10", "", "", ""] (by decide)).2.1 (by decide)
      ["more"]

end MarketFeed
