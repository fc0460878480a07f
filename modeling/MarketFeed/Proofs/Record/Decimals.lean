import MarketFeed.Market.FundingRate
import MarketFeed.Market.Instrument
import MarketFeed.Market.Position
import MarketFeed.Market.Ticker
import MarketFeed.Proofs.Decimal.Text
import MarketFeed.Proofs.Record.Written

/-!
# Decimals in records

A decimal among the values of a record is found under its name in what the record is written as, and
reads back from there as the same number with the same scale (`keepsDecimals_convert`). Main fact:
numerals within the bounds are read exactly, and so nothing is lost where decimals, alone or in records,
are written and read again (`decimals_are_read_exactly`).
-/

namespace MarketFeed

/-- A decimal stands among values, in the field of a name. -/
inductive Holds : (fs : List Field) → Values fs → String → Decimal → Prop
  | head {fs : List Field} (name : String) (absent? : Option Decimal) (mayEnd : Bool) (d : Decimal)
    (as : Values fs) : Holds (⟨name, Decimal, .decimal, absent?, mayEnd⟩ :: fs) (d, as) name d
  | tail (f : Field) {fs : List Field} (a : f.Value) {as : Values fs} {name : String} {d : Decimal}
    (h : Holds fs as name d) : Holds (f :: fs) (a, as) name d

example (t : Ticker) : Holds Ticker.schema.fields t.values "last" t.last :=
  .tail _ _ (.tail _ _ (.head "last" none false t.last _))

theorem Holds.mem_writeFields {fs : List Field} {as : Values fs} {name : String} {d : Decimal}
    (h : Holds fs as name d) : (name, Json.str (toString d)) ∈ Schema.writeFields fs as := by
  induction h with
  | head name absent? mayEnd d as => exact List.mem_cons_self
  | tail f a _ ih => exact List.mem_cons_of_mem _ ih

/-- What was read and is written reads back, and each decimal in it as the same number with the same
scale. -/
def KeepsDecimals {α : Type} (c : Codec α) (s : Schema) (values : α → Values s.fields) : Prop :=
  ∀ v a, c.read v = .ok a →
    Json.parse (Json.obj (Schema.writeFields s.fields (values a))).text = some (c.write a) ∧
    ∀ name d, Holds s.fields (values a) name d →
      ∃ w d', (c.write a).field? name = some w ∧ Codec.decimal.read w = .ok d' ∧ d'.Agrees d

theorem keepsDecimals_convert {α : Type} {s : Schema} {ofValues : Values s.fields → α}
    {values : α → Values s.fields} (hvalues : ∀ as, values (ofValues as) = as)
    (hfields : ∀ f ∈ s.fields, f.Writes Json.IsPlain)
    (hnames : (s.fields.map Field.name).Nodup) :
    KeepsDecimals (s.codec.convert ofValues values) s values := by
  intro v a h
  obtain ⟨as, hread, rfl⟩ := exists_of_map_eq_ok h
  have hwrite : (s.codec.convert ofValues values).write (ofValues as) = s.codec.write as :=
    congrArg s.codec.write (hvalues as)
  rw [hwrite, hvalues as]
  constructor
  · exact Schema.parse_written (Schema.writes_of_read hfields hread)
  · intro name d hholds
    have hfield := Schema.field?_write hnames as hholds.mem_writeFields
    have htext := Codec.parseDecimal_toString d
    exact ⟨_, _, hfield, htext, Codec.agrees_of_parseDecimal htext⟩

/-! ## The records of the market and the account -/

@[simp] theorem InstrumentType.writes_codec : InstrumentType.codec.Writes Json.IsPlain :=
  Codec.writes_names _ name

theorem Ticker.keepsDecimals : KeepsDecimals codec schema values := by
  apply keepsDecimals_convert values_ofValues
  · simp [schema]
  · decide

theorem Instrument.keepsDecimals : KeepsDecimals codec schema values := by
  apply keepsDecimals_convert values_ofValues
  · simp [schema]
  · decide

theorem FundingRate.keepsDecimals : KeepsDecimals codec schema values := by
  apply keepsDecimals_convert values_ofValues
  · simp [schema]
  · decide

theorem Position.keepsDecimals : KeepsDecimals codec schema values := by
  apply keepsDecimals_convert values_ofValues
  · simp [schema]
  · decide

/-! ## The main fact -/

/-- **Decimals are read exactly.** A numeral with a mantissa of 96 bits and at most 28 digits behind its
point reads as the number that it stands for, with the scale that it shows. So every decimal reads back
from its text as the same number with the same scale, and so does every decimal in a record that was
read and is written: the text of the record reads as the object that was written, in which the decimal
is found under its name. -/
theorem decimals_are_read_exactly :
    (∀ n : Numeral, n.scale ≤ Decimal.maxScale → n.mantissa < Decimal.mantissaBound →
      ∃ d, Codec.parseDecimal (String.ofList n.text) = .ok d ∧ d.number = n.number ∧
        d.scale = n.scale) ∧
    (∀ d : Decimal, ∃ d', Codec.parseDecimal (toString d) = .ok d' ∧ d'.Agrees d) ∧
    KeepsDecimals Ticker.codec Ticker.schema Ticker.values ∧
    KeepsDecimals Instrument.codec Instrument.schema Instrument.values ∧
    KeepsDecimals FundingRate.codec FundingRate.schema FundingRate.values ∧
    KeepsDecimals Position.codec Position.schema Position.values := by
  refine ⟨?_, ?_, Ticker.keepsDecimals, Instrument.keepsDecimals, FundingRate.keepsDecimals,
    Position.keepsDecimals⟩
  · intro n hscale hmantissa
    exact ⟨_, Codec.parseDecimal_numeral n hmantissa hscale, rfl, rfl⟩
  · intro d
    have hread := Codec.parseDecimal_toString d
    exact ⟨_, hread, Codec.agrees_of_parseDecimal hread⟩

/-- The least decimal with a digit behind its point. -/
def Numeral.least : Numeral where
  sign := ['-']
  whole := ['7', '9', '2', '2', '8', '1', '6', '2', '5', '1', '4', '2', '6', '4',
    '3', '3', '7', '5', '9', '3', '5', '4', '3', '9', '5', '0', '3', '3']
  point := ['.']
  behind := ['5']
  sign_mem := by decide
  areDigits := ⟨by decide, List.all_eq_true.mp (by decide)⟩
  point_mem := by decide

deriving instance DecidableEq for FundingRate

/-- A funding rate as the exchange may send it. -/
def someRate : Json :=
  .obj [("fundingRate", .str "-0.00012500"), ("fundingTime", .str "1700000000000"),
    ("instId", .str "BTC-USDT-SWAP"), ("instType", .str "SWAP")]

/-- All digits of the least decimal count, and the rate keeps its zeros. -/
theorem least_and_some_rate_are_read :
    (∃ d, Codec.parseDecimal "-7922816251426433759354395033.5" = .ok d ∧
      d.number = Decimal.numberOf true 79228162514264337593543950335 1 ∧ d.scale = 1) ∧
    ∃ r, FundingRate.codec.read someRate = .ok r ∧
      ∃ w d, (FundingRate.codec.write r).field? "fundingRate" = some w ∧
        Codec.decimal.read w = .ok d ∧ d.number = Decimal.numberOf true 12500 8 ∧ d.scale = 8 := by
  obtain ⟨hnumerals, -, -, -, hrates, -⟩ := decimals_are_read_exactly
  constructor
  · have htext : String.ofList Numeral.least.text = "-7922816251426433759354395033.5" := by decide +kernel
    have hmantissa : Numeral.least.mantissa = 79228162514264337593543950335 := by decide +kernel
    obtain ⟨d, hread, hnumber, hscale⟩ := hnumerals Numeral.least (by decide) (by rw [hmantissa]; decide)
    rw [htext] at hread
    rw [Numeral.number, hmantissa] at hnumber
    exact ⟨d, hread, hnumber, hscale⟩
  · let rate : Decimal := ⟨true, 12500, 8, by decide, by decide⟩
    let r : FundingRate :=
      ⟨.swap, "BTC-USDT-SWAP", rate, 1700000000000, 0, .zero, .zero, .zero, .zero, .zero, 0, "", .zero,
        .zero⟩
    have hsome : (FundingRate.codec.read someRate).toOption = some r := by decide +kernel
    have hread : FundingRate.codec.read someRate = .ok r := by
      cases h : FundingRate.codec.read someRate with
      | error mismatch => rw [h] at hsome; cases hsome
      | ok r' => rw [h] at hsome; exact congrArg Except.ok (Option.some.inj hsome)
    obtain ⟨-, hholds⟩ := hrates someRate r hread
    have hrate : Holds FundingRate.schema.fields r.values "fundingRate" rate :=
      .tail _ _ (.tail _ _ (.head "fundingRate" (some .zero) true rate _))
    obtain ⟨w, d, hw, hd, hagrees⟩ := hholds "fundingRate" rate hrate
    exact ⟨r, hread, w, d, hw, hd, hagrees.number, hagrees.scale⟩

end MarketFeed
