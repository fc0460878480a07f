import MarketFeed.Proofs.Decimal.Reader
import MarketFeed.Record.Codec

/-!
# Decimals read back

The text of a decimal is a numeral with its mantissa and its scale (`exists_numeral`), so it reads back
as the same number with the same scale (`parseDecimal_toString`). Zero loses its sign.
-/

namespace MarketFeed

namespace Decimal

/-- The same number with the same scale. -/
structure Agrees (d d' : Decimal) : Prop where
  number : d.number = d'.number
  scale : d.scale = d'.scale

theorem numberOf_zero (negative : Bool) (scale : Nat) : numberOf negative 0 scale = 0 := by
  simp [numberOf]

/-- Behind any sign the digits with their point are a numeral. -/
theorem exists_unsigned (sign : List Char) (hsign : sign = [] ∨ sign = ['+'] ∨ sign = ['-'])
    (mantissa scale : Nat) :
    ∃ n : Numeral, n.text = sign ++ unsignedText mantissa scale ∧ n.sign = sign ∧
      n.mantissa = mantissa ∧ n.scale = scale := by
  by_cases hscale : scale = 0
  · subst hscale
    have hdigits : Integer.AreDigits (Nat.toDigits 10 mantissa ++ []) := by
      rw [List.append_nil]
      exact ⟨Nat.toDigits_ne_nil, fun c hc => Digits.isDigit_of_mem_toDigits hc⟩
    refine ⟨⟨sign, Nat.toDigits 10 mantissa, [], [], hsign, hdigits, Or.inr ⟨rfl, rfl⟩⟩, ?_, rfl, ?_,
      rfl⟩
    · rw [Numeral.text, unsignedText, if_pos rfl, List.append_nil, List.append_nil]
    · rw [Numeral.mantissa, List.append_nil, Nat.ofDigitChars_ten_toDigits]
  · have hlength := Digits.le_length_padded (scale + 1) mantissa
    let cut := (padded (scale + 1) mantissa).length - scale
    have hcut : (padded (scale + 1) mantissa).take cut ++ (padded (scale + 1) mantissa).drop cut =
      padded (scale + 1) mantissa := List.take_append_drop _ _
    have hdigits : Integer.AreDigits
        ((padded (scale + 1) mantissa).take cut ++ (padded (scale + 1) mantissa).drop cut) := by
      rw [hcut]
      exact ⟨List.ne_nil_of_length_pos (by omega), fun c hc => Digits.isDigit_of_mem_padded hc⟩
    refine ⟨⟨sign, _, ['.'], _, hsign, hdigits, Or.inl rfl⟩, ?_, rfl, ?_, ?_⟩
    · rw [Numeral.text, unsignedText, if_neg hscale]
      rfl
    · rw [Numeral.mantissa, hcut, Digits.ofDigitChars_padded]
    · rw [Numeral.scale, List.length_drop]
      omega

/-- The text of a decimal is a numeral. -/
theorem exists_numeral (d : Decimal) :
    ∃ n : Numeral, n.text = d.text ∧ n.negative = (d.negative && d.mantissa != 0) ∧
      n.mantissa = d.mantissa ∧ n.scale = d.scale := by
  cases hsign : d.negative && d.mantissa != 0 with
  | true =>
    obtain ⟨n, htext, hminus, hn⟩ :=
      exists_unsigned ['-'] (Or.inr (Or.inr rfl)) d.mantissa d.scale
    refine ⟨n, ?_, ?_, hn⟩
    · rw [htext, text, hsign]
      rfl
    · rw [Numeral.negative, hminus]
      rfl
  | false =>
    obtain ⟨n, htext, hnone, hn⟩ := exists_unsigned [] (Or.inl rfl) d.mantissa d.scale
    refine ⟨n, ?_, ?_, hn⟩
    · rw [htext, text, hsign]
      rfl
    · rw [Numeral.negative, hnone]
      rfl

end Decimal

namespace Codec

theorem parseDecimal_numeral (n : Numeral) (hm : n.mantissa < Decimal.mantissaBound)
    (hs : n.scale ≤ Decimal.maxScale) :
    parseDecimal (String.ofList n.text) = .ok ⟨n.negative, n.mantissa, n.scale, hm, hs⟩ := by
  have hsome : (String.ofList n.text).isEmpty = false := by
    rw [String.isEmpty_eq_false_iff]
    intro hempty
    exact n.text_ne_nil (String.ofList_eq_empty_iff.mp hempty)
  rw [parseDecimal, hsome, n.read_numeral hm hs]
  rfl

/-- A decimal reads back from its text, up to the sign of zero. -/
theorem parseDecimal_toString (d : Decimal) :
    parseDecimal (toString d) = .ok { d with negative := d.negative && d.mantissa != 0 } := by
  obtain ⟨n, htext, hnegative, hmantissa, hscale⟩ := d.exists_numeral
  have hread := parseDecimal_numeral n (by rw [hmantissa]; exact d.mantissa_lt)
    (by rw [hscale]; exact d.scale_le)
  simp only [htext, hnegative, hmantissa, hscale] at hread
  exact hread

theorem agrees_of_parseDecimal {d d' : Decimal} (h : parseDecimal (toString d) = .ok d') :
    d'.Agrees d := by
  rw [parseDecimal_toString] at h
  cases h
  refine ⟨?_, rfl⟩
  by_cases hzero : d.mantissa = 0
  · rw [Decimal.number, Decimal.number]
    dsimp only
    rw [hzero, Decimal.numberOf_zero, Decimal.numberOf_zero]
  · have hkeep : (d.negative && d.mantissa != 0) = d.negative := by simp [hzero]
    rw [Decimal.number, Decimal.number]
    dsimp only
    rw [hkeep]

end Codec

end MarketFeed
