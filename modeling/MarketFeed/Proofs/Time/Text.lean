import MarketFeed.Proofs.Number.Digits
import MarketFeed.Proofs.Time.Calendar

/-!
# The text of an instant

A field of a fixed width is greater exactly if its number is (`IsField.append_lt_iff`). So the text of
an instant shows all its fields (`key_eq_of_hasForm`), and texts with years of four digits come in the
order of their instants (`lt_iff_of_hasForm`).
-/

namespace MarketFeed.DateTime

/-! ## Numbers of a fixed width -/

open Digits

/-- Exactly `width` digits that spell a number. -/
structure IsField (width n : Nat) (cs : List Char) : Prop where
  length_eq : cs.length = width
  areDigits : ∀ c ∈ cs, c.isDigit = true
  value_eq : Nat.ofDigitChars 10 cs 0 = n

theorem isField_padded (width n : Nat) : IsField (padded width n).length n (padded width n) := by
  rw [padded_eq]
  exact ⟨rfl, fun _ hc => isDigit_of_mem_padded hc, ofDigitChars_padded width n⟩

theorem isField_padded_of_lt {width n : Nat} (hwidth : 0 < width) (h : n < 10 ^ width) :
    IsField width n (padded width n) := by
  have hdigits : (Nat.toDigits 10 n).length ≤ width :=
    (Nat.length_toDigits_le_iff (by decide) hwidth).mpr h
  have hlength : (padded width n).length = width := by
    rw [padded, List.length_append, List.length_replicate]
    omega
  have hfield := isField_padded width n
  rwa [hlength] at hfield

namespace IsField

variable {width m n : Nat} {xs ys us vs : List Char}

theorem lt_of_lt (hx : IsField width m xs) (hy : IsField width n ys) (h : xs < ys) : m < n := by
  have hlength : xs.length = ys.length := hx.length_eq.trans hy.length_eq.symm
  have hvalues := ofDigitChars_lt_of_lt hx.areDigits hy.areDigits hlength h
  rwa [hx.value_eq, hy.value_eq] at hvalues

/-- The digits of a number of a fixed width. -/
theorem unique (hx : IsField width n xs) (hy : IsField width n ys) : xs = ys := by
  rcases lt_trichotomy xs ys with hlt | heq | hlt
  · exact absurd (hx.lt_of_lt hy hlt) (lt_irrefl n)
  · exact heq
  · exact absurd (hy.lt_of_lt hx hlt) (lt_irrefl n)

theorem append_lt_append (hlength : xs.length = ys.length) (h : xs < ys) : xs ++ us < ys ++ vs := by
  induction xs generalizing ys with
  | nil =>
    rw [List.eq_nil_of_length_eq_zero hlength.symm] at h
    exact absurd h (lt_irrefl _)
  | cons x xs ih =>
    obtain ⟨y, ys, rfl⟩ := List.exists_cons_of_length_eq_add_one hlength.symm
    rw [List.cons_append, List.cons_append, List.cons_lt_cons_iff]
    rcases List.cons_lt_cons_iff.mp h with hlt | ⟨rfl, hlt⟩
    · exact Or.inl hlt
    · exact Or.inr ⟨rfl, ih (Nat.succ.inj hlength) hlt⟩

theorem append_lt_of_lt (hx : IsField width m xs) (hy : IsField width n ys) (h : m < n) :
    xs ++ us < ys ++ vs := by
  rcases lt_trichotomy xs ys with hlt | heq | hlt
  · exact append_lt_append (hx.length_eq.trans hy.length_eq.symm) hlt
  · rw [← hx.value_eq, ← hy.value_eq, heq] at h
    exact absurd h (lt_irrefl _)
  · exact absurd h (lt_asymm (hy.lt_of_lt hx hlt))

/-- What begins with a field of the same width is less if the field is, or if the field is the same and
the rest is less. -/
theorem append_lt_iff (hx : IsField width m xs) (hy : IsField width n ys) :
    xs ++ us < ys ++ vs ↔ m < n ∨ m = n ∧ us < vs := by
  rcases lt_trichotomy m n with hlt | rfl | hlt
  · exact iff_of_true (hx.append_lt_of_lt hy hlt) (Or.inl hlt)
  · rw [hx.unique hy]
    have hcancel : ys ++ us < ys ++ vs ↔ us < vs := by
      refine ⟨fun h => ?_, List.append_left_lt⟩
      rcases lt_trichotomy us vs with hlt | rfl | hlt
      · exact hlt
      · exact absurd h (lt_irrefl _)
      · exact absurd h (lt_asymm (List.append_left_lt hlt))
    simp [hcancel]
  · refine iff_of_false (lt_asymm (hy.append_lt_of_lt hx hlt)) ?_
    omega

theorem append_eq (hx : IsField width m xs) (hy : IsField width n ys) (h : xs ++ us = ys ++ vs) :
    m = n ∧ us = vs := by
  obtain ⟨rfl, hrest⟩ := List.append_inj h (hx.length_eq.trans hy.length_eq.symm)
  exact ⟨hx.value_eq.symm.trans hy.value_eq, hrest⟩

end IsField

/-! ## Years -/

/-- A year as it is written: four digits, or a sign and at least four digits. -/
inductive IsYear (year : Int) : List Char → Prop
  | four (h : 0 ≤ year ∧ year ≤ 9999) {cs : List Char} (hcs : IsField 4 year.toNat cs) :
    IsYear year cs
  | signed (h : ¬(0 ≤ year ∧ year ≤ 9999)) {width : Nat} (hwidth : 4 ≤ width) {cs : List Char}
    (hcs : IsField width year.natAbs cs) : IsYear year ((if year < 0 then '-' else '+') :: cs)

theorem isYear_yearText (year : Int) : IsYear year (yearText year) := by
  unfold yearText
  by_cases h : 0 ≤ year ∧ year ≤ 9999
  · rw [if_pos h]
    exact .four h (isField_padded_of_lt (by decide) (by omega))
  · rw [if_neg h]
    exact .signed h (le_length_padded 4 year.natAbs) (isField_padded 4 year.natAbs)

theorem IsYear.isField {year : Int} {cs : List Char} (h : IsYear year cs)
    (hyear : 0 ≤ year ∧ year ≤ 9999) : IsField 4 year.toNat cs := by
  cases h with
  | four _ hcs => exact hcs
  | signed hnot _ _ => exact absurd hyear hnot

/-- A year of four digits is not one with a sign. -/
theorem IsField.not_sign {width n : Nat} {year : Int} {cs : List Char}
    (h : IsField width n ((if year < 0 then '-' else '+') :: cs)) : False := by
  have hdigit := h.areDigits _ List.mem_cons_self
  split_ifs at hdigit <;> cases hdigit

theorem IsYear.unique {year year' : Int} {cs : List Char} (h : IsYear year cs)
    (h' : IsYear year' cs) : year = year' := by
  cases h with
  | four hyear hcs =>
    cases h' with
    | four hyear' hcs' =>
      have hvalue := hcs.value_eq.symm.trans hcs'.value_eq
      omega
    | signed _ _ _ => exact hcs.not_sign.elim
  | @signed hyear width hwidth ds hds =>
    generalize htext : (if year < 0 then '-' else '+') :: ds = text at h'
    cases h' with
    | four _ hcs' =>
      rw [← htext] at hcs'
      exact hcs'.not_sign.elim
    | signed _ _ hcs' =>
      obtain ⟨hsign, rfl⟩ := List.cons.inj htext
      have hvalue := hds.value_eq.symm.trans hcs'.value_eq
      split_ifs at hsign with hlt hlt' hlt'
      · omega
      · exact absurd hsign (by decide)
      · exact absurd hsign (by decide)
      · omega

/-! ## Texts -/

/-- The form of a text: the year, the other fields of a date, a `T`, a time of day with milliseconds,
and a `Z`. -/
def HasForm (t : DateTime) (text : List Char) : Prop :=
  ∃ year month day hour minute second milli, IsYear t.year year ∧ IsField 2 t.month month ∧
    IsField 2 t.day day ∧ IsField 2 t.hour hour ∧ IsField 2 t.minute minute ∧
    IsField 2 t.second second ∧ IsField 3 t.milli milli ∧
    text = year ++ '-' :: (month ++ '-' :: (day ++ 'T' :: (hour ++ ':' :: (minute ++ ':' ::
      (second ++ '.' :: (milli ++ ['Z']))))))

theorem IsDate.day_le_31 {year : Int} {month day : Nat} (h : IsDate year month day) : day ≤ 31 := by
  refine h.day_le.trans ?_
  unfold daysInMonth
  split
  · decide
  · split_ifs <;> decide
  all_goals decide

theorem IsValid.hasForm {t : DateTime} (h : t.IsValid) : t.HasForm t.text := by
  have hmonth := h.date.month_le
  have hday := h.date.day_le_31
  obtain ⟨-, hhour, hminute, hsecond, hmilli⟩ := h
  refine ⟨yearText t.year, padded 2 t.month, padded 2 t.day, padded 2 t.hour, padded 2 t.minute,
    padded 2 t.second, padded 3 t.milli, isYear_yearText t.year, ?_, ?_, ?_, ?_, ?_, ?_, ?_⟩
  · exact isField_padded_of_lt (by decide) (by omega)
  · exact isField_padded_of_lt (by decide) (by omega)
  · exact isField_padded_of_lt (by decide) (by omega)
  · exact isField_padded_of_lt (by decide) (by omega)
  · exact isField_padded_of_lt (by decide) (by omega)
  · exact isField_padded_of_lt (by decide) (by omega)
  · simp [text]

variable {t t' : DateTime} {text text' : List Char}

/-- A text shows all the fields of its instant. -/
theorem eq_of_hasForm (h : t.HasForm text) (h' : t'.HasForm text) : t = t' := by
  obtain ⟨year, month, day, hour, minute, second, milli, hyear, hmonth, hday, hhour, hminute, hsecond,
    hmilli, rfl⟩ := h
  obtain ⟨year', month', day', hour', minute', second', milli', hyear', hmonth', hday', hhour',
    hminute', hsecond', hmilli', heq⟩ := h'
  -- Years may have any width, but what follows them has a fixed length.
  obtain ⟨rfl, htail⟩ := List.append_inj' heq (by
    simp [hmonth.length_eq, hmonth'.length_eq, hday.length_eq, hday'.length_eq, hhour.length_eq,
      hhour'.length_eq, hminute.length_eq, hminute'.length_eq, hsecond.length_eq, hsecond'.length_eq,
      hmilli.length_eq, hmilli'.length_eq])
  obtain ⟨hmonths, htail⟩ := hmonth.append_eq hmonth' (List.cons.inj htail).2
  obtain ⟨hdays, htail⟩ := hday.append_eq hday' (List.cons.inj htail).2
  obtain ⟨hhours, htail⟩ := hhour.append_eq hhour' (List.cons.inj htail).2
  obtain ⟨hminutes, htail⟩ := hminute.append_eq hminute' (List.cons.inj htail).2
  obtain ⟨hseconds, htail⟩ := hsecond.append_eq hsecond' (List.cons.inj htail).2
  obtain ⟨hmillis, -⟩ := hmilli.append_eq hmilli' (List.cons.inj htail).2
  apply key_injective
  simp [key, hyear.unique hyear', hmonths, hdays, hhours, hminutes, hseconds, hmillis]

/-- Texts with years of four digits come in the order of their fields. -/
theorem lt_iff_of_hasForm (h : t.HasForm text) (h' : t'.HasForm text')
    (hyears : 0 ≤ t.year ∧ t.year ≤ 9999) (hyears' : 0 ≤ t'.year ∧ t'.year ≤ 9999) :
    text < text' ↔ t.key < t'.key := by
  obtain ⟨year, month, day, hour, minute, second, milli, hyear, hmonth, hday, hhour, hminute, hsecond,
    hmilli, rfl⟩ := h
  obtain ⟨year', month', day', hour', minute', second', milli', hyear', hmonth', hday', hhour',
    hminute', hsecond', hmilli', rfl⟩ := h'
  have hskip : ∀ (c : Char) (us vs : List Char), c :: us < c :: vs ↔ us < vs := by
    intro c us vs
    simp
  rw [(hyear.isField hyears).append_lt_iff (hyear'.isField hyears'), hskip,
    hmonth.append_lt_iff hmonth', hskip, hday.append_lt_iff hday', hskip, hhour.append_lt_iff hhour',
    hskip, hminute.append_lt_iff hminute', hskip, hsecond.append_lt_iff hsecond', hskip,
    hmilli.append_lt_iff hmilli', key_lt_iff]
  have hlt : t.year.toNat < t'.year.toNat ↔ t.year < t'.year := by omega
  have heq : t.year.toNat = t'.year.toNat ↔ t.year = t'.year := by omega
  rw [hlt, heq]
  simp

end MarketFeed.DateTime
