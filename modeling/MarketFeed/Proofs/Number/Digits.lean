import Mathlib.Algebra.Ring.Nat
import Mathlib.Data.Char
import Mathlib.Data.List.Lex
import MarketFeed.Decimal.Basic
import MarketFeed.Time.Calendar

/-!
# Digits

The number that digits spell, digit by digit. With as many digits a greater number has greater digits
(`ofDigitChars_lt_of_lt`), and zeros in front change nothing (`ofDigitChars_padded`).
-/

namespace MarketFeed.Digits

/-! ## Numbers by their digits -/

theorem le_ofDigitChars (m : Nat) (ds : List Char) : m ≤ Nat.ofDigitChars 10 ds m := by
  rw [Nat.ofDigitChars_eq_ofDigitChars_zero]
  have hpos : 1 ≤ 10 ^ ds.length := Nat.one_le_pow _ _ (by decide)
  have hle := Nat.mul_le_mul_right m hpos
  omega

theorem ofDigitChars_cons_from (m : Nat) (c : Char) (ds : List Char) :
    Nat.ofDigitChars 10 (c :: ds) m = Nat.ofDigitChars 10 ds (m * 10 + (c.toNat - '0'.toNat)) := by
  rw [Nat.ofDigitChars_cons, Nat.mul_comm]

theorem ofDigitChars_cons (c : Char) (cs : List Char) :
    Nat.ofDigitChars 10 (c :: cs) 0 =
      10 ^ cs.length * (c.toNat - '0'.toNat) + Nat.ofDigitChars 10 cs 0 := by
  rw [Nat.ofDigitChars_cons, Nat.ofDigitChars_eq_ofDigitChars_zero, Nat.mul_zero, Nat.zero_add]

theorem toNat_of_isDigit {c : Char} (h : c.isDigit = true) : 48 ≤ c.toNat ∧ c.toNat ≤ 57 := by
  simpa [Char.isDigit, Char.le_def, UInt32.le_iff_toNat_le] using h

theorem ofDigitChars_lt {cs : List Char} (h : ∀ c ∈ cs, c.isDigit = true) :
    Nat.ofDigitChars 10 cs 0 < 10 ^ cs.length := by
  induction cs with
  | nil => decide
  | cons c cs ih =>
    obtain ⟨hc, hcs⟩ := List.forall_mem_cons.mp h
    have hrest := ih hcs
    have hdigit : c.toNat - '0'.toNat ≤ 9 := by
      have hbounds := toNat_of_isDigit hc
      simp only [Char.reduceToNat]
      omega
    have hfirst := Nat.mul_le_mul_left (10 ^ cs.length) hdigit
    rw [ofDigitChars_cons, List.length_cons, Nat.pow_succ]
    omega

/-- Of two numbers with as many digits, the one whose digits come first is less. -/
theorem ofDigitChars_lt_of_lt {xs ys : List Char} (hxs : ∀ c ∈ xs, c.isDigit = true)
    (hys : ∀ c ∈ ys, c.isDigit = true) (hlength : xs.length = ys.length) (h : xs < ys) :
    Nat.ofDigitChars 10 xs 0 < Nat.ofDigitChars 10 ys 0 := by
  induction xs generalizing ys with
  | nil =>
    rw [List.eq_nil_of_length_eq_zero hlength.symm] at h
    exact absurd h (lt_irrefl _)
  | cons c xs ih =>
    obtain ⟨d, ys, rfl⟩ := List.exists_cons_of_length_eq_add_one hlength.symm
    obtain ⟨hc, hxs'⟩ := List.forall_mem_cons.mp hxs
    obtain ⟨hd, hys'⟩ := List.forall_mem_cons.mp hys
    have hlength' : xs.length = ys.length := Nat.succ.inj hlength
    rw [ofDigitChars_cons, ofDigitChars_cons, ← hlength']
    rcases List.cons_lt_cons_iff.mp h with hlt | ⟨rfl, hlt⟩
    · have hrest := ofDigitChars_lt hxs'
      have hdigit : c.toNat - '0'.toNat + 1 ≤ d.toNat - '0'.toNat := by
        have hless : c.toNat < d.toNat := hlt
        have hbounds := toNat_of_isDigit hc
        simp only [Char.reduceToNat]
        omega
      have hfirst := Nat.mul_le_mul_left (10 ^ xs.length) hdigit
      rw [Nat.mul_add] at hfirst
      omega
    · exact Nat.add_lt_add_left (ih hxs' hys' hlength' hlt) _

/-! ## Zeros in front -/

open Decimal (padded)

theorem isDigit_of_mem_toDigits {n : Nat} {c : Char} (h : c ∈ Nat.toDigits 10 n) :
    c.isDigit = true :=
  Nat.isDigit_of_mem_toDigits (by decide) (by decide) h

theorem ofDigitChars_padded (width n : Nat) : Nat.ofDigitChars 10 (padded width n) 0 = n := by
  rw [padded, Nat.ofDigitChars_append, Nat.ofDigitChars_replicate_zero, Nat.mul_zero,
    Nat.ofDigitChars_ten_toDigits]

theorem isDigit_of_mem_padded {width n : Nat} {c : Char} (h : c ∈ padded width n) :
    c.isDigit = true := by
  rcases List.mem_append.mp h with h | h
  · rw [List.eq_of_mem_replicate h]
    rfl
  · exact isDigit_of_mem_toDigits h

theorem le_length_padded (width n : Nat) : width ≤ (padded width n).length := by
  rw [padded, List.length_append, List.length_replicate]
  omega

/-- Fields of dates are filled up like decimals. -/
theorem padded_eq : DateTime.padded = padded := rfl

end MarketFeed.Digits
