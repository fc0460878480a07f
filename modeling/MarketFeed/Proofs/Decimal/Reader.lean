import Mathlib.Algebra.Field.Rat
import MarketFeed.Decimal.Reader
import MarketFeed.Proofs.Number.Digits
import MarketFeed.Proofs.Number.Integer

/-!
# Numerals

A numeral is an optional sign and digits with at most one point. One with a mantissa and a scale
within the bounds is read exactly (`read_numeral`): none of its digits is rounded away, and the scale is
the number of digits behind the point.
-/

namespace MarketFeed

/-- The number `± mantissa / 10 ^ scale`. -/
def Decimal.numberOf (negative : Bool) (mantissa scale : Nat) : ℚ :=
  (if negative then -1 else 1) * mantissa / 10 ^ scale

/-- The number that a decimal stands for. -/
def Decimal.number (d : Decimal) : ℚ := numberOf d.negative d.mantissa d.scale

/-- An optional sign and digits with at most one point. -/
structure Numeral where
  sign : List Char
  whole : List Char
  point : List Char
  /-- The digits behind the point. -/
  behind : List Char
  sign_mem : sign = [] ∨ sign = ['+'] ∨ sign = ['-']
  areDigits : Integer.AreDigits (whole ++ behind)
  point_mem : point = ['.'] ∨ point = [] ∧ behind = []

namespace Numeral

def text (n : Numeral) : List Char := n.sign ++ (n.whole ++ (n.point ++ n.behind))

def negative (n : Numeral) : Bool := n.sign == ['-']

/-- The digits as one whole number. -/
def mantissa (n : Numeral) : Nat := Nat.ofDigitChars 10 (n.whole ++ n.behind) 0

def scale (n : Numeral) : Nat := n.behind.length

/-- The number that a numeral stands for. -/
def number (n : Numeral) : ℚ := Decimal.numberOf n.negative n.mantissa n.scale

end Numeral

namespace Decimal

open Integer

theorem make_eq {m scale : Nat} (negative : Bool) (hm : m < mantissaBound) (hs : scale ≤ maxScale) :
    make negative m scale = .ok ⟨negative, m, scale, hm, hs⟩ := by
  rw [make, ofParts?, dif_pos ⟨hm, hs⟩]

theorem digit?_of_isDigit {c : Char} (h : c.isDigit = true) :
    digit? c = some (c.toNat - '0'.toNat) := by
  rw [digit?_eq, if_pos h]

/-- What is left of a numeral behind its sign: its text, its digits, and how many of them stand behind
the point. The flag says that the point has been passed. -/
inductive Remains : Bool → List Char → List Char → Nat → Prop
  | nil (point : Bool) : Remains point [] [] 0
  | digit {point : Bool} {c : Char} {cs ds : List Char} {n : Nat} (hc : c.isDigit = true)
    (h : Remains point cs ds n) :
    Remains point (c :: cs) (c :: ds) (if point then n + 1 else n)
  | point {cs ds : List Char} {n : Nat} (h : Remains true cs ds n) : Remains false ('.' :: cs) ds n

namespace Remains

theorem of_digits {cs : List Char} (h : ∀ c ∈ cs, c.isDigit = true) : Remains true cs cs cs.length := by
  induction cs with
  | nil => exact .nil true
  | cons c rest ih =>
    obtain ⟨hc, hrest⟩ := List.forall_mem_cons.mp h
    exact .digit hc (ih hrest)

theorem of_whole {whole cs ds : List Char} {n : Nat} (h : ∀ c ∈ whole, c.isDigit = true)
    (htail : Remains false cs ds n) : Remains false (whole ++ cs) (whole ++ ds) n := by
  induction whole with
  | nil => exact htail
  | cons c rest ih =>
    obtain ⟨hc, hrest⟩ := List.forall_mem_cons.mp h
    exact .digit hc (ih hrest)

theorem eq_nil {point : Bool} {ds : List Char} {n : Nat} (h : Remains point [] ds n) :
    ds = [] ∧ n = 0 := by
  cases h
  exact ⟨rfl, rfl⟩

/-- Behind the point every character counts. -/
theorem behind_pos {c : Char} {cs ds : List Char} {n : Nat} (h : Remains true (c :: cs) ds n) :
    0 < n := by
  cases h
  exact Nat.succ_pos _

theorem head {point : Bool} {c : Char} {cs ds : List Char} {n : Nat} (h : Remains point (c :: cs) ds n) :
    c.isDigit = true ∨ c = '.' := by
  cases h with
  | digit hc _ => exact Or.inl hc
  | point _ => exact Or.inr rfl

end Remains

variable {point : Bool} {cs ds : List Char} {n : Nat}

/-- Digits that fit are all taken into the mantissa. -/
theorem wide_eq (negative : Bool) (h : Remains point cs ds n) {m scale : Nat}
    (hpoint : point = false → scale = 0) (hfits : Nat.ofDigitChars 10 ds m < mantissaBound)
    (hscale : scale + n ≤ maxScale) :
    wide negative point m scale cs = make negative (Nat.ofDigitChars 10 ds m) (scale + n) := by
  induction h generalizing m scale with
  | nil point => rfl
  | @digit point c cs ds n hc h ih =>
    rw [Digits.ofDigitChars_cons_from] at hfits ⊢
    have hnext := Digits.le_ofDigitChars (m * 10 + (c.toNat - '0'.toNat)) ds
    rw [wide, digit?_of_isDigit hc]
    dsimp only
    rw [if_neg (by omega)]
    cases point with
    | false =>
      obtain rfl := hpoint rfl
      simpa using ih (fun _ => rfl) hfits hscale
    | true =>
      rw [if_pos rfl] at hscale ⊢
      rw [if_pos rfl, Nat.add_comm n 1, ← Nat.add_assoc]
      split_ifs with hfull
      · -- The scale is used up, so there is nothing left to round.
        have hmax : maxScale ≤ scale + 1 := by simpa using hfull
        cases cs with
        | nil =>
          obtain ⟨rfl, rfl⟩ := h.eq_nil
          rfl
        | cons c cs =>
          have hpos := h.behind_pos
          omega
      · exact ih nofun hfits (by omega)
  | @point cs ds n h ih =>
    obtain rfl := hpoint rfl
    rw [wide, show digit? '.' = none from rfl]
    exact ih nofun hfits hscale

theorem narrow_eq (negative : Bool) (h : Remains point cs ds n) {started : Bool} {m scale : Nat}
    (hpoint : point = false → scale = 0) (hstarted : started = true ∨ ds ≠ [])
    (hfits : Nat.ofDigitChars 10 ds m < mantissaBound) (hscale : scale + n ≤ maxScale) :
    narrow negative point started m scale cs =
      make negative (Nat.ofDigitChars 10 ds m) (scale + n) := by
  induction h generalizing started m scale with
  | nil point =>
    have hsome : started = true := hstarted.resolve_right fun hne => hne rfl
    rw [narrow, hsome]
    rfl
  | @digit point c cs ds n hc h ih =>
    rw [Digits.ofDigitChars_cons_from] at hfits ⊢
    have hnext : (if point then scale + 1 else 0) + n = scale + if point then n + 1 else n := by
      cases point with
      | false => simp [hpoint rfl]
      | true => simp only [if_true]; omega
    rw [narrow, digit?_of_isDigit hc, ← hnext]
    rw [← hnext] at hscale
    have hscale' : point = false → (if point then scale + 1 else 0) = 0 := by
      rintro rfl
      rfl
    dsimp only
    generalize (if point then scale + 1 else 0) = scale' at hscale hscale' ⊢
    cases cs with
    | nil =>
      obtain ⟨rfl, rfl⟩ := h.eq_nil
      rfl
    | cons next rest =>
      dsimp only
      have hroom : ¬(point && decide (maxScale ≤ scale')) = true := by
        intro hfull
        obtain ⟨rfl, hmax⟩ : point = true ∧ maxScale ≤ scale' := by simpa using hfull
        have hpos := h.behind_pos
        omega
      rw [if_neg hroom]
      split_ifs
      · exact wide_eq negative h hscale' hfits hscale
      · exact ih hscale' (Or.inl rfl) hfits hscale
  | @point cs ds n h ih =>
    obtain rfl := hpoint rfl
    rw [narrow, show digit? '.' = none from rfl]
    exact ih nofun hstarted hfits hscale

/-- A sign is taken off first. -/
theorem plain_eq {sign cs : List Char} (hsign : sign = [] ∨ sign = ['+'] ∨ sign = ['-'])
    (hcs : cs ≠ []) (hplus : cs.head? ≠ some '+') (hminus : cs.head? ≠ some '-') :
    plain (sign ++ cs) = narrow (sign == ['-']) false false 0 0 cs := by
  rcases hsign with rfl | rfl | rfl
  · rw [List.nil_append]
    unfold plain
    split
    · exact absurd rfl hcs
    · exact absurd rfl hminus
    · exact absurd rfl hplus
    · rfl
  · rfl
  · rfl

end Decimal

namespace Numeral

variable (n : Numeral)

theorem remains :
    Decimal.Remains false (n.whole ++ (n.point ++ n.behind)) (n.whole ++ n.behind) n.scale := by
  obtain ⟨hwhole, hbehind⟩ := List.forall_mem_append.mp n.areDigits.2
  apply Decimal.Remains.of_whole hwhole
  rcases n.point_mem with hpoint | ⟨hpoint, hnone⟩
  · rw [hpoint]
    exact .point (.of_digits hbehind)
  · rw [scale, hpoint, hnone]
    exact .nil false

theorem unsigned_ne_nil : n.whole ++ (n.point ++ n.behind) ≠ [] := by
  intro hnil
  have hremains := n.remains
  rw [hnil] at hremains
  exact n.areDigits.1 hremains.eq_nil.1

/-- A numeral within the bounds reads as the number that it stands for, with its scale. -/
theorem read_numeral (hm : n.mantissa < Decimal.mantissaBound) (hs : n.scale ≤ Decimal.maxScale) :
    Decimal.read (String.ofList n.text) = .ok ⟨n.negative, n.mantissa, n.scale, hm, hs⟩ := by
  have hne := n.unsigned_ne_nil
  have hhead : ∀ c, c.isDigit = false → c ≠ '.' →
      (n.whole ++ (n.point ++ n.behind)).head? ≠ some c := by
    intro c hdigit hdot heq
    obtain ⟨cs, hcs⟩ := List.head?_eq_some_iff.mp heq
    have hremains := n.remains
    rw [hcs] at hremains
    rcases hremains.head with h | h
    · rw [hdigit] at h
      cases h
    · exact hdot h
  have hplain : Decimal.plain n.text = Decimal.make n.negative n.mantissa n.scale := by
    rw [text, Decimal.plain_eq n.sign_mem hne (hhead '+' (by decide) (by decide))
      (hhead '-' (by decide) (by decide))]
    have hscale : 0 + n.scale ≤ Decimal.maxScale := by rwa [Nat.zero_add]
    have hnarrow : Decimal.narrow n.negative false false 0 0 (n.whole ++ (n.point ++ n.behind)) =
        Decimal.make n.negative n.mantissa (0 + n.scale) :=
      Decimal.narrow_eq n.negative n.remains (fun _ => rfl) (Or.inr n.areDigits.1) hm hscale
    rwa [Nat.zero_add] at hnarrow
  rw [Decimal.read, String.toList_ofList, hplain, Decimal.make_eq n.negative hm hs]

theorem text_ne_nil : n.text ≠ [] := by
  intro hnil
  exact n.unsigned_ne_nil (List.append_eq_nil_iff.mp hnil).2

end Numeral

end MarketFeed
