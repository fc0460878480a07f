import Mathlib.Data.List.Basic
import MarketFeed.Number.Integer

/-!
# Whole numbers in text

A whole number is spelled by digits, with or without a sign before them. Reading text between two
bounds finds the number that it spells, if that lies between them (`read_eq_ok_iff`). So a number that
is printed is read back (`readInt64_toString`).
-/

namespace MarketFeed.Integer

/-- The number that digits spell behind a number `m`. -/
def valueFrom (m : Nat) (digits : List Char) : Nat :=
  digits.foldl (fun m c => m * 10 + (c.toNat - '0'.toNat)) m

/-- At least one digit, and nothing else. -/
def AreDigits (cs : List Char) : Prop := cs ≠ [] ∧ ∀ c ∈ cs, c.isDigit = true

/-- Text spells a whole number. -/
inductive Spells : List Char → Int → Prop
  | plain {digits : List Char} (h : AreDigits digits) : Spells digits (valueFrom 0 digits)
  | plus {digits : List Char} (h : AreDigits digits) : Spells ('+' :: digits) (valueFrom 0 digits)
  | minus {digits : List Char} (h : AreDigits digits) : Spells ('-' :: digits) (-valueFrom 0 digits)

theorem le_valueFrom (m : Nat) (digits : List Char) : m ≤ valueFrom m digits := by
  induction digits generalizing m with
  | nil => exact Nat.le_refl m
  | cons c rest ih =>
    have hrest := ih (m * 10 + (c.toNat - '0'.toNat))
    rw [valueFrom, List.foldl_cons, ← valueFrom]
    omega

theorem digit?_eq (c : Char) :
    digit? c = if c.isDigit = true then some (c.toNat - '0'.toNat) else none := by
  have hiff : ('0' ≤ c ∧ c ≤ '9') ↔ c.isDigit = true := by
    simp [Char.isDigit, Char.le_def]
  simp only [digit?, hiff]

theorem readDigits_eq_ok_iff {bound m n : Nat} (beyond : Fault) (cs : List Char) (hm : m ≤ bound) :
    readDigits bound beyond m cs = .ok n ↔
      (∀ c ∈ cs, c.isDigit = true) ∧ valueFrom m cs = n ∧ n ≤ bound := by
  induction cs generalizing m with
  | nil =>
    simp only [readDigits, Except.ok.injEq, valueFrom, List.foldl_nil]
    constructor
    · rintro rfl
      exact ⟨nofun, rfl, hm⟩
    · exact fun h => h.2.1
  | cons c rest ih =>
    rw [readDigits, digit?_eq, List.forall_mem_cons, valueFrom, List.foldl_cons, ← valueFrom]
    by_cases hc : c.isDigit = true
    · rw [if_pos hc]
      dsimp only
      split_ifs with hd
      · rw [ih hd]
        simp [hc]
      · have hle := le_valueFrom (m * 10 + (c.toNat - '0'.toNat)) rest
        constructor
        · nofun
        · omega
    · rw [if_neg hc]
      exact ⟨nofun, fun h => absurd h.1.1 hc⟩

theorem map_readDigits_eq_ok_iff {bound : Nat} (beyond : Fault) {cs : List Char} (hcs : cs ≠ [])
    (f : Nat → Int) (n : Int) :
    (readDigits bound beyond 0 cs).map f = .ok n ↔
      (AreDigits cs ∧ n = f (valueFrom 0 cs)) ∧ valueFrom 0 cs ≤ bound := by
  constructor
  · intro h
    cases hread : readDigits bound beyond 0 cs with
    | error fault => rw [hread] at h; cases h
    | ok k =>
      obtain ⟨hall, rfl, hle⟩ := (readDigits_eq_ok_iff beyond cs bound.zero_le).mp hread
      rw [hread] at h
      exact ⟨⟨⟨hcs, hall⟩, (Except.ok.inj h).symm⟩, hle⟩
  · rintro ⟨⟨⟨-, hall⟩, rfl⟩, hle⟩
    rw [(readDigits_eq_ok_iff beyond cs bound.zero_le).mpr ⟨hall, rfl, hle⟩]
    rfl

theorem not_areDigits_cons {c : Char} (hc : c.isDigit = false) (cs : List Char) :
    ¬AreDigits (c :: cs) := by
  intro h
  rw [h.2 c List.mem_cons_self] at hc
  cases hc

theorem spells_plain_iff {c : Char} {rest : List Char} {n : Int} (hplus : c ≠ '+') (hminus : c ≠ '-') :
    Spells (c :: rest) n ↔ AreDigits (c :: rest) ∧ n = valueFrom 0 (c :: rest) := by
  constructor
  · intro h
    cases h with
    | plain h => exact ⟨h, rfl⟩
    | plus h => exact absurd rfl hplus
    | minus h => exact absurd rfl hminus
  · rintro ⟨h, rfl⟩
    exact .plain h

theorem spells_plus_iff {rest : List Char} {n : Int} :
    Spells ('+' :: rest) n ↔ AreDigits rest ∧ n = valueFrom 0 rest := by
  constructor
  · intro h
    cases h with
    | plain h => exact absurd h (not_areDigits_cons (by decide) rest)
    | plus h => exact ⟨h, rfl⟩
  · rintro ⟨h, rfl⟩
    exact .plus h

theorem spells_minus_iff {rest : List Char} {n : Int} :
    Spells ('-' :: rest) n ↔ AreDigits rest ∧ n = -valueFrom 0 rest := by
  constructor
  · intro h
    cases h with
    | plain h => exact absurd h (not_areDigits_cons (by decide) rest)
    | minus h => exact ⟨h, rfl⟩
  · rintro ⟨h, rfl⟩
    exact .minus h

theorem not_spells_nil {n : Int} : ¬Spells [] n := by
  intro h
  cases h with
  | plain h => exact h.1 rfl

/-- What reads as a number is what spells one between the bounds. -/
theorem read_eq_ok_iff {low high : Int} (hlow : low < 0) (hhigh : 0 ≤ high) (cs : List Char) (n : Int) :
    read low high cs = .ok n ↔ Spells cs n ∧ low ≤ n ∧ n ≤ high := by
  unfold read
  split
  · exact ⟨nofun, fun h => absurd h.1 not_spells_nil⟩
  · exact ⟨nofun, fun h => absurd rfl (spells_plus_iff.mp h.1).1.1⟩
  · exact ⟨nofun, fun h => absurd rfl (spells_minus_iff.mp h.1).1.1⟩
  · rename_i rest hne
    rw [map_readDigits_eq_ok_iff _ hne, spells_plus_iff]
    refine and_congr_right fun h => ?_
    simp only [h.2, Int.ofNat_eq_natCast]
    omega
  · rename_i rest hne
    rw [if_pos hlow, map_readDigits_eq_ok_iff _ hne, spells_minus_iff]
    refine and_congr_right fun h => ?_
    simp only [h.2, Int.ofNat_eq_natCast]
    omega
  · rename_i hnil _ _ hplus hminus
    obtain ⟨c, rest, rfl⟩ := List.exists_cons_of_ne_nil hnil
    rw [map_readDigits_eq_ok_iff _ hnil, spells_plain_iff (fun h => hplus rest (by rw [h]))
      (fun h => hminus rest (by rw [h]))]
    refine and_congr_right fun h => ?_
    simp only [h.2, Int.ofNat_eq_natCast]
    omega

/-! ## Printed numbers -/

theorem valueFrom_eq_ofDigitChars (m : Nat) (digits : List Char) :
    valueFrom m digits = Nat.ofDigitChars 10 digits m := by
  induction digits generalizing m with
  | nil => rfl
  | cons c rest ih =>
    rw [valueFrom, List.foldl_cons, ← valueFrom, ih, Nat.ofDigitChars_cons, Nat.mul_comm]

theorem areDigits_toDigits (n : Nat) : AreDigits (Nat.toDigits 10 n) :=
  ⟨Nat.toDigits_ne_nil, fun _ hc => Nat.isDigit_of_mem_toDigits (by decide) (by decide) hc⟩

theorem valueFrom_toDigits (n : Nat) : valueFrom 0 (Nat.toDigits 10 n) = n := by
  rw [valueFrom_eq_ofDigitChars, Nat.ofDigitChars_ten_toDigits]

/-- A whole number is spelled by its text. -/
theorem spells_toString (n : Int) : Spells (toString n).toList n := by
  cases n with
  | ofNat n =>
    have h := Spells.plain (areDigits_toDigits n)
    rw [valueFrom_toDigits] at h
    have htext : (toString (Int.ofNat n)).toList = Nat.toDigits 10 n := String.toList_ofList
    rw [htext]
    exact h
  | negSucc n =>
    have h := Spells.minus (areDigits_toDigits (n + 1))
    rw [valueFrom_toDigits] at h
    have htext : (toString (Int.negSucc n)).toList = '-' :: Nat.toDigits 10 (n + 1) := by
      show ("-" ++ Nat.repr (n + 1)).toList = _
      rw [String.toList_append]
      exact congrArg ('-' :: ·) String.toList_ofList
    rw [htext]
    exact h

theorem readInt64_toString {n : Int} (hlow : -9223372036854775808 ≤ n)
    (hhigh : n ≤ 9223372036854775807) : readInt64 (toString n) = .ok n :=
  (read_eq_ok_iff (by decide) (by decide) _ n).mpr ⟨spells_toString n, hlow, hhigh⟩

end MarketFeed.Integer
