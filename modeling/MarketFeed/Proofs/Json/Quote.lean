import Mathlib.Tactic.SplitIfs
import MarketFeed.Json.Printer
import MarketFeed.Json.Token

/-!
# Quoted strings

A quoted string is read back as the string, and what follows it is left (`stringChars_quote`). So a
text that begins with a quoted string begins with no other one (`quote_append_inj`).
-/

namespace MarketFeed.Json

/-- A control character as four digits is read back. -/
theorem hexUnit?_unit : ∀ n < 0x20, hexUnit? (Hex.digit (n / 4096 % 16)) (Hex.digit (n / 256 % 16))
    (Hex.digit (n / 16 % 16)) (Hex.digit (n % 16)) = some n := by
  decide

/-- One character inside a string is read back. -/
theorem stringChars_escape (c : Char) (rest : List Char) :
    stringChars none (escape c ++ rest) =
      (stringChars none rest).map fun (cs, rest) => (c :: cs, rest) := by
  unfold escape
  split_ifs with hmark hb hf hn hr ht hcontrol
  · simp only [Bool.or_eq_true, decide_eq_true_eq] at hmark
    rcases hmark with rfl | rfl <;> simp [stringChars, simpleEscape?]
  · subst hb; simp [stringChars, simpleEscape?]
  · subst hf; simp [stringChars, simpleEscape?]
  · subst hn; simp [stringChars, simpleEscape?]
  · subst hr; simp [stringChars, simpleEscape?]
  · subst ht; simp [stringChars, simpleEscape?]
  · have hhigh : isHighHalf c.toNat = false := by simp [isHighHalf]; omega
    have hlow : isLowHalf c.toNat = false := by simp [isLowHalf]; omega
    simp only [Hex.unit, List.cons_append, List.nil_append]
    rw [stringChars.eq_def]
    simp [hexUnit?_unit c.toNat hcontrol, hhigh, hlow]
  · simp only [Bool.or_eq_true, decide_eq_true_eq, not_or] at hmark
    rw [List.singleton_append, stringChars, if_neg hcontrol]
    · exact hmark.1
    · exact fun _ _ _ _ _ h _ => hmark.2 h
    · exact fun _ _ h _ => hmark.2 h

/-- A quoted string is read back, and what follows is left. -/
theorem stringChars_quote (cs rest : List Char) :
    stringChars none (cs.flatMap escape ++ '"' :: rest) = some (cs, rest) := by
  induction cs with
  | nil => simp [stringChars]
  | cons c cs ih => rw [List.flatMap_cons, List.append_assoc, stringChars_escape, ih]; rfl

theorem quote_append_inj {s s' : String} {rest rest' : List Char}
    (h : quote s ++ rest = quote s' ++ rest') : s = s' ∧ rest = rest' := by
  have hread : ∀ (s : String) (rest : List Char),
      stringChars none ((quote s ++ rest).drop 1) = some (s.toList, rest) := by
    intro s rest
    simpa [quote] using stringChars_quote s.toList rest
  have hpair := hread s rest
  rw [h, hread s' rest', Option.some.injEq, Prod.mk.injEq] at hpair
  exact ⟨String.toList_inj.mp hpair.1.symm, hpair.2.symm⟩

end MarketFeed.Json
