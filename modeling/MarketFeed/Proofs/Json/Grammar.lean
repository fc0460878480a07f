import Mathlib.Data.List.Basic
import MarketFeed.Json.Parser
import MarketFeed.Proofs.Json.Tokens
import MarketFeed.Proofs.Number.Integer

/-!
# The grammar of JSON text

Which text spells which value (`Spells`), said without a reader: first which text spells a token,
then that blanks may stand between tokens, then which tokens spell a value that is nested so deep at
most. The first half of reading is here: a text whose tokens spell a value is cut into these tokens
(`tokens_of_spaced`), and whatever a text is cut into is spelled by it (`spaced_of_tokensWith`).
-/

namespace MarketFeed.Json

/-! ## Tokens -/

/-- Characters and the text that spells them between quotes, behind the first half of a pair if there
is one. -/
inductive StringText : Option Nat → List Char → List Char → Prop
  | nil : StringText none [] []
  | plain {c : Char} {cs text : List Char} (hquote : c ≠ '"') (hescape : c ≠ '\\')
    (hcontrol : 0x20 ≤ c.toNat) (h : StringText none cs text) : StringText none (c :: cs) (c :: text)
  | escape {e c : Char} {cs text : List Char} (hc : simpleEscape? e = some c)
    (h : StringText none cs text) : StringText none (c :: cs) ('\\' :: e :: text)
  | unit {a b c d : Char} {n : Nat} {cs text : List Char} (hn : hexUnit? a b c d = some n)
    (hhigh : isHighHalf n = false) (hlow : isLowHalf n = false) (h : StringText none cs text) :
    StringText none (Char.ofNat n :: cs) ('\\' :: 'u' :: a :: b :: c :: d :: text)
  | firstHalf {a b c d : Char} {high : Nat} {cs text : List Char} (hn : hexUnit? a b c d = some high)
    (hhigh : isHighHalf high = true) (h : StringText (some high) cs text) :
    StringText none cs ('\\' :: 'u' :: a :: b :: c :: d :: text)
  | secondHalf {a b c d : Char} {high low : Nat} {cs text : List Char}
    (hn : hexUnit? a b c d = some low) (hlow : isLowHalf low = true) (h : StringText none cs text) :
    StringText (some high) (joinHalves high low :: cs) ('\\' :: 'u' :: a :: b :: c :: d :: text)

/-- Digits, one at least, and the text that spells them. -/
def DigitsText (ds : List Nat) (text : List Char) : Prop :=
  ds ≠ [] ∧ List.Forall₂ (fun d c => Integer.digit? c = some d) ds text

inductive FractionText : Option (List Nat) → List Char → Prop
  | none : FractionText none []
  | some {ds : List Nat} {text : List Char} (h : DigitsText ds text) :
    FractionText (some ds) ('.' :: text)

inductive ExponentText : Option (Bool × List Nat) → List Char → Prop
  | none : ExponentText none []
  | plain {e : Char} {ds : List Nat} {text : List Char} (he : e = 'e' ∨ e = 'E')
    (h : DigitsText ds text) : ExponentText (some (false, ds)) (e :: text)
  | plus {e : Char} {ds : List Nat} {text : List Char} (he : e = 'e' ∨ e = 'E')
    (h : DigitsText ds text) : ExponentText (some (false, ds)) (e :: '+' :: text)
  | minus {e : Char} {ds : List Nat} {text : List Char} (he : e = 'e' ∨ e = 'E')
    (h : DigitsText ds text) : ExponentText (some (true, ds)) (e :: '-' :: text)

/-- The parts of a number and the text that spells them, without the sign. No digit follows a leading
zero. -/
inductive NumberText.Spelled : NumberText → List Char → Prop
  | intro {negative : Bool} {whole : List Nat} {fraction : Option (List Nat)}
    {exponent : Option (Bool × List Nat)} {w f e : List Char} (hw : DigitsText whole w)
    (hzero : ∀ d ds, whole ≠ 0 :: d :: ds) (hf : FractionText fraction f)
    (he : ExponentText exponent e) : Spelled ⟨negative, whole, fraction, exponent⟩ (w ++ (f ++ e))

/-- A token and a text that spells it. -/
inductive Token.Spelled : Token → List Char → Prop
  | openBracket : Spelled .openBracket ['[']
  | closeBracket : Spelled .closeBracket [']']
  | openBrace : Spelled .openBrace ['\x7b']
  | closeBrace : Spelled .closeBrace ['\x7d']
  | colon : Spelled .colon [':']
  | comma : Spelled .comma [',']
  | str {cs text : List Char} (h : StringText none cs text) :
    Spelled (.str (String.ofList cs)) ('"' :: (text ++ ['"']))
  | null : Spelled (.atom .null) ['n', 'u', 'l', 'l']
  | true : Spelled (.atom (.bool true)) ['t', 'r', 'u', 'e']
  | false : Spelled (.atom (.bool false)) ['f', 'a', 'l', 's', 'e']
  | number {t : NumberText} {v : Json} {text : List Char} (h : t.Spelled text)
    (hsign : t.negative = .false) (hv : t.value? = some v) : Spelled (.atom v) text
  | negative {t : NumberText} {v : Json} {text : List Char} (h : t.Spelled text)
    (hsign : t.negative = .true) (hv : t.value? = some v) : Spelled (.atom v) ('-' :: text)

/-- Tokens and a text that spells them, with blanks between them. -/
inductive Spaced : List Token → List Char → Prop
  | nil : Spaced [] []
  | blank {c : Char} {ts : List Token} {cs : List Char} (hc : isBlank c = true)
    (h : Spaced ts cs) : Spaced ts (c :: cs)
  | token {t : Token} {ts : List Token} {text cs : List Char} (ht : t.Spelled text)
    (h : Spaced ts cs) : Spaced (t :: ts) (text ++ cs)

/-! ## Values -/

/-- What tokens may spell: a value, the items of an array, or the fields of an object. -/
inductive Phrase
  | value (v : Json)
  | items (items : List Json)
  | fields (fields : List (String × Json))

/-- Tokens spell a phrase, with containers nested so deep in it at most. There is one item or field at
least, and a later field of an object replaces an earlier one of its name. -/
inductive Derives : Nat → Phrase → List Token → Prop
  | atom {d : Nat} (v : Json) : Derives d (.value v) [.atom v]
  | str {d : Nat} (s : String) : Derives d (.value (.str s)) [.str s]
  | noItems {d : Nat} : Derives (d + 1) (.value (.arr [])) [.openBracket, .closeBracket]
  | array {d : Nat} {items : List Json} {ts : List Token} (h : Derives d (.items items) ts) :
    Derives (d + 1) (.value (.arr items)) (.openBracket :: (ts ++ [.closeBracket]))
  | noFields {d : Nat} : Derives (d + 1) (.value (.obj [])) [.openBrace, .closeBrace]
  | object {d : Nat} {fields : List (String × Json)} {ts : List Token}
    (h : Derives d (.fields fields) ts) :
    Derives (d + 1) (.value (object fields)) (.openBrace :: (ts ++ [.closeBrace]))
  | item {d : Nat} {v : Json} {ts : List Token} (h : Derives d (.value v) ts) :
    Derives d (.items [v]) ts
  | moreItems {d : Nat} {v : Json} {items : List Json} {ts more : List Token}
    (h : Derives d (.value v) ts) (hmore : Derives d (.items items) more) :
    Derives d (.items (v :: items)) (ts ++ .comma :: more)
  | field {d : Nat} {name : String} {v : Json} {ts : List Token} (h : Derives d (.value v) ts) :
    Derives d (.fields [(name, v)]) (.str name :: .colon :: ts)
  | moreFields {d : Nat} {name : String} {v : Json} {fields : List (String × Json)}
    {ts more : List Token} (h : Derives d (.value v) ts) (hmore : Derives d (.fields fields) more) :
    Derives d (.fields ((name, v) :: fields)) (.str name :: .colon :: (ts ++ .comma :: more))

/-- A text spells a value that is nested less than `maxDepth` deep. -/
def Spells (s : String) (v : Json) : Prop :=
  ∃ ts, Spaced ts s.toList ∧ Derives (maxDepth - 1) (.value v) ts

/-! ## Strings -/

theorem stringChars_of_stringText {high : Option Nat} {cs text : List Char}
    (h : StringText high cs text) (rest : List Char) :
    stringChars high (text ++ '"' :: rest) = some (cs, rest) := by
  induction h with
  | nil => simp [stringChars]
  | plain hquote hescape hcontrol _ ih =>
    rw [List.cons_append, stringChars, if_neg (Nat.not_lt.mpr hcontrol), ih]
    · rfl
    · exact hquote
    · exact fun _ _ _ _ _ h _ => hescape h
    · exact fun _ _ h _ => hescape h
  | escape hc _ ih =>
    rw [List.cons_append, List.cons_append, stringChars, hc, ih]
    · rfl
    · rintro a b c d more rfl -
      cases hc
  | unit hn hhigh hlow _ ih => simp [stringChars, hn, hhigh, hlow, ih]
  | firstHalf hn hhigh _ ih => simp [stringChars, hn, hhigh, ih]
  | secondHalf hn hlow _ ih => simp [stringChars, hn, hlow, ih]

theorem map_cons_eq_some {α β : Type} {a : α} {as : List α} {b : β} {r? : Option (List α × β)}
    (h : (r?.map fun (as, b) => (a :: as, b)) = some (as, b)) :
    ∃ more, r? = some (more, b) ∧ as = a :: more := by
  obtain ⟨⟨more, b'⟩, rfl, heq⟩ := Option.map_eq_some_iff.mp h
  cases heq
  exact ⟨more, rfl, rfl⟩

theorem stringText_of_stringChars {high : Option Nat} {cs out rest : List Char} :
    stringChars high cs = some (out, rest) →
      ∃ text, cs = text ++ '"' :: rest ∧ StringText high out text := by
  fun_induction stringChars high cs generalizing out with
  | case1 =>
    rintro ⟨⟩
    exact ⟨[], rfl, .nil⟩
  | case3 a b c d more n hn hhigh ih =>
    intro h
    obtain ⟨text, rfl, htext⟩ := ih h
    exact ⟨_, rfl, .firstHalf hn hhigh htext⟩
  | case5 a b c d more n hn hhigh hlow ih =>
    intro h
    obtain ⟨chars, hmore, rfl⟩ := map_cons_eq_some h
    obtain ⟨text, rfl, htext⟩ := ih hmore
    exact ⟨_, rfl, .unit hn (eq_false_of_ne_true hhigh) (eq_false_of_ne_true hlow) htext⟩
  | case6 a b c d more n high hn hlow ih =>
    intro h
    obtain ⟨chars, hmore, rfl⟩ := map_cons_eq_some h
    obtain ⟨text, rfl, htext⟩ := ih hmore
    exact ⟨_, rfl, .secondHalf hn hlow htext⟩
  | case9 e more _ c hc ih =>
    intro h
    obtain ⟨chars, hmore, rfl⟩ := map_cons_eq_some h
    obtain ⟨text, rfl, htext⟩ := ih hmore
    exact ⟨_, rfl, .escape hc htext⟩
  | case11 c more hquote _ hescape hcontrol ih =>
    intro h
    obtain ⟨chars, hmore, rfl⟩ := map_cons_eq_some h
    obtain ⟨text, rfl, htext⟩ := ih hmore
    obtain ⟨e, behind, hbehind⟩ := List.exists_cons_of_ne_nil (l := text ++ '"' :: rest) (by simp)
    exact ⟨_, rfl, .plain hquote (hescape e behind · hbehind) (Nat.not_lt.mp hcontrol) htext⟩
  | _ => nofun

/-! ## Numbers

Each part of a number is read as far as it goes, so what stands behind it must not go on with it. -/

/-- No digit comes next. -/
def EndsDigits (rest : List Char) : Prop := ∀ c ∈ rest.head?, Integer.digit? c = none

/-- Nothing comes next that would go on with a number. -/
def EndsNumber (rest : List Char) : Prop :=
  ∀ c ∈ rest.head?, Integer.digit? c = none ∧ c ≠ '.' ∧ c ≠ 'e' ∧ c ≠ 'E'

theorem EndsNumber.endsDigits {rest : List Char} (h : EndsNumber rest) : EndsDigits rest :=
  fun c hc => (h c hc).1

theorem spanDigits_append_of_endsDigits {ds : List Nat} {text rest : List Char}
    (h : List.Forall₂ (fun d c => Integer.digit? c = some d) ds text) (hrest : EndsDigits rest) :
    spanDigits (text ++ rest) = (ds, rest) := by
  induction h with
  | nil =>
    cases rest with
    | nil => rfl
    | cons c rest => simp [spanDigits, hrest c rfl]
  | cons hd _ ih => simp [spanDigits, hd, ih]

theorem append_of_spanDigits {cs rest : List Char} {ds : List Nat}
    (h : spanDigits cs = (ds, rest)) :
    ∃ text, cs = text ++ rest ∧ List.Forall₂ (fun d c => Integer.digit? c = some d) ds text := by
  induction cs generalizing ds with
  | nil =>
    cases h
    exact ⟨[], rfl, .nil⟩
  | cons c cs ih =>
    rw [spanDigits] at h
    cases hc : Integer.digit? c with
    | none =>
      rw [hc] at h
      cases h
      exact ⟨[], rfl, .nil⟩
    | some d =>
      rw [hc] at h
      cases h
      obtain ⟨text, htext, hds⟩ := ih rfl
      exact ⟨c :: text, congrArg (c :: ·) htext, .cons hc hds⟩

theorem fractionText_append {fraction : Option (List Nat)} {text rest : List Char}
    (h : FractionText fraction text) (hpoint : '.' ∉ rest.head?) (hrest : EndsDigits rest) :
    fractionText (text ++ rest) = some (fraction, rest) := by
  cases h with
  | none =>
    cases rest with
    | nil => rfl
    | cons c rest =>
      rw [List.nil_append, fractionText]
      rintro more ⟨⟩
      exact hpoint rfl
  | some h =>
    rw [List.cons_append, fractionText, spanDigits_append_of_endsDigits h.2 hrest]
    split
    · rename_i heq
      cases heq
      exact absurd rfl h.1
    · rename_i heq
      cases heq
      rfl

theorem append_of_fractionText {cs rest : List Char} {fraction : Option (List Nat)}
    (h : fractionText cs = some (fraction, rest)) :
    ∃ text, cs = text ++ rest ∧ FractionText fraction text := by
  unfold fractionText at h
  split at h
  · split at h
    · cases h
    · rename_i hne heq
      cases h
      obtain ⟨text, rfl, hds⟩ := append_of_spanDigits heq
      exact ⟨'.' :: text, rfl, .some ⟨hne, hds⟩⟩
  · cases h
    exact ⟨[], rfl, .none⟩

theorem exponentDigits_append {ds : List Nat} {text rest : List Char} (h : DigitsText ds text)
    (hrest : EndsDigits rest) (down : Bool) :
    exponentDigits down (text ++ rest) = some (some (down, ds), rest) := by
  rw [exponentDigits, spanDigits_append_of_endsDigits h.2 hrest]
  split
  · rename_i heq
    cases heq
    exact absurd rfl h.1
  · rename_i heq
    cases heq
    rfl

theorem append_of_exponentDigits {down : Bool} {cs rest : List Char}
    {exponent : Option (Bool × List Nat)}
    (h : exponentDigits down cs = some (exponent, rest)) :
    ∃ ds text, cs = text ++ rest ∧ exponent = some (down, ds) ∧ DigitsText ds text := by
  unfold exponentDigits at h
  split at h
  · cases h
  · rename_i hne heq
    cases h
    obtain ⟨text, rfl, hds⟩ := append_of_spanDigits heq
    exact ⟨_, text, rfl, rfl, hne, hds⟩

theorem exponentText_cons {e : Char} (he : e = 'e' ∨ e = 'E') (rest : List Char) :
    exponentText (e :: rest) = match rest with
      | '+' :: rest => exponentDigits false rest
      | '-' :: rest => exponentDigits true rest
      | rest => exponentDigits false rest :=
  if_pos he

theorem exponentText_append {exponent : Option (Bool × List Nat)} {text rest : List Char}
    (h : ExponentText exponent text) (hrest : EndsNumber rest) :
    exponentText (text ++ rest) = some (exponent, rest) := by
  cases h with
  | none =>
    cases rest with
    | nil => rfl
    | cons c rest =>
      obtain ⟨-, -, he, hE⟩ := hrest c rfl
      exact if_neg (not_or.mpr ⟨he, hE⟩)
  | plain he h =>
    have hdigits := exponentDigits_append h hrest.endsDigits false
    obtain ⟨hne, hds⟩ := h
    rw [List.cons_append, exponentText_cons he]
    cases hds with
    | nil => exact absurd rfl hne
    | cons hd _ =>
      split
      · rename_i heq
        cases heq
        cases hd
      · rename_i heq
        cases heq
        cases hd
      · exact hdigits
  | plus he h =>
    rw [List.cons_append, exponentText_cons he]
    exact exponentDigits_append h hrest.endsDigits false
  | minus he h =>
    rw [List.cons_append, exponentText_cons he]
    exact exponentDigits_append h hrest.endsDigits true

theorem append_of_exponentText {cs rest : List Char} {exponent : Option (Bool × List Nat)}
    (h : exponentText cs = some (exponent, rest)) :
    ∃ text, cs = text ++ rest ∧ ExponentText exponent text := by
  unfold exponentText at h
  split at h
  · rename_i e more
    split_ifs at h with he
    · split at h
      · obtain ⟨ds, text, rfl, rfl, hds⟩ := append_of_exponentDigits h
        exact ⟨_, rfl, .plus he hds⟩
      · obtain ⟨ds, text, rfl, rfl, hds⟩ := append_of_exponentDigits h
        exact ⟨_, rfl, .minus he hds⟩
      · obtain ⟨ds, text, rfl, rfl, hds⟩ := append_of_exponentDigits h
        exact ⟨_, rfl, .plain he hds⟩
    · cases h
      exact ⟨[], rfl, .none⟩
  · cases h
    exact ⟨[], rfl, .none⟩

theorem FractionText.head {fraction : Option (List Nat)} {text : List Char}
    (h : FractionText fraction text) {rest : List Char} (hrest : EndsDigits rest) :
    EndsDigits (text ++ rest) := by
  cases h with
  | none => exact hrest
  | some h =>
    rintro c ⟨⟩
    decide

theorem ExponentText.head {exponent : Option (Bool × List Nat)} {text rest : List Char}
    (h : ExponentText exponent text) (hrest : EndsNumber rest) :
    EndsDigits (text ++ rest) ∧ '.' ∉ (text ++ rest).head? := by
  have he : ∀ {e : Char} {more : List Char}, e = 'e' ∨ e = 'E' →
      EndsDigits (e :: more) ∧ '.' ∉ (e :: more).head? := by
    rintro e more (rfl | rfl)
    · exact ⟨by rintro c ⟨⟩; decide, by simp⟩
    · exact ⟨by rintro c ⟨⟩; decide, by simp⟩
  cases h with
  | none => exact ⟨hrest.endsDigits, fun h => (hrest '.' h).2.1 rfl⟩
  | plain h _ => exact he h
  | plus h _ => exact he h
  | minus h _ => exact he h

theorem numberText_append {t : NumberText} {text rest : List Char} (h : t.Spelled text)
    (hrest : EndsNumber rest) : numberText t.negative (text ++ rest) = some (t, rest) := by
  obtain ⟨hw, hzero, hf, he⟩ := h
  obtain ⟨hdigits, hpoint⟩ := he.head hrest
  rw [List.append_assoc, List.append_assoc, numberText,
    spanDigits_append_of_endsDigits hw.2 (hf.head hdigits)]
  split
  · rename_i heq
    cases heq
    exact absurd rfl hw.1
  · rename_i heq
    cases heq
    exact absurd rfl (hzero _ _)
  · rename_i heq
    cases heq
    simp [fractionText_append hf hpoint hdigits, exponentText_append he hrest]

theorem append_of_numberText {negative : Bool} {cs rest : List Char} {t : NumberText}
    (h : numberText negative cs = some (t, rest)) :
    ∃ text, cs = text ++ rest ∧ t.Spelled text ∧ t.negative = negative := by
  unfold numberText at h
  split at h
  · cases h
  · cases h
  · rename_i hne hzero heq
    obtain ⟨w, rfl, hw⟩ := append_of_spanDigits heq
    obtain ⟨⟨fraction, behind⟩, hfraction, h⟩ := Option.bind_eq_some_iff.mp h
    obtain ⟨⟨exponent, behind'⟩, hexponent, h⟩ := Option.bind_eq_some_iff.mp h
    cases h
    obtain ⟨f, rfl, hf⟩ := append_of_fractionText hfraction
    obtain ⟨e, rfl, he⟩ := append_of_exponentText hexponent
    exact ⟨w ++ (f ++ e), by simp, .intro ⟨hne, hw⟩ hzero hf he, rfl⟩

/-! ## Cutting a text -/

/-- Whether a value may end before a token. -/
def Token.endsValue : Token → Bool
  | .closeBracket | .closeBrace | .comma => true
  | _ => false

/-- Behind a value without parts comes a token that ends it, or nothing. -/
def Separated : List Token → Prop
  | [] => True
  | .atom _ :: ts => (∀ t ∈ ts.head?, t.endsValue = true) ∧ Separated ts
  | _ :: ts => Separated ts

theorem NumberText.Spelled.exists_digit {t : NumberText} {text : List Char} (h : t.Spelled text) :
    ∃ c more, text = c :: more ∧ c.isDigit = true := by
  obtain ⟨⟨hne, hds⟩, -, -, -⟩ := h
  cases hds with
  | nil => exact absurd rfl hne
  | cons hd _ =>
    refine ⟨_, _, rfl, ?_⟩
    rw [Integer.digit?_eq] at hd
    exact (Option.ite_none_right_eq_some.mp hd).1

theorem isBlank_of_isDigit {c : Char} (h : c.isDigit = true) : isBlank c = false := by
  simp only [isBlank, Bool.or_eq_false_iff, decide_eq_false_iff_not]
  refine ⟨⟨⟨?_, ?_⟩, ?_⟩, ?_⟩ <;> rintro rfl <;> cases h

theorem number?_append {t : NumberText} {v : Json} {text rest : List Char} (h : t.Spelled text)
    (hv : t.value? = some v) (hrest : EndsNumber rest) :
    number? t.negative (text ++ rest) = some (.atom v, rest) := by
  simp [number?, numberText_append h hrest, hv]

/-- A token is read from a text that spells it, if nothing behind goes on with it. -/
theorem token?_of_spelled {t : Token} {text rest : List Char} (h : t.Spelled text)
    (hrest : ∀ v, t = .atom v → EndsNumber rest) :
    ∃ c more, text = c :: more ∧ isBlank c = false ∧ token? c (more ++ rest) = some (t, rest) := by
  cases h with
  | str h =>
    refine ⟨'"', _, rfl, rfl, ?_⟩
    simp [token?, stringChars_of_stringText h]
  | number h hsign hv =>
    obtain ⟨c, more, rfl, hc⟩ := h.exists_digit
    refine ⟨c, more, rfl, isBlank_of_isDigit hc, ?_⟩
    rw [token?_digit hc, ← hsign]
    exact number?_append h hv (hrest _ rfl)
  | negative h hsign hv =>
    refine ⟨'-', _, rfl, rfl, ?_⟩
    rw [token?, ← hsign]
    exact number?_append h hv (hrest _ rfl)
  | _ => exact ⟨_, _, rfl, rfl, rfl⟩

theorem append_of_number? {negative : Bool} {cs rest : List Char} {t : Token}
    (h : number? negative cs = some (t, rest)) :
    ∃ text, cs = text ++ rest ∧ ∃ (n : NumberText) (v : Json), n.Spelled text ∧
      n.negative = negative ∧ n.value? = some v ∧ t = .atom v := by
  obtain ⟨⟨n, behind⟩, hn, h⟩ := Option.bind_eq_some_iff.mp h
  obtain ⟨v, hv, h⟩ := Option.bind_eq_some_iff.mp h
  cases h
  obtain ⟨text, rfl, htext, hsign⟩ := append_of_numberText hn
  exact ⟨text, rfl, n, v, htext, hsign, hv, rfl⟩

/-- A token that is read is spelled by what was read. -/
theorem append_of_token? {c : Char} {cs rest : List Char} {t : Token}
    (h : token? c cs = some (t, rest)) : ∃ text, c :: cs = text ++ rest ∧ t.Spelled text := by
  unfold token? at h
  split at h
  case h_7 =>
    obtain ⟨⟨chars, behind⟩, hread, h⟩ := Option.map_eq_some_iff.mp h
    cases h
    obtain ⟨text, rfl, htext⟩ := stringText_of_stringChars hread
    exact ⟨_, by simp, .str htext⟩
  case h_11 =>
    obtain ⟨text, rfl, n, v, hn, hsign, hv, rfl⟩ := append_of_number? h
    exact ⟨_, rfl, .negative hn hsign hv⟩
  case h_12 =>
    split_ifs at h
    obtain ⟨text, htext, n, v, hn, hsign, hv, rfl⟩ := append_of_number? h
    exact ⟨_, htext, .number hn hsign hv⟩
  all_goals
    cases h
    exact ⟨_, rfl, by constructor⟩

theorem endsNumber_cons {c : Char} (cs : List Char)
    (h : Integer.digit? c = none ∧ c ≠ '.' ∧ c ≠ 'e' ∧ c ≠ 'E') :
    EndsNumber (c :: cs) := by
  rintro c ⟨⟩
  exact h

theorem Spaced.endsNumber {ts : List Token} {cs : List Char} (h : Spaced ts cs)
    (hts : ∀ t ∈ ts.head?, t.endsValue = true) : EndsNumber cs := by
  cases h with
  | nil => nofun
  | blank hc h =>
    simp only [isBlank, Bool.or_eq_true, decide_eq_true_eq] at hc
    rcases hc with ((rfl | rfl) | rfl) | rfl <;> exact endsNumber_cons _ (by decide)
  | token ht h =>
    have hends := hts _ rfl
    cases ht <;> first | exact endsNumber_cons _ (by decide) | cases hends

/-- A text is cut into the tokens that it spells, if values are kept apart. -/
theorem tokensWith_of_spaced {ts : List Token} {cs : List Char} (h : Spaced ts cs)
    (hts : Separated ts) {fuel : Nat} (hfuel : cs.length ≤ fuel) : tokensWith fuel cs = some ts := by
  induction h generalizing fuel with
  | nil => cases fuel <;> rfl
  | blank hc _ ih =>
    obtain ⟨fuel, rfl⟩ : ∃ k, fuel = k + 1 := ⟨fuel - 1, by rw [List.length_cons] at hfuel; omega⟩
    rw [tokensWith, if_pos hc]
    exact ih hts (Nat.le_of_succ_le_succ hfuel)
  | @token t ts text cs ht h ih =>
    obtain ⟨hmore, hends⟩ : Separated ts ∧ ∀ v, t = .atom v → EndsNumber cs := by
      cases t with
      | atom v => exact ⟨hts.2, fun _ _ => h.endsNumber hts.1⟩
      | _ => exact ⟨hts, by rintro v ⟨⟩⟩
    obtain ⟨c, more, rfl, hblank, htoken⟩ := token?_of_spelled ht hends
    rw [List.cons_append, List.length_cons, List.length_append] at hfuel
    obtain ⟨fuel, rfl⟩ : ∃ k, fuel = k + 1 := ⟨fuel - 1, by omega⟩
    rw [List.cons_append, tokensWith, hblank, if_neg Bool.false_ne_true, htoken]
    have hrest : tokensWith fuel cs = some ts := ih hmore (by omega)
    simp [hrest]

theorem tokens_of_spaced {ts : List Token} {cs : List Char} (h : Spaced ts cs)
    (hts : Separated ts) : tokens cs = some ts := tokensWith_of_spaced h hts (Nat.le_refl _)

/-- A text spells the tokens that it is cut into. -/
theorem spaced_of_tokensWith {fuel : Nat} {cs : List Char} {ts : List Token}
    (h : tokensWith fuel cs = some ts) : Spaced ts cs := by
  induction fuel generalizing cs ts with
  | zero =>
    cases cs with
    | nil => cases h; exact .nil
    | cons c cs => cases h
  | succ fuel ih =>
    cases cs with
    | nil => cases h; exact .nil
    | cons c cs =>
      rw [tokensWith] at h
      split_ifs at h with hblank
      · exact .blank hblank (ih h)
      · obtain ⟨⟨t, rest⟩, ht, h⟩ := Option.bind_eq_some_iff.mp h
        obtain ⟨more, hmore, h⟩ := Option.bind_eq_some_iff.mp h
        cases h
        obtain ⟨text, htext, hspelled⟩ := append_of_token? ht
        rw [htext]
        exact .token hspelled (ih hmore)

end MarketFeed.Json
