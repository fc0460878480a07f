import MarketFeed.Proofs.Json.Quote

/-!
# The tokens of a printed value

The text of a value is cut into the tokens that the value consists of, and what follows the value is
left (`lexes_chars`). A whole number is the only part that is read as far as it goes, so what follows
it must not go on with it; behind a value comes a comma, a closing bracket, or nothing.
-/

namespace MarketFeed.Json

/-! ## Whole numbers -/

/-- The digits of a number, the first one first. -/
def decimals (n : Nat) : List Nat := (Nat.toDigits 10 n).filterMap Integer.digit?

theorem digit?_digitChar : ∀ d < 10, Integer.digit? (Nat.digitChar d) = some d := by decide

theorem isSome_digit? {c : Char} (h : c.isDigit = true) : (Integer.digit? c).isSome := by
  have hrange : '0' ≤ c ∧ c ≤ '9' := by simpa [Char.isDigit, Char.le_def] using h
  rw [Integer.digit?, if_pos hrange]
  rfl

theorem decimals_eq (n : Nat) :
    decimals n = if n < 10 then [n] else decimals (n / 10) ++ [n % 10] := by
  rw [decimals, Nat.toDigits_eq_if (by decide)]
  split_ifs with h
  · simp [digit?_digitChar n h]
  · rw [List.filterMap_append, ← decimals]
    simp [digit?_digitChar (n % 10) (Nat.mod_lt n (by decide))]

theorem decimals_ne_nil (n : Nat) : decimals n ≠ [] := by
  rw [decimals_eq]
  split_ifs <;> simp

/-- A number is zero or begins with another digit. -/
theorem head_decimals_pos {n d : Nat} {ds : List Nat} (h : decimals n = d :: ds) (hn : 0 < n) :
    0 < d := by
  induction n using Nat.strongRecOn generalizing ds with
  | ind n ih =>
    rw [decimals_eq] at h
    split_ifs at h with hlt
    · cases h
      exact hn
    · obtain ⟨e, es, he⟩ := List.exists_cons_of_ne_nil (decimals_ne_nil (n / 10))
      rw [he] at h
      cases h
      exact ih (n / 10) (by omega) he (by omega)

theorem decimals_ne_zero_cons (n e : Nat) (ds : List Nat) : decimals n ≠ 0 :: e :: ds := by
  intro h
  cases n with
  | zero =>
    rw [decimals_eq, if_pos (by decide)] at h
    cases h
  | succ n => exact absurd (head_decimals_pos h (Nat.succ_pos n)) (Nat.lt_irrefl 0)

theorem absorb_append {m k : Nat} {ds : List Nat} (h : absorb m ds = (k, 0)) {d : Nat}
    (hd : k * 10 + d ≤ maxSignificand) : absorb m (ds ++ [d]) = (k * 10 + d, 0) := by
  induction ds generalizing m with
  | nil =>
    cases h
    simp [absorb, hd]
  | cons e ds ih =>
    rw [absorb] at h
    rw [List.cons_append, absorb]
    split_ifs at h ⊢ with hle
    · exact ih h
    · cases h

/-- A number that fits is read to its last digit. -/
theorem absorb_decimals {n : Nat} (h : n ≤ maxSignificand) : absorb 0 (decimals n) = (n, 0) := by
  induction n using Nat.strongRecOn with
  | ind n ih =>
    rw [decimals_eq]
    split_ifs with hlt
    · simp [absorb, h]
    · have hn : n / 10 * 10 + n % 10 = n := by omega
      have happend := absorb_append (ih (n / 10) (by omega) (by omega)) (d := n % 10) (by omega)
      rwa [hn] at happend

/-! ## Behind a value -/

/-- What may follow a value in a text. -/
def EndsValue (rest : List Char) : Prop :=
  ∀ c cs, rest = c :: cs → c = ',' ∨ c = ']' ∨ c = '\x7d'

theorem endsValue_nil : EndsValue [] := nofun

theorem endsValue_comma (rest : List Char) : EndsValue (',' :: rest) := by
  rintro c cs ⟨⟩
  exact Or.inl rfl

theorem endsValue_bracket (rest : List Char) : EndsValue (']' :: rest) := by
  rintro c cs ⟨⟩
  exact Or.inr (Or.inl rfl)

theorem endsValue_brace (rest : List Char) : EndsValue ('\x7d' :: rest) := by
  rintro c cs ⟨⟩
  exact Or.inr (Or.inr rfl)

theorem spanDigits_append {cs rest : List Char} (hcs : ∀ c ∈ cs, c.isDigit = true)
    (hrest : EndsValue rest) :
    spanDigits (cs ++ rest) = (cs.filterMap Integer.digit?, rest) := by
  induction cs with
  | nil =>
    cases rest with
    | nil => rfl
    | cons c rest => rcases hrest c rest rfl with rfl | rfl | rfl <;> rfl
  | cons c cs ih =>
    obtain ⟨d, hd⟩ := Option.isSome_iff_exists.mp (isSome_digit? (hcs c List.mem_cons_self))
    rw [List.cons_append, spanDigits, hd, ih fun c hc => hcs c (List.mem_cons_of_mem _ hc),
      List.filterMap_cons_some hd]

theorem fractionText_of_endsValue {rest : List Char} (h : EndsValue rest) :
    fractionText rest = some (none, rest) := by
  cases rest with
  | nil => rfl
  | cons c rest => rcases h c rest rfl with rfl | rfl | rfl <;> rfl

theorem exponentText_of_endsValue {rest : List Char} (h : EndsValue rest) :
    exponentText rest = some (none, rest) := by
  cases rest with
  | nil => rfl
  | cons c rest => rcases h c rest rfl with rfl | rfl | rfl <;> rfl

theorem numberText_toDigits (negative : Bool) (n : Nat) {rest : List Char} (h : EndsValue rest) :
    numberText negative (Nat.toDigits 10 n ++ rest) =
      some (⟨negative, decimals n, none, none⟩, rest) := by
  have hspan : spanDigits (Nat.toDigits 10 n ++ rest) = (decimals n, rest) :=
    spanDigits_append (fun c hc => Nat.isDigit_of_mem_toDigits (by decide) (by decide) hc) h
  rw [numberText, hspan]
  split
  · rename_i heq
    exact absurd (congrArg Prod.fst heq) (decimals_ne_nil n)
  · rename_i heq
    exact absurd (congrArg Prod.fst heq) (decimals_ne_zero_cons n _ _)
  · rename_i heq
    cases heq
    simp [fractionText_of_endsValue h, exponentText_of_endsValue h]

/-- A whole number without a sign is read back. -/
theorem number?_nat {n : Nat} (hn : n ≤ maxSignificand) {rest : List Char} (h : EndsValue rest) :
    number? false (Nat.toDigits 10 n ++ rest) = some (.atom (.int n), rest) := by
  rw [number?, numberText_toDigits false n h, Option.bind_eq_bind, Option.bind_some]
  simp [NumberText.value?, absorb_decimals hn]

/-- A whole number below zero is read back behind its sign. -/
theorem number?_neg {n : Nat} (hpos : 0 < n) (hn : minInt ≤ -(n : Int)) {rest : List Char}
    (h : EndsValue rest) :
    number? true (Nat.toDigits 10 n ++ rest) = some (.atom (.int (-(n : Int))), rest) := by
  have hle : n ≤ maxSignificand := by
    unfold minInt at hn
    unfold maxSignificand
    omega
  rw [number?, numberText_toDigits true n h, Option.bind_eq_bind, Option.bind_some]
  simp [NumberText.value?, absorb_decimals hle, Nat.pos_iff_ne_zero.mp hpos, hn]

theorem token?_digit {c : Char} (h : c.isDigit = true) (rest : List Char) :
    token? c rest = number? false (c :: rest) := by
  unfold token?
  split
  all_goals first | (exact absurd h (by decide)) | skip
  rw [if_pos (isSome_digit? h)]

/-! ## Cutting a text -/

/-- A text is cut into tokens, without any blanks. -/
inductive Lexes : List Char → List Token → Prop
  | nil : Lexes [] []
  | cons {c : Char} {rest rest' : List Char} {t : Token} {ts : List Token}
    (htoken : token? c rest = some (t, rest')) (hblank : isBlank c = false)
    (hlength : rest'.length ≤ rest.length) (hrest : Lexes rest' ts) : Lexes (c :: rest) (t :: ts)

theorem Lexes.tokensWith {cs : List Char} {ts : List Token} (h : Lexes cs ts) {fuel : Nat}
    (hfuel : cs.length ≤ fuel) : tokensWith fuel cs = some ts := by
  induction h generalizing fuel with
  | nil => cases fuel <;> rfl
  | @cons c rest rest' t ts htoken hblank hlength _ ih =>
    obtain ⟨fuel, rfl⟩ : ∃ k, fuel = k + 1 := ⟨fuel - 1, by rw [List.length_cons] at hfuel; omega⟩
    have hle : rest'.length ≤ fuel := by
      rw [List.length_cons] at hfuel
      omega
    rw [Json.tokensWith, if_neg (by simp [hblank]), htoken]
    simp [ih hle]

theorem Lexes.tokens_eq {cs : List Char} {ts : List Token} (h : Lexes cs ts) :
    tokens cs = some ts := h.tokensWith (Nat.le_refl _)

theorem lexes_quote (s : String) {rest : List Char} {ts : List Token} (h : Lexes rest ts) :
    Lexes (quote s ++ rest) (.str s :: ts) := by
  have hquote : quote s ++ rest = '"' :: (s.toList.flatMap escape ++ '"' :: rest) := by
    simp [quote]
  rw [hquote]
  have htoken : token? '"' (s.toList.flatMap escape ++ '"' :: rest) = some (.str s, rest) := by
    simp [token?, stringChars_quote]
  exact .cons htoken rfl (by simp; omega) h

theorem lexes_int {n : Int} (hlow : minInt ≤ n) (hhigh : n ≤ maxInt) {rest : List Char}
    {ts : List Token} (hends : EndsValue rest) (h : Lexes rest ts) :
    Lexes (intText n ++ rest) (.atom (.int n) :: ts) := by
  unfold intText
  split_ifs with hneg
  · have hn : -((n.natAbs : Nat) : Int) = n := by omega
    have hnumber := number?_neg (n := n.natAbs) (by omega) (by omega) hends
    rw [hn] at hnumber
    rw [List.cons_append]
    exact .cons (by rw [token?]; exact hnumber) rfl (by simp) h
  · have hn : ((n.natAbs : Nat) : Int) = n := by omega
    have hle : n.natAbs ≤ maxSignificand := by
      unfold maxInt at hhigh
      unfold maxSignificand
      omega
    have hnumber := number?_nat hle hends
    have hdigits : ∀ c ∈ Nat.toDigits 10 n.natAbs, c.isDigit = true :=
      fun c hc => Nat.isDigit_of_mem_toDigits (by decide) (by decide) hc
    obtain ⟨c, cs, hcs⟩ := List.exists_cons_of_ne_nil (Nat.toDigits_ne_nil (n := n.natAbs) (b := 10))
    rw [hcs] at hnumber hdigits ⊢
    have hc := hdigits c List.mem_cons_self
    rw [hn, List.cons_append] at hnumber
    rw [List.cons_append]
    refine .cons ((token?_digit hc _).trans hnumber) ?_ (by simp) h
    simp only [isBlank, Bool.or_eq_false_iff, decide_eq_false_iff_not]
    refine ⟨⟨⟨?_, ?_⟩, ?_⟩, ?_⟩ <;> rintro rfl <;> exact absurd hc (by decide)

/-! ## Values -/

mutual

/-- Whether a value is what its text says: numbers are whole and within 64 bits, and the fields of
objects come in the order of their names, each name once. -/
def isExact : Json → Bool
  | .double _ => false
  | .int n => decide (minInt ≤ n) && decide (n ≤ maxInt)
  | .arr items => areExact items
  | .obj fields => decide ((fields.map Prod.fst).Pairwise (· < ·)) && haveExact fields
  | _ => true

def areExact : List Json → Bool
  | [] => true
  | v :: rest => isExact v && areExact rest

/-- Whether the values of all fields are exact, in whatever order the fields are. -/
def haveExact : List (String × Json) → Bool
  | [] => true
  | (_, v) :: rest => isExact v && haveExact rest

end

mutual

/-- The tokens that a value consists of. -/
def parts : Json → List Token
  | .str s => [.str s]
  | .arr items => .openBracket :: itemParts items ++ [.closeBracket]
  | .obj fields => .openBrace :: fieldParts fields ++ [.closeBrace]
  | v => [.atom v]

def itemParts : List Json → List Token
  | [] => []
  | [v] => parts v
  | v :: rest => parts v ++ .comma :: itemParts rest

def fieldParts : List (String × Json) → List Token
  | [] => []
  | [(k, v)] => .str k :: .colon :: parts v
  | (k, v) :: rest => .str k :: .colon :: parts v ++ .comma :: fieldParts rest

end

theorem Lexes.brackets {body rest : List Char} {ps ts : List Token}
    (h : Lexes (body ++ ']' :: rest) (ps ++ .closeBracket :: ts)) :
    Lexes (('[' :: body ++ [']']) ++ rest) ((.openBracket :: ps ++ [.closeBracket]) ++ ts) := by
  simp only [List.cons_append, List.append_assoc, List.nil_append]
  exact .cons rfl rfl (Nat.le_refl _) h

theorem Lexes.braces {body rest : List Char} {ps ts : List Token}
    (h : Lexes (body ++ '\x7d' :: rest) (ps ++ .closeBrace :: ts)) :
    Lexes (('\x7b' :: body ++ ['\x7d']) ++ rest) ((.openBrace :: ps ++ [.closeBrace]) ++ ts) := by
  simp only [List.cons_append, List.append_assoc, List.nil_append]
  exact .cons rfl rfl (Nat.le_refl _) h

/-- A name, a colon and what stands behind it. -/
theorem Lexes.named {rest : List Char} {ts : List Token} (h : Lexes rest ts) (name : String) :
    Lexes (quote name ++ ':' :: rest) (.str name :: .colon :: ts) :=
  lexes_quote name (.cons rfl rfl (Nat.le_refl _) h)

theorem Lexes.comma {rest : List Char} {ts : List Token} (h : Lexes rest ts) :
    Lexes (',' :: rest) (.comma :: ts) :=
  .cons rfl rfl (Nat.le_refl _) h

mutual

/-- The text of a value is cut into its tokens, and what follows is left. -/
theorem lexes_chars : ∀ (v : Json), v.isExact = true → ∀ {rest : List Char} {ts : List Token},
    EndsValue rest → Lexes rest ts → Lexes (v.chars ++ rest) (v.parts ++ ts)
  | .null, _, _, _, _, h => .cons rfl rfl (by simp; omega) h
  | .bool true, _, _, _, _, h => .cons rfl rfl (by simp; omega) h
  | .bool false, _, _, _, _, h => .cons rfl rfl (by simp; omega) h
  | .int n, hv, _, _, hends, h => by
    simp only [isExact, Bool.and_eq_true, decide_eq_true_eq] at hv
    exact lexes_int hv.1 hv.2 hends h
  | .double _, hv, _, _, _, _ => by simp [isExact] at hv
  | .str s, _, _, _, _, h => lexes_quote s h
  | .arr items, hv, rest, _, _, h =>
    (lexes_itemChars items hv (endsValue_bracket rest) (.cons rfl rfl (Nat.le_refl _) h)).brackets
  | .obj fields, hv, rest, _, _, h => by
    simp only [isExact, Bool.and_eq_true] at hv
    exact (lexes_fieldChars fields hv.2 (endsValue_brace rest)
      (.cons rfl rfl (Nat.le_refl _) h)).braces

theorem lexes_itemChars : ∀ (items : List Json), areExact items = true →
    ∀ {rest : List Char} {ts : List Token}, EndsValue rest → Lexes rest ts →
    Lexes (itemChars items ++ rest) (itemParts items ++ ts)
  | [], _, _, _, _, h => h
  | [v], hv, _, _, hends, h => by
    simp only [areExact, Bool.and_true] at hv
    exact lexes_chars v hv hends h
  | v :: w :: more, hv, rest, ts, hends, h => by
    rw [areExact, Bool.and_eq_true] at hv
    have hmore := lexes_itemChars (w :: more) hv.2 hends h
    have hfirst := lexes_chars v hv.1 (endsValue_comma _) hmore.comma
    simpa only [itemChars, itemParts, List.append_assoc, List.cons_append] using hfirst

theorem lexes_fieldChars : ∀ (fields : List (String × Json)), haveExact fields = true →
    ∀ {rest : List Char} {ts : List Token}, EndsValue rest → Lexes rest ts →
    Lexes (fieldChars fields ++ rest) (fieldParts fields ++ ts)
  | [], _, _, _, _, h => h
  | [(k, v)], hv, rest, ts, hends, h => by
    simp only [haveExact, Bool.and_true] at hv
    have hfield := (lexes_chars v hv hends h).named k
    simpa only [fieldChars, fieldParts, List.append_assoc, List.cons_append] using hfield
  | (k, v) :: f :: more, hv, rest, ts, hends, h => by
    rw [haveExact, Bool.and_eq_true] at hv
    have hmore := lexes_fieldChars (f :: more) hv.2 hends h
    have hfield := (lexes_chars v hv.1 (endsValue_comma _) hmore.comma).named k
    simpa only [fieldChars, fieldParts, List.append_assoc, List.cons_append] using hfield

end

/-- The text of an object is cut into its tokens, in whatever order its fields are. -/
theorem lexes_obj {fields : List (String × Json)} (hv : haveExact fields = true) {rest : List Char}
    {ts : List Token} (h : Lexes rest ts) :
    Lexes ((obj fields).chars ++ rest) ((obj fields).parts ++ ts) :=
  (lexes_fieldChars fields hv (endsValue_brace rest) (.cons rfl rfl (Nat.le_refl _) h)).braces

end MarketFeed.Json
