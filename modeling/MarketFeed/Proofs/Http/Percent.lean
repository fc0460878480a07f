import Mathlib.Tactic.SplitIfs
import MarketFeed.Http.Percent

/-!
# Percent encoding, character by character

An encoding gives each character a text that is not empty. So a whole text is its own encoding only
if each of its characters is (`flatMap_eq_self_iff`).
-/

namespace MarketFeed.Percent

/-! ## Encodings of characters -/

theorem length_le_flatMap {α : Type} {f : α → List α} (hf : ∀ a, f a ≠ []) (l : List α) :
    l.length ≤ (l.flatMap f).length := by
  induction l with
  | nil => simp
  | cons a l ih =>
    have := List.length_pos_iff.mpr (hf a)
    rw [List.flatMap_cons, List.length_append, List.length_cons]
    omega

theorem flatMap_eq_self_iff {α : Type} {f : α → List α} (hf : ∀ a, f a ≠ []) (l : List α) :
    l.flatMap f = l ↔ ∀ a ∈ l, f a = [a] := by
  induction l with
  | nil => simp
  | cons a l ih =>
    rw [List.flatMap_cons, List.forall_mem_cons]
    constructor
    · intro h
      obtain ⟨b, bs, hfa⟩ := List.exists_cons_of_ne_nil (hf a)
      have hlength := congrArg List.length h
      have := length_le_flatMap hf l
      rw [hfa, List.length_append, List.length_cons, List.length_cons] at hlength
      obtain rfl : bs = [] := List.length_eq_zero_iff.mp (by omega)
      rw [hfa, List.singleton_append, List.cons.injEq] at h
      obtain ⟨rfl, hl⟩ := h
      exact ⟨hfa, ih.mp hl⟩
    · rintro ⟨hfa, hl⟩
      rw [hfa, ih.mpr hl, List.singleton_append]

/-- An ASCII character whose byte stands for itself. -/
def isPlain (plain : UInt8 → Bool) (c : Char) : Bool := c.toNat < 0x80 && plain (UInt8.ofNat c.toNat)

theorem utf8EncodeChar_of_ascii {c : Char} (h : c.toNat < 0x80) :
    String.utf8EncodeChar c = [UInt8.ofNat c.toNat] := by
  unfold String.utf8EncodeChar
  rw [if_pos (show c.val.toNat ≤ 0x7F by unfold Char.toNat at h; omega)]
  rfl

theorem two_le_length_of_not_ascii {c : Char} (h : ¬ c.toNat < 0x80) :
    2 ≤ (String.utf8EncodeChar c).length := by
  unfold String.utf8EncodeChar
  rw [if_neg (show ¬ c.val.toNat ≤ 0x7F by unfold Char.toNat at h; omega)]
  split_ifs <;> simp

theorem toNat_byte {c : Char} (h : c.toNat < 0x80) : (UInt8.ofNat c.toNat).toNat = c.toNat := by
  rw [UInt8.toNat_ofNat']
  omega

/-- The text of a character, from the texts of bytes. -/
def charText (text : UInt8 → List Char) (c : Char) : List Char :=
  (String.utf8EncodeChar c).flatMap text

theorem charText_ne_nil {text : UInt8 → List Char} (h : ∀ b, text b ≠ []) (c : Char) :
    charText text c ≠ [] := by
  unfold charText
  intro hnil
  obtain ⟨b, hb⟩ := List.exists_mem_of_ne_nil _ (String.utf8EncodeChar_ne_nil (c := c))
  exact h b (List.flatMap_eq_nil_iff.mp hnil b hb)

theorem charText_eq_self_iff {text : UInt8 → List Char} (h : ∀ b, text b ≠ []) (c : Char) :
    charText text c = [c] ↔ c.toNat < 0x80 ∧ text (UInt8.ofNat c.toNat) = [c] := by
  by_cases hc : c.toNat < 0x80
  · rw [charText, utf8EncodeChar_of_ascii hc, List.flatMap_singleton]
    exact ⟨fun h => ⟨hc, h⟩, fun h => h.2⟩
  · refine ⟨fun hself => ?_, fun h => absurd h.1 hc⟩
    -- Two bytes or more give two characters or more.
    have htwo := two_le_length_of_not_ascii hc
    unfold charText at hself
    match hbytes : String.utf8EncodeChar c with
    | [] => rw [hbytes] at htwo; simp at htwo
    | [b] => rw [hbytes] at htwo; simp at htwo
    | b :: b' :: rest =>
      rw [hbytes] at hself
      have hlength := congrArg List.length hself
      have h1 := List.length_pos_iff.mpr (h b)
      have h2 := List.length_pos_iff.mpr (h b')
      simp only [List.flatMap_cons, List.length_append, List.length_singleton] at hlength
      omega

/-! ## Parts of addresses -/

/-- The text of a byte in a part of an address. -/
def byteText (plain : UInt8 → Bool) (b : UInt8) : List Char :=
  if plain b then [Char.ofNat b.toNat] else escape b

theorem byteText_ne_nil (plain : UInt8 → Bool) (b : UInt8) : byteText plain b ≠ [] := by
  unfold byteText
  split_ifs <;> exact List.cons_ne_nil _ _

theorem encode_ofList (plain : UInt8 → Bool) (cs : List Char) :
    encode plain (String.ofList cs) = cs.flatMap (charText (byteText plain)) := by
  unfold encode encodeBytes Utf8.encode
  rw [String.toList_ofList, List.flatMap_assoc]
  rfl

theorem charText_byteText_iff (plain : UInt8 → Bool) (c : Char) :
    charText (byteText plain) c = [c] ↔ isPlain plain c := by
  rw [charText_eq_self_iff (byteText_ne_nil plain), isPlain, Bool.and_eq_true, decide_eq_true_eq]
  refine and_congr_right fun hc => ?_
  unfold byteText
  rw [toNat_byte hc, Char.ofNat_toNat]
  split_ifs with hplain
  · simp [hplain]
  · simp [hplain, escape]

/-- A part of an address is its own encoding if all of its characters stand for themselves. -/
theorem encode_eq_self_iff (plain : UInt8 → Bool) (cs : List Char) :
    encode plain (String.ofList cs) = cs ↔ ∀ c ∈ cs, isPlain plain c := by
  rw [encode_ofList, flatMap_eq_self_iff (charText_ne_nil (byteText_ne_nil plain))]
  simp only [charText_byteText_iff]

theorem length_le_encode (plain : UInt8 → Bool) (cs : List Char) :
    cs.length ≤ (encode plain (String.ofList cs)).length := by
  rw [encode_ofList]
  exact length_le_flatMap (charText_ne_nil (byteText_ne_nil plain)) cs

/-- The marks of an escape. -/
def escapeMarks : List Char := '%' :: (List.range 16).map hexDigit

theorem mem_escape {b : UInt8} {c : Char} (h : c ∈ escape b) : c ∈ escapeMarks := by
  have hb : b.toNat < 256 := b.toNat_lt_size
  simp only [escape, List.mem_cons, List.not_mem_nil, or_false] at h
  rcases h with rfl | rfl | rfl
  · exact List.mem_cons_self
  · exact List.mem_cons_of_mem _ (List.mem_map_of_mem (List.mem_range.mpr (by omega)))
  · exact List.mem_cons_of_mem _ (List.mem_map_of_mem (List.mem_range.mpr (by omega)))

theorem isPlain_ofNat {plain : UInt8 → Bool} {b : UInt8} (hb : b.toNat < 0x80) :
    isPlain plain (Char.ofNat b.toNat) = plain b := by
  have hnat : (Char.ofNat b.toNat).toNat = b.toNat := by
    unfold Char.ofNat
    rw [dif_pos (Or.inl (by omega))]
    rfl
  rw [isPlain, hnat, UInt8.ofNat_toNat, decide_eq_true hb, Bool.true_and]

/-- A class of ASCII characters that holds the marks of escapes. -/
def HoldsMarks (plain : UInt8 → Bool) : Prop :=
  (∀ b, plain b → b.toNat < 0x80) ∧ ∀ c ∈ escapeMarks, isPlain plain c

/-- Every character of an encoding stands for itself. -/
theorem isPlain_of_mem_encode {plain : UInt8 → Bool} (h : HoldsMarks plain) {cs : List Char}
    {c : Char} (hc : c ∈ encode plain (String.ofList cs)) : isPlain plain c := by
  obtain ⟨b, -, hb⟩ := List.mem_flatMap.mp hc
  split_ifs at hb with hplain
  · rw [List.mem_singleton.mp hb, isPlain_ofNat (h.1 b hplain)]
    exact hplain
  · exact h.2 c (mem_escape hb)

theorem toNat_lt_of_isVisible {b : UInt8} (h : isVisible b) : b.toNat < 0x80 := by
  simp only [isVisible, Bool.and_eq_true, decide_eq_true_eq, UInt8.le_iff_toNat_le] at h
  exact Nat.lt_of_le_of_lt h.2 (by decide)

theorem holdsMarks_inPath : HoldsMarks inPath := by
  refine ⟨fun b hb => toNat_lt_of_isVisible ?_, List.all_eq_true.mp (by decide)⟩
  exact (Bool.and_eq_true _ _ ▸ hb).1

theorem holdsMarks_inQuery : HoldsMarks inQuery := by
  refine ⟨fun b hb => toNat_lt_of_isVisible ?_, List.all_eq_true.mp (by decide)⟩
  exact (Bool.and_eq_true _ _ ▸ hb).1

/-! ## Forms -/

/-- The text of a byte in a form. -/
def formByteText (b : UInt8) : List Char :=
  if b = 0x20 then ['+'] else if inForm b then [Char.ofNat b.toNat] else escape b

theorem formByteText_ne_nil (b : UInt8) : formByteText b ≠ [] := by
  unfold formByteText
  split_ifs <;> exact List.cons_ne_nil _ _

theorem formText_eq (s : String) : formText s = s.toList.flatMap (charText formByteText) := by
  unfold formText Utf8.encode
  rw [List.flatMap_assoc]
  rfl

theorem charText_formByteText_iff (c : Char) :
    charText formByteText c = [c] ↔ isPlain inForm c := by
  rw [charText_eq_self_iff formByteText_ne_nil, isPlain, Bool.and_eq_true, decide_eq_true_eq]
  refine and_congr_right fun hc => ?_
  unfold formByteText
  rw [toNat_byte hc, Char.ofNat_toNat]
  split_ifs with hspace hplain
  · -- A space is written as another character.
    have hnat : c.toNat = 0x20 := by rw [← toNat_byte hc, hspace]; rfl
    rw [hspace]
    refine ⟨fun h => ?_, fun h => absurd h (by decide)⟩
    rw [← (List.cons.inj h).1] at hnat
    exact absurd hnat (by decide)
  · simp [hplain]
  · simp [hplain, escape]

/-- A text is its own form if all of its characters stand for themselves. -/
theorem formText_eq_self_iff (s : String) :
    formText s = s.toList ↔ ∀ c ∈ s.toList, isPlain inForm c := by
  rw [formText_eq, flatMap_eq_self_iff (charText_ne_nil formByteText_ne_nil)]
  simp only [charText_formByteText_iff]

theorem length_le_formText (s : String) : s.toList.length ≤ (formText s).length := by
  rw [formText_eq]
  exact length_le_flatMap (charText_ne_nil formByteText_ne_nil) _

/-- What stands in a form: what stands for itself in a query, but for the mark of a query. -/
def isFormMark (c : Char) : Bool := isPlain inQuery c && c != '?'

theorem isFormMark_of_inForm : ∀ n < 256, inForm (UInt8.ofNat n) → isFormMark (Char.ofNat n) := by
  decide +kernel

theorem isFormMark_of_mem_formText {s : String} {c : Char} (h : c ∈ formText s) : isFormMark c := by
  obtain ⟨b, -, hb⟩ := List.mem_flatMap.mp h
  split_ifs at hb with hspace hplain
  · rw [List.mem_singleton.mp hb]
    decide
  · rw [List.mem_singleton.mp hb]
    exact isFormMark_of_inForm b.toNat b.toNat_lt_size (by rwa [UInt8.ofNat_toNat])
  · have hmarks : ∀ c ∈ escapeMarks, isFormMark c := List.all_eq_true.mp (by decide)
    exact hmarks c (mem_escape hb)

theorem isFormMark_of_mem_pair {k v : String} {more : List Char}
    (hmore : ∀ c ∈ more, isFormMark c) :
    ∀ c ∈ formText k ++ '=' :: formText v ++ more, isFormMark c := by
  intro c hc
  simp only [List.mem_append, List.mem_cons] at hc
  rcases hc with (hc | rfl | hc) | hc
  · exact isFormMark_of_mem_formText hc
  · decide
  · exact isFormMark_of_mem_formText hc
  · exact hmore c hc

theorem isFormMark_of_mem_form {params : List (String × String)} {c : Char} (h : c ∈ form params) :
    isFormMark c := by
  induction params generalizing c with
  | nil => cases h
  | cons p rest ih =>
    obtain ⟨k, v⟩ := p
    cases rest with
    | nil =>
      rw [form, ← List.append_nil (formText k ++ _)] at h
      exact isFormMark_of_mem_pair (by simp) c h
    | cons q rest =>
      refine isFormMark_of_mem_pair (fun c hc => ?_) c h
      rcases List.mem_cons.mp hc with rfl | hc
      · decide
      · exact ih hc

end MarketFeed.Percent
