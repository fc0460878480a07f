import Mathlib.Tactic.SplitIfs
import MarketFeed.Text.Utf8

/-!
# Text and its bytes

Well-formed bytes are the bytes of the text that they spell (`encode_of_decode`), and the bytes of a
text are well formed and spell it (`decode_encode`).
-/

namespace MarketFeed.Utf8

@[simp] theorem encode_append (s t : String) : encode (s ++ t) = encode s ++ encode t := by
  simp [encode]

/-! ## One character -/

theorem encodeChar_ofNat {n : Nat} (h : n.isValidChar) :
    String.utf8EncodeChar (Char.ofNat n) =
      if n ≤ 0x7F then [UInt8.ofNat n]
      else if n ≤ 0x7FF then [UInt8.ofNat (n / 64 % 32 + 0xC0), UInt8.ofNat (n % 64 + 0x80)]
      else if n ≤ 0xFFFF then [UInt8.ofNat (n / 4096 % 16 + 0xE0),
        UInt8.ofNat (n / 64 % 64 + 0x80), UInt8.ofNat (n % 64 + 0x80)]
      else [UInt8.ofNat (n / 262144 % 8 + 0xF0), UInt8.ofNat (n / 4096 % 64 + 0x80),
        UInt8.ofNat (n / 64 % 64 + 0x80), UInt8.ofNat (n % 64 + 0x80)] := by
  have hval : (Char.ofNat n).val.toNat = n := by
    unfold Char.ofNat
    rw [dif_pos h]
    rfl
  unfold String.utf8EncodeChar
  rw [hval]

theorem ofNat_eq {b : UInt8} {n : Nat} (h : n = b.toNat) : UInt8.ofNat n = b := by
  rw [h]
  exact UInt8.ofNat_toNat

theorem isContinuation_iff (b : UInt8) :
    isContinuation b = true ↔ 0x80 ≤ b.toNat ∧ b.toNat ≤ 0xBF := by
  simp [isContinuation, UInt8.le_iff_toNat_le]

theorem ne_iff_toNat (a b : UInt8) : (a != b) = true ↔ a.toNat ≠ b.toNat := by
  rw [bne_iff_ne, Ne, Ne, UInt8.toNat_inj]

theorem isSecondOfThree_iff (a b : UInt8) :
    isSecondOfThree a b = true ↔ (0x80 ≤ b.toNat ∧ b.toNat ≤ 0xBF) ∧
      (a.toNat ≠ 0xE0 ∨ 0xA0 ≤ b.toNat) ∧ (a.toNat ≠ 0xED ∨ b.toNat ≤ 0x9F) := by
  simp only [isSecondOfThree, Bool.and_eq_true, Bool.or_eq_true, isContinuation_iff, ne_iff_toNat,
    decide_eq_true_eq, UInt8.le_iff_toNat_le, and_assoc]
  rfl

theorem isSecondOfFour_iff (a b : UInt8) :
    isSecondOfFour a b = true ↔ (0x80 ≤ b.toNat ∧ b.toNat ≤ 0xBF) ∧
      (a.toNat ≠ 0xF0 ∨ 0x90 ≤ b.toNat) ∧ (a.toNat ≠ 0xF4 ∨ b.toNat ≤ 0x8F) := by
  simp only [isSecondOfFour, Bool.and_eq_true, Bool.or_eq_true, isContinuation_iff, ne_iff_toNat,
    decide_eq_true_eq, UInt8.le_iff_toNat_le, and_assoc]
  rfl

theorem encodeChar_one {a : UInt8} (h : a.toNat < 0x80) :
    String.utf8EncodeChar (Char.ofNat a.toNat) = [a] := by
  rw [encodeChar_ofNat (Or.inl (by omega)), if_pos (by omega), UInt8.ofNat_toNat]

theorem encodeChar_two {a b : UInt8} (ha : 0xC2 ≤ a.toNat ∧ a.toNat ≤ 0xDF)
    (hb : isContinuation b) :
    String.utf8EncodeChar (Char.ofNat (a.toNat % 32 * 64 + payload b)) = [a, b] := by
  rw [isContinuation_iff] at hb
  unfold payload
  rw [encodeChar_ofNat (Or.inl (by omega)), if_neg (by omega), if_pos (by omega),
    ofNat_eq (b := a) (by omega), ofNat_eq (b := b) (by omega)]

theorem encodeChar_three {a b c : UInt8} (ha : 0xE0 ≤ a.toNat ∧ a.toNat ≤ 0xEF)
    (hb : isSecondOfThree a b) (hc : isContinuation c) :
    String.utf8EncodeChar (Char.ofNat (a.toNat % 16 * 4096 + payload b * 64 + payload c)) =
      [a, b, c] := by
  rw [isContinuation_iff] at hc
  rw [isSecondOfThree_iff] at hb
  unfold payload
  have hvalid : (a.toNat % 16 * 4096 + b.toNat % 64 * 64 + c.toNat % 64).isValidChar := by
    by_cases h : a.toNat % 16 * 4096 + b.toNat % 64 * 64 + c.toNat % 64 < 0xD800
    · exact Or.inl h
    · exact Or.inr (by omega)
  rw [encodeChar_ofNat hvalid, if_neg (by omega), if_neg (by omega), if_pos (by omega),
    ofNat_eq (b := a) (by omega), ofNat_eq (b := b) (by omega), ofNat_eq (b := c) (by omega)]

theorem encodeChar_four {a b c d : UInt8} (ha : 0xF0 ≤ a.toNat ∧ a.toNat ≤ 0xF4)
    (hb : isSecondOfFour a b) (hc : isContinuation c) (hd : isContinuation d) :
    String.utf8EncodeChar (Char.ofNat
      (a.toNat % 8 * 262144 + payload b * 4096 + payload c * 64 + payload d)) = [a, b, c, d] := by
  rw [isContinuation_iff] at hc hd
  rw [isSecondOfFour_iff] at hb
  unfold payload
  rw [encodeChar_ofNat (Or.inr (by omega)), if_neg (by omega), if_neg (by omega),
    if_neg (by omega), ofNat_eq (b := a) (by omega), ofNat_eq (b := b) (by omega),
    ofNat_eq (b := c) (by omega), ofNat_eq (b := d) (by omega)]

/-- The bytes that a character was read from are its bytes. -/
theorem encodeChar_first {a : UInt8} {rest : List UInt8} {c : Char} {size : Nat}
    (h : first a rest = .char c size) :
    String.utf8EncodeChar c ++ rest.drop (Piece.char c size).more = a :: rest := by
  unfold first at h
  split at h
  · rename_i ha
    obtain ⟨rfl, rfl⟩ := Piece.char.inj h
    rw [encodeChar_one (UInt8.lt_iff_toNat_lt.mp ha)]
    rfl
  split at h
  · rename_i ha
    simp only [Bool.and_eq_true, decide_eq_true_eq, UInt8.le_iff_toNat_le] at ha
    cases rest with
    | nil => simp at h
    | cons b rest =>
      dsimp only at h
      split_ifs at h with hb
      obtain ⟨rfl, rfl⟩ := Piece.char.inj h
      rw [encodeChar_two ha hb]
      rfl
  split at h
  · rename_i ha
    simp only [Bool.and_eq_true, decide_eq_true_eq, UInt8.le_iff_toNat_le] at ha
    match rest with
    | [] => simp at h
    | [b] =>
      dsimp only at h
      split_ifs at h
    | b :: c :: rest =>
      dsimp only at h
      split_ifs at h with hb hc
      simp only [Bool.not_eq_true', Bool.not_eq_false] at hb hc
      obtain ⟨rfl, rfl⟩ := Piece.char.inj h
      rw [encodeChar_three ha hb hc]
      rfl
  split at h
  · rename_i ha
    simp only [Bool.and_eq_true, decide_eq_true_eq, UInt8.le_iff_toNat_le] at ha
    match rest with
    | [] => simp at h
    | [b] =>
      dsimp only at h
      split_ifs at h
    | [b, c] =>
      dsimp only at h
      split_ifs at h
    | b :: c :: d :: rest =>
      dsimp only at h
      split_ifs at h with hb hc hd
      simp only [Bool.not_eq_true', Bool.not_eq_false] at hb hc hd
      obtain ⟨rfl, rfl⟩ := Piece.char.inj h
      rw [encodeChar_four ha hb hc hd]
      rfl
  · cases h

/-! ## Texts -/

theorem encode_collect {bytes : List UInt8} {skip index : Nat} {cs : List Char}
    (h : collect index (piecesAfter skip bytes) = .ok cs) :
    cs.flatMap String.utf8EncodeChar = bytes.drop skip := by
  induction bytes generalizing skip index cs with
  | nil =>
    rw [piecesAfter] at h
    obtain rfl : [] = cs := Except.ok.inj h
    rw [List.drop_nil]
    rfl
  | cons a rest ih =>
    cases skip with
    | succ skip => exact ih h
    | zero =>
      rw [piecesAfter] at h
      cases hfirst : first a rest with
      | incomplete => rw [hfirst] at h; cases h
      | invalid size => rw [hfirst] at h; cases h
      | char c size =>
        rw [hfirst] at h
        dsimp only [collect] at h
        cases hrest : collect (index + size) (piecesAfter (Piece.char c size).more rest) with
        | error fault => rw [hrest] at h; cases h
        | ok cs' =>
          rw [hrest] at h
          obtain rfl : c :: cs' = cs := Except.ok.inj h
          rw [List.flatMap_cons, ih hrest, encodeChar_first hfirst, List.drop_zero]

/-- Bytes that spell a text are its bytes. -/
theorem encode_of_decode {bytes : List UInt8} {s : String} (h : decode bytes = .ok s) :
    encode s = bytes := by
  unfold decode pieces at h
  cases hcs : collect 0 (piecesAfter 0 bytes) with
  | error fault => rw [hcs] at h; cases h
  | ok cs =>
    rw [hcs] at h
    obtain rfl : String.ofList cs = s := Except.ok.inj h
    rw [encode, String.toList_ofList, encode_collect hcs, List.drop_zero]

/-- Texts of the same bytes are the same. -/
theorem encode_injective {s t : String} (h : encode s = encode t) : s = t := by
  have hbytes : s.toList.utf8Encode = t.toList.utf8Encode := congrArg List.toByteArray h
  rw [← String.ofList_toList (s := s), ← String.ofList_toList (s := t)]
  exact String.toByteArray_inj.mp hbytes

/-! ## The text of its bytes -/

theorem first_one {a : UInt8} (ha : a.toNat < 0x80) (rest : List UInt8) :
    first a rest = .char (Char.ofNat a.toNat) 1 :=
  if_pos (UInt8.lt_iff_toNat_lt.mpr ha)

section Longer

variable {a b c d : UInt8} (rest : List UInt8)

theorem first_two (ha : 0xC2 ≤ a.toNat ∧ a.toNat ≤ 0xDF) (hb : isContinuation b = true) :
    first a (b :: rest) = .char (Char.ofNat (a.toNat % 32 * 64 + payload b)) 2 := by
  unfold first
  simp only [UInt8.lt_iff_toNat_lt, UInt8.le_iff_toNat_le, Bool.and_eq_true, decide_eq_true_eq,
    UInt8.reduceToNat]
  rw [if_neg (by omega), if_pos (by omega), if_pos hb]

theorem first_three (ha : 0xE0 ≤ a.toNat ∧ a.toNat ≤ 0xEF) (hb : isSecondOfThree a b = true)
    (hc : isContinuation c = true) :
    first a (b :: c :: rest) =
      .char (Char.ofNat (a.toNat % 16 * 4096 + payload b * 64 + payload c)) 3 := by
  unfold first
  simp only [UInt8.lt_iff_toNat_lt, UInt8.le_iff_toNat_le, Bool.and_eq_true, decide_eq_true_eq,
    UInt8.reduceToNat]
  rw [if_neg (by omega), if_neg (by omega), if_pos (by omega), if_neg (by simp [hb]),
    if_neg (by simp [hc])]

theorem first_four (ha : 0xF0 ≤ a.toNat ∧ a.toNat ≤ 0xF4) (hb : isSecondOfFour a b = true)
    (hc : isContinuation c = true) (hd : isContinuation d = true) :
    first a (b :: c :: d :: rest) = .char (Char.ofNat
      (a.toNat % 8 * 262144 + payload b * 4096 + payload c * 64 + payload d)) 4 := by
  unfold first
  simp only [UInt8.lt_iff_toNat_lt, UInt8.le_iff_toNat_le, Bool.and_eq_true, decide_eq_true_eq,
    UInt8.reduceToNat]
  rw [if_neg (by omega), if_neg (by omega), if_neg (by omega), if_pos (by omega),
    if_neg (by simp [hb]), if_neg (by simp [hc]), if_neg (by simp [hd])]

end Longer

theorem toNat_ofNat_of_lt {n : Nat} (h : n < 256) : (UInt8.ofNat n).toNat = n := by
  rw [UInt8.toNat_ofNat']; exact Nat.mod_eq_of_lt h

/-- The bytes of a character are read as the character, whatever follows. -/
theorem first_encodeChar (c : Char) : ∃ a more, String.utf8EncodeChar c = a :: more ∧
    ∀ rest, first a (more ++ rest) = .char c (more.length + 1) := by
  obtain ⟨n, hn, rfl⟩ : ∃ n : Nat, n.isValidChar ∧ c = Char.ofNat n :=
    ⟨c.toNat, c.valid, (Char.ofNat_toNat c).symm⟩
  rw [encodeChar_ofNat hn]
  have hbound : n < 0x110000 := by rcases hn with h | h <;> omega
  split_ifs with h1 h2 h3
  · refine ⟨_, _, rfl, fun rest => ?_⟩
    have ha := toNat_ofNat_of_lt (n := n) (by omega)
    rw [List.nil_append, first_one (by omega), ha]
    rfl
  · have ha := toNat_ofNat_of_lt (n := n / 64 % 32 + 0xC0) (by omega)
    have hb := toNat_ofNat_of_lt (n := n % 64 + 0x80) (by omega)
    refine ⟨_, _, rfl, fun rest => (first_two rest (by omega) ?_).trans ?_⟩
    · rw [isContinuation_iff]
      omega
    · rw [payload, ha, hb]
      congr 2
      omega
  · have ha := toNat_ofNat_of_lt (n := n / 4096 % 16 + 0xE0) (by omega)
    have hb := toNat_ofNat_of_lt (n := n / 64 % 64 + 0x80) (by omega)
    have hc := toNat_ofNat_of_lt (n := n % 64 + 0x80) (by omega)
    refine ⟨_, _, rfl, fun rest => (first_three rest (by omega) ?_ ?_).trans ?_⟩
    · rw [isSecondOfThree_iff, ha, hb]
      rcases hn with h | h <;> omega
    · rw [isContinuation_iff]
      omega
    · rw [payload, payload, ha, hb, hc]
      congr 2
      omega
  · have ha := toNat_ofNat_of_lt (n := n / 262144 % 8 + 0xF0) (by omega)
    have hb := toNat_ofNat_of_lt (n := n / 4096 % 64 + 0x80) (by omega)
    have hc := toNat_ofNat_of_lt (n := n / 64 % 64 + 0x80) (by omega)
    have hd := toNat_ofNat_of_lt (n := n % 64 + 0x80) (by omega)
    refine ⟨_, _, rfl, fun rest => (first_four rest (by omega) ?_ ?_ ?_).trans ?_⟩
    · rw [isSecondOfFour_iff, ha, hb]
      omega
    · rw [isContinuation_iff]
      omega
    · rw [isContinuation_iff]
      omega
    · rw [payload, payload, payload, ha, hb, hc, hd]
      congr 2
      omega

theorem piecesAfter_append (front rest : List UInt8) :
    piecesAfter front.length (front ++ rest) = piecesAfter 0 rest := by
  induction front with
  | nil => rfl
  | cons a front ih => exact ih

theorem collect_encode (cs : List Char) (index : Nat) :
    collect index (piecesAfter 0 (cs.flatMap String.utf8EncodeChar)) = .ok cs := by
  induction cs generalizing index with
  | nil => rfl
  | cons c cs ih =>
    obtain ⟨a, more, hbytes, hfirst⟩ := first_encodeChar c
    rw [List.flatMap_cons, hbytes, List.cons_append, piecesAfter, hfirst]
    have hmore : (Piece.char c (more.length + 1)).more = more.length := rfl
    dsimp only
    rw [hmore, piecesAfter_append, collect, ih]
    rfl

theorem decode_encode (s : String) : decode (encode s) = .ok s := by
  rw [decode, pieces, encode, collect_encode]
  exact congrArg Except.ok String.ofList_toList

/-- Bytes spell a text exactly if they are its bytes. -/
theorem decode_eq_ok_iff (bytes : List UInt8) (s : String) :
    decode bytes = .ok s ↔ encode s = bytes := by
  constructor
  · exact encode_of_decode
  · rintro rfl
    exact decode_encode s

end MarketFeed.Utf8
