import MarketFeed.Http.Url
import MarketFeed.Proofs.Http.Percent

/-!
# Paths in their standard form

Reading a path leaves it alone just if it is in standard form already: it begins with a slash, its
characters stand for themselves, and no part of it is a dot (`readPath_eq_self_iff`). Escapes only
add characters and dots only take them away, so neither can happen unseen where the whole is the
same.
-/

namespace MarketFeed

open Percent

namespace Split

theorem mem_of_mem_parts {mark : Char} {cs part : List Char} (h : part ∈ parts mark cs) :
    ∀ c ∈ part, c ∈ cs := by
  induction cs generalizing part with
  | nil =>
    obtain rfl : part = [] := by simpa [parts] using h
    simp
  | cons a cs ih =>
    rw [parts] at h
    intro c hc
    split_ifs at h with ha
    · rcases List.mem_cons.mp h with rfl | h
      · cases hc
      · exact List.mem_cons_of_mem _ (ih h c hc)
    · cases hparts : parts mark cs with
      | nil => exact absurd hparts (parts_ne_nil mark cs)
      | cons first rest =>
        rw [hparts] at h ih
        rcases List.mem_cons.mp h with rfl | h
        · rcases List.mem_cons.mp hc with rfl | hc
          · exact List.mem_cons_self
          · exact List.mem_cons_of_mem _ (ih List.mem_cons_self c hc)
        · exact List.mem_cons_of_mem _ (ih (List.mem_cons_of_mem _ h) c hc)

theorem flatMap_cons_eq {mark : Char} {ps : List (List Char)} (h : ps ≠ []) :
    ps.flatMap (mark :: ·) = mark :: [mark].intercalate ps := by
  induction ps with
  | nil => exact absurd rfl h
  | cons p rest ih =>
    cases rest with
    | nil => simp
    | cons q rest =>
      rw [List.flatMap_cons, ih (List.cons_ne_nil q rest), List.intercalate_cons_cons]
      simp

/-- The parts, each behind a mark, are the text behind a mark. -/
theorem flatMap_parts (mark : Char) (cs : List Char) :
    (parts mark cs).flatMap (mark :: ·) = mark :: cs := by
  rw [flatMap_cons_eq (parts_ne_nil mark cs), intercalate_parts]

end Split

namespace Url

/-! ## Dots -/

/-- Whether a part of a path is a dot or two. -/
def isDot (part : List Char) : Bool := isHere part || isAbove part

/-- The characters that the parts take up, with a slash for each. -/
def extent (ps : List (List Char)) : Nat := (ps.flatMap ('/' :: ·)).length

@[simp] theorem extent_nil : extent [] = 0 := rfl

@[simp] theorem extent_cons (p : List Char) (ps : List (List Char)) :
    extent (p :: ps) = p.length + 1 + extent ps := by
  simp only [extent, List.flatMap_cons, List.length_append, List.length_cons]

@[simp] theorem extent_reverse (ps : List (List Char)) : extent ps.reverse = extent ps := by
  simp only [extent, List.length_flatMap, List.map_reverse, List.sum_reverse]

theorem extent_drop_one_le (ps : List (List Char)) : extent (ps.drop 1) ≤ extent ps := by
  cases ps with
  | nil => simp
  | cons p rest =>
    rw [List.drop_one, List.tail_cons, extent_cons]
    omega

theorem length_pos_of_isDot {p : List Char} (h : isDot p) : 0 < p.length := by
  cases p with
  | nil => cases h
  | cons => simp

theorem resolveDots_eq {done ps : List (List Char)} (h : ∀ p ∈ ps, ¬ isDot p) :
    resolveDots done ps = done.reverse ++ ps := by
  fun_induction resolveDots done ps with
  | case1 done => simp
  | case2 done p habove => simp [isDot, habove] at h
  | case3 done p _ hhere => simp [isDot, hhere] at h
  | case4 done p _ _ => simp
  | case5 done p rest _ habove ih => simp [isDot, habove] at h
  | case6 done p rest _ _ hhere ih => simp [isDot, hhere] at h
  | case7 done p rest _ _ _ ih =>
    rw [ih fun q hq => h q (List.mem_cons_of_mem _ hq)]
    simp

/-- Dots take characters away. -/
theorem extent_resolveDots (done ps : List (List Char)) :
    extent (resolveDots done ps) ≤ extent done + extent ps ∧
      ((∃ p ∈ ps, isDot p) → extent (resolveDots done ps) < extent done + extent ps) := by
  fun_induction resolveDots done ps with
  | case1 done => simp
  | case2 done p habove =>
    have := length_pos_of_isDot (p := p) (by simp [isDot, habove])
    have := extent_drop_one_le done
    simp only [extent_reverse, extent_cons, extent_nil, List.length_nil]
    omega
  | case3 done p _ hhere =>
    have := length_pos_of_isDot (p := p) (by simp [isDot, hhere])
    simp only [extent_reverse, extent_cons, extent_nil, List.length_nil]
    omega
  | case4 done p habove hhere =>
    have hp : ¬ isDot p := by simp [isDot, habove, hhere]
    simp only [extent_reverse, extent_cons, extent_nil, List.mem_singleton, exists_eq_left]
    exact ⟨by omega, fun h => absurd h hp⟩
  | case5 done p rest _ habove ih =>
    have := extent_drop_one_le done
    rw [extent_cons]
    omega
  | case6 done p rest _ _ hhere ih =>
    rw [extent_cons]
    omega
  | case7 done p rest _ habove hhere ih =>
    have hp : ¬ isDot p := by simp [isDot, habove, hhere]
    obtain ⟨hle, hlt⟩ := ih
    rw [extent_cons] at hle hlt ⊢
    refine ⟨by omega, ?_⟩
    rintro ⟨q, hq, hdot⟩
    rcases List.mem_cons.mp hq with rfl | hq
    · exact absurd hdot hp
    · have := hlt ⟨q, hq, hdot⟩
      omega

theorem mem_of_mem_resolveDots {done ps : List (List Char)} {q : List Char}
    (h : q ∈ resolveDots done ps) : q = [] ∨ q ∈ done ∨ q ∈ ps := by
  fun_induction resolveDots done ps with
  | case1 done => simp_all
  | case2 done p _ =>
    rcases List.mem_cons.mp (List.mem_reverse.mp h) with h | h
    · exact Or.inl h
    · exact Or.inr (Or.inl (List.mem_of_mem_drop h))
  | case3 done p _ _ =>
    rcases List.mem_cons.mp (List.mem_reverse.mp h) with h | h
    · exact Or.inl h
    · exact Or.inr (Or.inl h)
  | case4 done p _ _ =>
    rcases List.mem_cons.mp (List.mem_reverse.mp h) with h | h
    · exact Or.inr (Or.inr (List.mem_singleton.mpr h))
    · exact Or.inr (Or.inl h)
  | case5 done p rest _ _ ih =>
    rcases ih h with h | h | h
    · exact Or.inl h
    · exact Or.inr (Or.inl (List.mem_of_mem_drop h))
    · exact Or.inr (Or.inr (List.mem_cons_of_mem _ h))
  | case6 done p rest _ _ _ ih =>
    rcases ih h with h | h | h
    · exact Or.inl h
    · exact Or.inr (Or.inl h)
    · exact Or.inr (Or.inr (List.mem_cons_of_mem _ h))
  | case7 done p rest _ _ _ ih =>
    rcases ih h with h | h | h
    · exact Or.inl h
    · rcases List.mem_cons.mp h with h | h
      · exact Or.inr (Or.inr (h ▸ List.mem_cons_self))
      · exact Or.inr (Or.inl h)
    · exact Or.inr (Or.inr (List.mem_cons_of_mem _ h))

/-! ## The standard form -/

/-- Whether a path is in standard form. -/
def isStandardPath : List Char → Bool
  | '/' :: rest =>
    rest.all (fun c => isPlain inPath c && c != '\\') &&
      (Split.parts '/' rest).all fun p => !isDot p
  | _ => false

/-- A slash of either kind as a slash. -/
def slashed (c : Char) : Char := if isSlash c then '/' else c

theorem map_slashed_eq_self {cs : List Char} (h : ∀ c ∈ cs, c ≠ '\\') : cs.map slashed = cs := by
  refine (List.map_congr_left fun c hc => ?_).trans (List.map_id cs)
  have := h c hc
  unfold slashed isSlash
  split_ifs with hslash
  · simp only [Bool.or_eq_true, decide_eq_true_eq, this, or_false] at hslash
    exact hslash.symm
  · rfl

theorem readPath_slash (cs : List Char) :
    readPath ('/' :: cs) = (resolveDots [] (Split.parts '/' (cs.map slashed))).flatMap fun p =>
      '/' :: encode inPath (String.ofList p) := rfl

theorem resolveDots_ne_nil {done ps : List (List Char)} (h : ps ≠ []) : resolveDots done ps ≠ [] := by
  fun_induction resolveDots done ps with
  | case1 done => exact absurd rfl h
  | case2 done p _ => simp
  | case3 done p _ _ => simp
  | case4 done p _ _ => simp
  | case5 done p rest hrest _ ih => exact ih (by simpa using hrest)
  | case6 done p rest hrest _ _ ih => exact ih (by simpa using hrest)
  | case7 done p rest hrest _ _ ih => exact ih (by simpa using hrest)

/-- A path that is read begins with a slash. -/
theorem exists_readPath_eq_cons (cs : List Char) : ∃ rest, readPath cs = '/' :: rest := by
  have hcons : ∀ {ps : List (List Char)} {f : List Char → List Char}, ps ≠ [] →
      ∃ rest, ps.flatMap (fun p => '/' :: f p) = '/' :: rest := by
    intro ps f hps
    obtain ⟨p, rest, rfl⟩ := List.exists_cons_of_ne_nil hps
    exact ⟨_, rfl⟩
  exact hcons (resolveDots_ne_nil (Split.parts_ne_nil '/' _))

theorem isPlain_of_mem_readPath {cs : List Char} {c : Char} (h : c ∈ readPath cs) :
    isPlain inPath c := by
  obtain ⟨p, -, hp⟩ := List.mem_flatMap.mp h
  rcases List.mem_cons.mp hp with rfl | hp
  · decide
  · exact isPlain_of_mem_encode holdsMarks_inPath hp

theorem encode_inPath_eq {ps : List (List Char)} (h : ∀ p ∈ ps, ∀ c ∈ p, isPlain inPath c) :
    (ps.flatMap fun p => '/' :: encode inPath (String.ofList p)) = ps.flatMap ('/' :: ·) :=
  congrArg List.flatten
    (List.map_congr_left fun p hp => by rw [(encode_eq_self_iff inPath p).mpr (h p hp)])

theorem readPath_of_isStandardPath {path : List Char} (h : isStandardPath path) :
    readPath path = path := by
  unfold isStandardPath at h
  split at h
  · rename_i rest
    simp only [Bool.and_eq_true, List.all_eq_true, bne_iff_ne, Bool.not_eq_true'] at h
    obtain ⟨hchars, hdots⟩ := h
    rw [readPath_slash, map_slashed_eq_self fun c hc => (hchars c hc).2, resolveDots_eq,
      List.reverse_nil, List.nil_append, encode_inPath_eq, Split.flatMap_parts]
    · exact fun p hp c hc => (hchars c (Split.mem_of_mem_parts hp c hc)).1
    · exact fun p hp => by simp [hdots p hp]
  · cases h

/-- Reading leaves a path alone just if it is in standard form. -/
theorem readPath_eq_self_iff (path : List Char) : readPath path = path ↔ isStandardPath path := by
  refine ⟨fun h => ?_, readPath_of_isStandardPath⟩
  obtain ⟨rest, hrest⟩ := exists_readPath_eq_cons path
  obtain rfl : path = '/' :: rest := h.symm.trans hrest
  have hplain : ∀ c ∈ rest, isPlain inPath c := fun c hc =>
    isPlain_of_mem_readPath (h.symm ▸ List.mem_cons_of_mem _ hc)
  have hslashed : ∀ c ∈ rest.map slashed, isPlain inPath c := by
    simp only [List.mem_map]
    rintro _ ⟨c, hc, rfl⟩
    unfold slashed
    split_ifs
    · decide
    · exact hplain c hc
  have hparts : ∀ p ∈ Split.parts '/' (rest.map slashed), ∀ c ∈ p, isPlain inPath c :=
    fun p hp c hc => hslashed c (Split.mem_of_mem_parts hp c hc)
  -- Nothing is escaped, so the text can only have become shorter.
  have hread : (resolveDots [] (Split.parts '/' (rest.map slashed))).flatMap ('/' :: ·) =
      '/' :: rest := by
    rw [← encode_inPath_eq, ← readPath_slash, h]
    intro p hp
    rcases mem_of_mem_resolveDots hp with rfl | hp | hp
    · simp
    · cases hp
    · exact hparts p hp
  have hextent := congrArg List.length (Split.flatMap_parts '/' (rest.map slashed))
  have hlength := congrArg List.length hread
  change extent _ = _ at hextent hlength
  rw [List.length_cons, List.length_map] at hextent
  rw [List.length_cons] at hlength
  have hdots : ∀ p ∈ Split.parts '/' (rest.map slashed), ¬ isDot p := by
    intro p hp hdot
    have := (extent_resolveDots [] (Split.parts '/' (rest.map slashed))).2 ⟨p, hp, hdot⟩
    rw [extent_nil] at this
    omega
  rw [resolveDots_eq hdots, List.reverse_nil, List.nil_append, Split.flatMap_parts,
    List.cons.injEq] at hread
  have hsame := hread.2
  rw [hsame] at hdots
  have hback : ∀ c ∈ rest, c ≠ '\\' := by
    intro c hc heq
    rw [← hsame] at hc
    obtain ⟨d, -, hd⟩ := List.mem_map.mp hc
    rw [heq] at hd
    unfold slashed isSlash at hd
    split_ifs at hd with hslash
    · cases hd
    · simp [hd] at hslash
  simp only [isStandardPath, Bool.and_eq_true, List.all_eq_true, bne_iff_ne, Bool.not_eq_true']
  exact ⟨fun c hc => ⟨hplain c hc, hback c hc⟩, fun p hp => by simpa using hdots p hp⟩

end Url

end MarketFeed
