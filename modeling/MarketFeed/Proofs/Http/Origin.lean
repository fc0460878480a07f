import Mathlib.Tactic.SplitIfs
import MarketFeed.Http.Url

/-!
# Addresses behind an origin

What follows scheme and authority in an address decides about the path and the query that are sent
(`parse_behind_origin`).
-/

namespace MarketFeed.Url

open Percent

/-- Marks that end an authority. -/
def authorityEnds : List Char := ['/', '\\', '?', '#']

/-- A text of a scheme and an authority, and nothing else. -/
def IsOrigin (base : String) : Prop :=
  ∃ scheme authority, base.toList = scheme ++ ':' :: '/' :: '/' :: authority ∧
    (∀ c ∈ scheme, isSchemeChar c) ∧ authority ≠ [] ∧
    ∀ c ∈ authority, ¬ isOuterBlank c ∧ c ∉ authorityEnds

/-! ## Blanks -/

/-- What is left of a text behind others that have no blanks. -/
def cleanEnd (cs : List Char) : List Char :=
  (cs.reverse.dropWhile isOuterBlank).reverse.filter fun c => c != '\t' && c != '\n' && c != '\r'

theorem filter_of_not_blank {cs : List Char} (h : ∀ c ∈ cs, ¬ isOuterBlank c) :
    (cs.filter fun c => c != '\t' && c != '\n' && c != '\r') = cs := by
  refine List.filter_eq_self.mpr fun c hc => ?_
  have hblank := h c hc
  simp only [Bool.and_eq_true, bne_iff_ne]
  refine ⟨⟨?_, ?_⟩, ?_⟩ <;> rintro rfl <;> exact hblank (by decide)

theorem dropWhile_of_not_blank {cs : List Char} (h : ∀ c ∈ cs, ¬ isOuterBlank c) :
    cs.dropWhile isOuterBlank = cs := by
  cases cs with
  | nil => rfl
  | cons c rest => exact List.dropWhile_cons_of_neg (h c List.mem_cons_self)

theorem cleanEnd_eq_self {cs : List Char} (h : ∀ c ∈ cs, ¬ isOuterBlank c) : cleanEnd cs = cs := by
  unfold cleanEnd
  rw [dropWhile_of_not_blank fun c hc => h c (List.mem_reverse.mp hc), List.reverse_reverse,
    filter_of_not_blank h]

theorem clean_append {front : List Char} (h : ∀ c ∈ front, ¬ isOuterBlank c) (hne : front ≠ [])
    (cs : List Char) : clean (front ++ cs) = front ++ cleanEnd cs := by
  have hfront : (front ++ cs).dropWhile isOuterBlank = front ++ cs := by
    obtain ⟨c, rest, rfl⟩ := List.exists_cons_of_ne_nil hne
    exact List.dropWhile_cons_of_neg (h c List.mem_cons_self)
  have hback : (cs.reverse ++ front.reverse).dropWhile isOuterBlank =
      cs.reverse.dropWhile isOuterBlank ++ front.reverse := by
    rw [List.dropWhile_append, dropWhile_of_not_blank fun c hc => h c (List.mem_reverse.mp hc)]
    split_ifs with hempty
    · rw [List.isEmpty_iff.mp hempty, List.nil_append]
    · rfl
  unfold clean cleanEnd
  dsimp only
  rw [hfront, List.reverse_append, hback, List.reverse_append, List.reverse_reverse,
    List.filter_append, filter_of_not_blank h]

/-! ## Scheme and authority -/

theorem isSchemeChar_not_blank {c : Char} (h : isSchemeChar c) : ¬ isOuterBlank c := by
  intro hblank
  simp only [isOuterBlank, decide_eq_true_eq] at hblank
  have hsmall : ∀ n < 33, isSchemeChar (Char.ofNat n) = false := by decide
  have hc := hsmall c.toNat (Nat.lt_succ_of_le hblank)
  rw [Char.ofNat_toNat, h] at hc
  cases hc

theorem splitScheme?_append {scheme rest : List Char} {result : String × List Char}
    (hscheme : ∀ c ∈ scheme, isSchemeChar c)
    (h : splitScheme? (scheme ++ ':' :: rest) = some result) : result.2 = rest := by
  cases scheme with
  | nil =>
    have : splitScheme? (':' :: rest) = none := rfl
    rw [List.nil_append, this] at h
    cases h
  | cons c cs =>
    have hdrop : (c :: cs ++ ':' :: rest).dropWhile isSchemeChar = ':' :: rest := by
      rw [List.dropWhile_append_of_pos hscheme]
      rfl
    unfold splitScheme? at h
    rw [List.cons_append] at h hdrop
    dsimp only at h
    rw [hdrop] at h
    split_ifs at h
    rw [← Option.some.inj h]

theorem splitAny_append {marks authority : List Char} (h : ∀ c ∈ authority, c ∉ marks)
    (rest : List Char) :
    (splitAny marks (authority ++ rest)).2 = rest.dropWhile fun c => !marks.contains c := by
  unfold splitAny
  rw [List.dropWhile_append_of_pos fun c hc => by simpa using h c hc]

/-- What an address behind an origin asks for. -/
theorem parse_behind_origin {base endpoint : String} {u : Url} (hbase : IsOrigin base)
    (h : parse (base ++ endpoint) = .ok u) :
    ∃ tail, tail = (cleanEnd endpoint.toList).dropWhile (fun c => !authorityEnds.contains c) ∧
      u.path = readPath (splitTail tail).1 ∧
      u.query? = (splitTail tail).2.1.map fun q => encode inQuery (String.ofList q) := by
  refine ⟨_, rfl, ?_⟩
  obtain ⟨scheme, authority, hbase, hscheme, hne, hauthority⟩ := hbase
  have hblank : ∀ c ∈ base.toList, ¬ isOuterBlank c := by
    rw [hbase]
    simp only [List.mem_append, List.mem_cons]
    rintro c (hc | rfl | rfl | rfl | hc)
    · exact isSchemeChar_not_blank (hscheme c hc)
    · decide
    · decide
    · decide
    · exact (hauthority c hc).1
  have hslashes : ∀ rest, ('/' :: '/' :: (authority ++ rest)).dropWhile isSlash = authority ++ rest := by
    intro rest
    obtain ⟨c, cs, rfl⟩ := List.exists_cons_of_ne_nil hne
    have hc : ¬ isSlash c := by
      have := (hauthority c List.mem_cons_self).2
      simp only [authorityEnds, List.mem_cons, not_or] at this
      simp [isSlash, this.1, this.2.1]
    exact List.dropWhile_cons_of_neg hc
  have hshape : clean (base ++ endpoint).toList =
      scheme ++ ':' :: '/' :: '/' :: (authority ++ cleanEnd endpoint.toList) := by
    rw [String.toList_append, clean_append hblank (by simp [hbase]), hbase]
    simp
  unfold parse at h
  rw [hshape] at h
  dsimp only at h
  split at h
  · cases h
  · rename_i name rest hsplit
    obtain rfl : rest = _ := splitScheme?_append hscheme hsplit
    rw [hslashes] at h
    have htail := splitAny_append (fun c hc => (hauthority c hc).2) (cleanEnd endpoint.toList)
    unfold authorityEnds at htail ⊢
    split_ifs at h
    generalize splitAny _ (authority ++ cleanEnd endpoint.toList) = cut at h htail
    obtain ⟨behind, tail⟩ := cut
    obtain rfl : tail = _ := htail
    dsimp only at h
    cases hread : readAuthority name behind with
    | error fault => rw [hread] at h; cases h
    | ok parts =>
      rw [hread] at h
      obtain ⟨login?, host, port?⟩ := parts
      simp only [bind, Except.bind] at h
      rw [← Except.ok.inj h]
      simp only [and_self]

end MarketFeed.Url
