import Mathlib.Data.List.Nodup
import Mathlib.Data.List.Perm.Basic
import MarketFeed.Rest.History

/-!
# Archives

What a server holds for a source of records, and how it has to answer a query for a page of them:
with the newest records between the bounds of the query (`Archive.ServedBy`). Which of these come
first on the page is left open.
-/

namespace MarketFeed.History

variable {α : Type}

/-! ## The newest records -/

/-- `page` holds the newest `limit` of some records in any order, and all of them if they are
fewer. -/
def Newest (ts : α → Int) (limit : Nat) (records page : List α) : Prop :=
  ∃ older, (page ++ older).Perm records ∧ page.length = min limit records.length ∧
    ∀ a ∈ page, ∀ b ∈ older, ts b ≤ ts a

theorem pairwise_mergeSort_key (key : α → Int) (records : List α) :
    (records.mergeSort fun a b => key a ≤ key b).Pairwise fun a b => key a ≤ key b := by
  have h : (records.mergeSort fun a b => key a ≤ key b).Pairwise fun a b =>
      decide (key a ≤ key b) = true := by
    refine List.pairwise_mergeSort (fun a b c => ?_) (fun a b => ?_) records
    · simp only [decide_eq_true_eq]
      omega
    · simp only [Bool.or_eq_true, decide_eq_true_eq]
      omega
  simpa using h

/-- The newest records are the first ones by age. -/
theorem newest_take (ts : α → Int) (limit : Nat) (records : List α) :
    Newest ts limit records ((records.mergeSort fun a b => -ts a ≤ -ts b).take limit) := by
  have hsorted := pairwise_mergeSort_key (fun a => -ts a) records
  rw [← List.take_append_drop limit (records.mergeSort _), List.pairwise_append] at hsorted
  refine ⟨(records.mergeSort fun a b => -ts a ≤ -ts b).drop limit, ?_, ?_, ?_⟩
  · rw [List.take_append_drop]
    exact List.mergeSort_perm _ _
  · rw [List.length_take, List.length_mergeSort]
  · intro a ha b hb
    exact Int.neg_le_neg_iff.mp (hsorted.2.2 a ha b hb)

/-- A page that could have held a record and is empty leaves no record out. -/
theorem Newest.eq_nil {ts : α → Int} {limit : Nat} {records : List α} (hlimit : 1 ≤ limit)
    (h : Newest ts limit records []) : records = [] := by
  obtain ⟨_, _, hlength, _⟩ := h
  rw [List.length_nil] at hlength
  exact List.length_eq_zero_iff.mp (by omega)

theorem oldest?_eq_some {ts : α → Int} {page : List α} {oldest : Int}
    (h : oldest? ts page = some oldest) :
    (∃ a ∈ page, ts a = oldest) ∧ ∀ a ∈ page, oldest ≤ ts a := by
  obtain ⟨hmem, hle⟩ := List.min?_eq_some_iff.mp h
  exact ⟨List.mem_map.mp hmem, fun a ha => hle _ (List.mem_map_of_mem ha)⟩

/-- If no two records are of one time, a page holds whatever is not older than its oldest record. -/
theorem Newest.perm_filter {ts : α → Int} {limit : Nat} {records page : List α} {oldest : Int}
    (h : Newest ts limit records page) (hdistinct : (records.map ts).Nodup)
    (holdest : oldest? ts page = some oldest) :
    page.Perm (records.filter fun a => oldest ≤ ts a) := by
  obtain ⟨older, hperm, -, hle⟩ := h
  obtain ⟨⟨last, hlast, rfl⟩, hmin⟩ := oldest?_eq_some holdest
  have hkept : page.filter (fun a => ts last ≤ ts a) = page :=
    List.filter_eq_self.mpr fun a ha => by simpa using hmin a ha
  have hdropped : older.filter (fun a => ts last ≤ ts a) = [] := by
    refine List.filter_eq_nil_iff.mpr fun b hb => ?_
    have hdisjoint : ts last ≠ ts b := by
      have hnodup := (hperm.map ts).nodup_iff.mpr hdistinct
      rw [List.map_append] at hnodup
      exact (List.nodup_append.mp hnodup).2.2 _ (List.mem_map_of_mem hlast) _
        (List.mem_map_of_mem hb)
    have := hle last hlast b hb
    simp only [decide_eq_true_eq]
    omega
  have hfiltered := hperm.filter fun a => decide (ts last ≤ ts a)
  rwa [List.filter_append, hkept, hdropped, List.append_nil] at hfiltered

/-! ## Archives -/

/-- What a server holds for a source: records as they are sent, each with what is read from it, and
at most one of a time. -/
structure Archive (src : Source α) where
  entries : List (Json × α)
  reads : ∀ e ∈ entries, src.codec.read e.1 = .ok e.2
  distinct : (entries.map fun e => src.ts e.2).Nodup

/-- The query for a page. -/
def Source.query (src : Source α) (after before : Int) (limit : Nat) : Query :=
  ⟨src.endpoint, src.params ++ [("after", toString after), ("before", toString before),
    ("limit", toString limit)], false⟩

namespace Archive

variable {src : Source α}

/-- The records of an archive. -/
def records (ar : Archive src) : List α := ar.entries.map Prod.snd

/-- The entries that are older than `after` and newer than `before`. -/
def between (ar : Archive src) (after before : Int) : List (Json × α) :=
  ar.entries.filter fun e => before < src.ts e.2 && src.ts e.2 < after

/-- The answer is a good one, and its data are the newest entries between the bounds. -/
def Answers (ar : Archive src) (after before : Int) (limit : Nat) (answer : Answer) : Prop :=
  ∃ v msg page, answer = .ok v ∧
    Envelope.codec.read v = .ok ⟨"0", msg, .arr (page.map Prod.fst)⟩ ∧
    Newest (fun e => src.ts e.2) limit (ar.between after before) page

/-- An instant that fits into 64 bits. -/
def Instant (t : Int) : Prop := -9223372036854775808 ≤ t ∧ t < 9223372036854775808

/-- The server answers out of the archive, whatever was asked before. -/
def ServedBy {σ : Type} (ar : Archive src) (answer : σ → Query → Answer × σ) : Prop :=
  ∀ s after before limit, Instant after → Instant before → 1 ≤ limit → limit ≤ maxPerPage →
    ar.Answers after before limit (answer s (src.query after before limit)).1

/-- A good answer: the newest entries between the bounds, by age. -/
def reply (ar : Archive src) (after before : Int) (limit : Nat) : Answer :=
  let page := ((ar.between after before).mergeSort fun e e' => -src.ts e.2 ≤ -src.ts e'.2).take limit
  .ok (Json.object [("code", .str "0"), ("msg", .str ""), ("data", .arr (page.map Prod.fst))])

theorem answers_reply (ar : Archive src) (after before : Int) (limit : Nat) :
    ar.Answers after before limit (ar.reply after before limit) :=
  ⟨_, "", _, rfl, rfl, newest_take _ limit _⟩

end Archive

end MarketFeed.History
