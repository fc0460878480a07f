import MarketFeed.Proofs.Rest.Archive
import MarketFeed.Proofs.Rest.Dialogue

/-!
# Paging

Against a server that answers out of an archive, paging finds the records of the window, each once
and in the order of time (`Source.collect_returns`). The invariant of the pages: whatever lies in the
window from the cursor on has been found, whatever lies below it is still to be asked for.
-/

namespace MarketFeed.History

open Calling

variable {α : Type} {src : Source α} {σ : Type} {answer : σ → Query → Answer × σ}

/-! ## One page -/

theorem Archive.distinct_records (ar : Archive src) : (ar.records.map src.ts).Nodup := by
  have h := ar.distinct
  rwa [Archive.records, List.map_map]

/-- What an archive has in a window and below a cursor. -/
def Archive.below (ar : Archive src) (w : Window) (cursor : Int) : List α :=
  ar.records.filter fun a => w.start ≤ src.ts a && src.ts a < cursor

theorem Archive.mem_below {ar : Archive src} {w : Window} {cursor : Int} {a : α} :
    a ∈ ar.below w cursor ↔ a ∈ ar.records ∧ w.start ≤ src.ts a ∧ src.ts a < cursor := by
  simp [Archive.below]

theorem Archive.distinct_below (ar : Archive src) (w : Window) (cursor : Int) :
    ((ar.below w cursor).map src.ts).Nodup :=
  (List.filter_sublist.map src.ts).nodup ar.distinct_records

theorem Archive.map_between (ar : Archive src) (w : Window) (cursor : Int) :
    (ar.between cursor (w.start - 1)).map Prod.snd = ar.below w cursor := by
  rw [Archive.below, Archive.records, List.filter_map]
  simp only [Archive.between, Int.sub_one_lt_iff]
  rfl

/-- The page that a served source yields. -/
theorem Source.page_returns {ar : Archive src} (h : ar.ServedBy answer) {w : Window} {limit : Nat}
    {cursor : Int} (hcursor : Archive.Instant cursor) (hstart : Archive.Instant (w.start - 1))
    (hlimit : 1 ≤ limit) (hmax : limit ≤ maxPerPage) (s : σ) :
    ∃ page s' qs, Returns answer s (src.page w limit cursor) page s' qs ∧
      Newest src.ts limit (ar.below w cursor) page := by
  obtain ⟨v, msg, page, hv, hread, hnewest⟩ := h s cursor (w.start - 1) limit hcursor hstart hlimit hmax
  obtain ⟨older, hperm, hlength, hle⟩ := hnewest
  have hentries : ∀ e ∈ page, e ∈ ar.entries := by
    intro e he
    exact List.mem_of_mem_filter (hperm.mem_iff.mp (List.mem_append_left older he))
  refine ⟨page.map Prod.snd, _, _, returns_fetch hv ?_, older.map Prod.snd, ?_, ?_, ?_⟩
  · exact Envelope.unwrap_ok hread (Codec.read_list fun e he => ar.reads e (hentries e he))
  · rw [← List.map_append, ← ar.map_between]
    exact hperm.map _
  · rw [← ar.map_between, List.length_map, List.length_map]
    exact hlength
  · simp only [List.mem_map]
    rintro _ ⟨e, he, rfl⟩ _ ⟨e', he', rfl⟩
    exact hle e he e' he'

/-! ## All pages -/

/-- What lies from an instant on and what lies below it are the whole. -/
theorem Archive.perm_below (ar : Archive src) (w : Window) {oldest cursor : Int}
    (h : oldest ≤ cursor) :
    ((ar.below w cursor).filter (fun a => oldest ≤ src.ts a) ++ ar.below w oldest).Perm
      (ar.below w cursor) := by
  have hsplit := List.filter_append_perm (fun a => decide (oldest ≤ src.ts a)) (ar.below w cursor)
  refine (List.Perm.append_left _ (List.Perm.of_eq ?_)).trans hsplit
  rw [Archive.below, Archive.below, List.filter_filter]
  refine List.filter_congr fun a _ => ?_
  rw [Bool.eq_iff_iff]
  simp only [Bool.and_eq_true, decide_eq_true_eq, Bool.not_eq_true', decide_eq_false_iff_not]
  omega

/-- The pages from a cursor on hold what the window has below it. -/
theorem Source.pages_returns {ar : Archive src} (h : ar.ServedBy answer) {w : Window} {limit : Nat}
    (hstart : Archive.Instant (w.start - 1)) (hstop : Archive.Instant w.stop)
    (hlimit : 1 ≤ limit) (hmax : limit ≤ maxPerPage) (cursor : Int) (hlow : w.start < cursor)
    (hhigh : cursor ≤ w.stop) (s : σ) :
    ∃ found s' qs, Returns answer s (src.pages w limit cursor) found s' qs ∧
      found.Perm (ar.below w cursor) := by
  induction cursor using Source.pages.induct w generalizing s with
  | _ cursor ih =>
    have hcursor : Archive.Instant cursor := by
      obtain ⟨h1, h2⟩ := hstart
      obtain ⟨h3, h4⟩ := hstop
      constructor <;> omega
    obtain ⟨page, s', qs, hpage, hnewest⟩ := page_returns h hcursor hstart hlimit hmax s
    rw [Source.pages]
    cases holdest : oldest? src.ts page with
    | none =>
      -- An empty page: nothing of the window is left below the cursor.
      have hempty : page = [] := by simpa [oldest?, List.min?_eq_none_iff] using holdest
      subst hempty
      refine ⟨[], s', qs ++ [], hpage.bind ?_, ?_⟩
      · rw [holdest]
        exact returns_pure s' []
      · rw [hnewest.eq_nil hlimit]
    | some oldest =>
      have hfound := hnewest.perm_filter (ar.distinct_below w cursor) holdest
      have hin : ∀ a ∈ page, w.start ≤ src.ts a ∧ src.ts a < cursor := fun a ha =>
        (Archive.mem_below.mp (List.mem_of_mem_filter (hfound.mem_iff.mp ha))).2
      have hkept : page.filter (fun a => w.contains (src.ts a)) = page := by
        refine List.filter_eq_self.mpr fun a ha => ?_
        have := hin a ha
        simp only [Window.contains, Bool.and_eq_true, decide_eq_true_eq]
        omega
      obtain ⟨⟨last, hlast, hts⟩, -⟩ := oldest?_eq_some holdest
      have hbelow : w.start ≤ oldest ∧ oldest < cursor := hts ▸ hin last hlast
      have hsplit := (hfound.append_right (ar.below w oldest)).trans
        (ar.perm_below w (Int.le_of_lt hbelow.2))
      by_cases hmore : w.start < oldest ∧ oldest < cursor
      · obtain ⟨rest, s'', qs', hrest, hperm⟩ := ih oldest hmore hmore.1 (by omega) s'
        refine ⟨page ++ rest, s'', qs ++ (qs' ++ []), hpage.bind ?_, ?_⟩
        · rw [holdest]
          dsimp only
          rw [dif_pos hmore, hkept]
          exact hrest.bind (returns_pure s'' _)
        · exact (hperm.append_left page).trans hsplit
      · -- The page reaches the start of the window: nothing is left below it.
        have hnone : ar.below w oldest = [] := by
          refine List.eq_nil_iff_forall_not_mem.mpr fun a ha => ?_
          have := Archive.mem_below.mp ha
          omega
        refine ⟨page, s', qs ++ [], hpage.bind ?_, ?_⟩
        · rw [holdest]
          dsimp only
          rw [dif_neg hmore, hkept]
          exact returns_pure s' page
        · rwa [hnone, List.append_nil] at hsplit

/-! ## The order of time -/

theorem firstOfEach_eq_self {ts : α → Int} {records : List α}
    (h : records.Pairwise fun a b => ts a < ts b) : firstOfEach ts records = records := by
  induction records with
  | nil => rw [firstOfEach]
  | cons a rest ih =>
    obtain ⟨hlt, hrest⟩ := List.pairwise_cons.mp h
    have hkept : rest.dropWhile (fun b => ts b = ts a) = rest := by
      cases rest with
      | nil => rfl
      | cons b bs =>
        have := hlt b (by simp)
        rw [List.dropWhile_cons_of_neg]
        simp only [decide_eq_true_eq]
        omega
    rw [firstOfEach, hkept, ih hrest]

/-- Records of different times are put in order, and none is dropped. -/
theorem arrange_spec {ts : α → Int} {records : List α} (h : (records.map ts).Nodup) :
    (arrange ts records).Perm records ∧ (arrange ts records).Pairwise fun a b => ts a < ts b := by
  have hperm := List.mergeSort_perm records fun a b => decide (ts a ≤ ts b)
  have hle := pairwise_mergeSort_key ts records
  have hne : (records.mergeSort fun a b => ts a ≤ ts b).Pairwise fun a b => ts a ≠ ts b :=
    List.pairwise_map.mp ((hperm.map ts).nodup_iff.mpr h)
  have hlt : (records.mergeSort fun a b => ts a ≤ ts b).Pairwise fun a b => ts a < ts b :=
    (hle.and hne).imp fun ⟨hle, hne⟩ => by omega
  rw [arrange, firstOfEach_eq_self hlt]
  exact ⟨hperm, hlt⟩

/-! ## A window -/

/-- A list is what an archive has in a window, each record once and in the order of time. -/
def Archive.Complete (ar : Archive src) (w : Window) (found : List α) : Prop :=
  found.Perm (ar.records.filter fun a => w.contains (src.ts a)) ∧
    found.Pairwise fun a b => src.ts a < src.ts b

theorem Source.collect_empty {w : Window} (h : w.stop ≤ w.start) (limit : Nat) (s : σ) :
    Returns answer s (src.collect w limit) [] s [] := by
  rw [Source.collect, if_pos h]
  exact returns_pure s []

theorem Archive.complete_empty (ar : Archive src) {w : Window} (h : w.stop ≤ w.start) :
    ar.Complete w [] := by
  refine ⟨List.Perm.of_eq (Eq.symm (List.filter_eq_nil_iff.mpr fun a _ => ?_)), List.Pairwise.nil⟩
  simp only [Window.contains, Bool.and_eq_true, decide_eq_true_eq]
  omega

/-- Against a server that answers out of an archive, paging returns what the archive has in the
window. -/
theorem Source.collect_returns {ar : Archive src} (h : ar.ServedBy answer) {w : Window} {limit : Nat}
    (hstart : Archive.Instant (w.start - 1)) (hstop : Archive.Instant w.stop)
    (hlimit : 1 ≤ limit) (hmax : limit ≤ maxPerPage) (s : σ) :
    ∃ found s' qs, Returns answer s (src.collect w limit) found s' qs ∧ ar.Complete w found := by
  by_cases hw : w.stop ≤ w.start
  · exact ⟨[], s, [], collect_empty hw limit s, ar.complete_empty hw⟩
  obtain ⟨found, s', qs, hpages, hperm⟩ :=
    pages_returns h hstart hstop hlimit hmax w.stop (by omega) (Int.le_refl _) s
  have hdistinct : (found.map src.ts).Nodup :=
    (hperm.map src.ts).nodup_iff.mpr (ar.distinct_below w w.stop)
  obtain ⟨hsame, hsorted⟩ := arrange_spec hdistinct
  refine ⟨arrange src.ts found, s', qs ++ [], ?_, hsame.trans hperm, hsorted⟩
  rw [Source.collect, if_neg hw]
  exact hpages.bind (returns_pure s' _)

end MarketFeed.History
