import MarketFeed.Proofs.Rest.History

/-!
# The course of paging

What paging does against a server of which nothing is known. `Source.Course` says what may happen from a
cursor on: a page is not read, a page is the last one, or a page leads further back. Of the records
that were fetched the first one of each time in the window is returned (`Source.collect_outcome`).
-/

namespace MarketFeed.History

variable {α σ : Type}

/-! ## Pages -/

/-- What a source reads from the answer to a query. -/
def Source.fetched (src : Source α) (answer : σ → Query → Answer × σ) (x : σ × Query) :
    Except FeedError (List α) :=
  (answer x.1 x.2).1.bind (Envelope.unwrap (.list src.codec))

/-- The records of a page that are kept. -/
def Source.kept (src : Source α) (w : Window) (page : List α) : List α :=
  page.filter fun a => w.contains (src.ts a)

/-- What a server hears of paging from a cursor on, and what comes of it. -/
inductive Source.Course (src : Source α) (answer : σ → Query → Answer × σ) (w : Window)
    (limit : Nat) : Int → σ → List (σ × Query) → Except FeedError (List α) → Prop
  | fail {cursor : Int} {s : σ} {error : FeedError}
    (h : src.fetched answer (s, src.query cursor (w.start - 1) limit) = .error error) :
    Course src answer w limit cursor s [(s, src.query cursor (w.start - 1) limit)] (.error error)
  | last {cursor : Int} {s : σ} {page : List α}
    (h : src.fetched answer (s, src.query cursor (w.start - 1) limit) = .ok page)
    (hlast : ∀ oldest, oldest? src.ts page = some oldest → ¬(w.start < oldest ∧ oldest < cursor)) :
    Course src answer w limit cursor s [(s, src.query cursor (w.start - 1) limit)]
      (.ok (src.kept w page))
  | more {cursor oldest : Int} {s : σ} {page : List α} {heard : List (σ × Query)}
    {r : Except FeedError (List α)}
    (h : src.fetched answer (s, src.query cursor (w.start - 1) limit) = .ok page)
    (holdest : oldest? src.ts page = some oldest) (hmore : w.start < oldest ∧ oldest < cursor)
    (hrest : Course src answer w limit oldest
      (answer s (src.query cursor (w.start - 1) limit)).2 heard r) :
    Course src answer w limit cursor s ((s, src.query cursor (w.start - 1) limit) :: heard)
      (r.map fun rest => src.kept w page ++ rest)

variable {src : Source α} {answer : σ → Query → Answer × σ} {w : Window} {limit : Nat}

/-- What a call for a page hears and brings. -/
theorem Source.run_page (cursor : Int) (s : σ) :
    Dialogue.run answer s (src.page w limit cursor).run =
      (src.fetched answer (s, src.query cursor (w.start - 1) limit),
        (answer s (src.query cursor (w.start - 1) limit)).2,
        [src.query cursor (w.start - 1) limit]) :=
  Calling.run_fetch _ _ _ _ s

theorem Source.heard_page (cursor : Int) (s : σ) :
    Dialogue.heard answer s (src.page w limit cursor).run =
      [(s, src.query cursor (w.start - 1) limit)] := by
  rw [Source.page, Calling.fetch_eq]
  rfl

theorem Source.course_pages (src : Source α) (answer : σ → Query → Answer × σ) (w : Window)
    (limit : Nat) (cursor : Int) (s : σ) :
    src.Course answer w limit cursor s ((src.pages w limit cursor).run.heard answer s)
      ((src.pages w limit cursor).run.run answer s).1 := by
  induction cursor using Source.pages.induct w generalizing s with
  | _ cursor ih =>
    rw [Source.pages, ExceptT.run_bind, Dialogue.heard_bind, Dialogue.run_bind rfl rfl,
      heard_page, run_page]
    dsimp only
    cases hpage : src.fetched answer (s, src.query cursor (w.start - 1) limit) with
    | error error => exact .fail hpage
    | ok page =>
      dsimp only
      cases holdest : oldest? src.ts page with
      | none =>
        have hempty : page = [] := by simpa [oldest?, List.min?_eq_none_iff] using holdest
        subst hempty
        refine Course.last hpage fun oldest h => ?_
        cases h
      | some oldest =>
        dsimp only
        by_cases hmore : w.start < oldest ∧ oldest < cursor
        · rw [dif_pos hmore, Calling.heard_map, Calling.run_map]
          exact .more hpage holdest hmore (ih oldest hmore _)
        · rw [dif_neg hmore]
          refine Course.last hpage fun oldest' h => ?_
          rw [holdest] at h
          cases h
          exact hmore

namespace Source.Course

variable {cursor : Int} {s : σ} {heard : List (σ × Query)} {r : Except FeedError (List α)}

theorem heard_ne_nil (h : src.Course answer w limit cursor s heard r) : heard ≠ [] := by
  cases h <;> exact List.cons_ne_nil _ _

/-- Each page moves the cursor down by a millisecond at least. -/
theorem length_le (h : src.Course answer w limit cursor s heard r) (hlow : w.start < cursor) :
    (heard.length : Int) ≤ cursor - w.start := by
  induction h with
  | fail h => simp only [List.length_singleton]; omega
  | last h hlast => simp only [List.length_singleton]; omega
  | more h holdest hmore _ ih =>
    have := ih hmore.1
    simp only [List.length_cons]
    omega

/-- The pages are asked for from the cursor downwards, and all of them above the start. -/
theorem asks_downwards (h : src.Course answer w limit cursor s heard r) (hlow : w.start < cursor) :
    ∃ below : List Int,
      heard.map Prod.snd = (cursor :: below).map (fun c => src.query c (w.start - 1) limit) ∧
      (cursor :: below).Pairwise (· > ·) ∧ ∀ c ∈ cursor :: below, w.start < c := by
  induction h with
  | fail h => exact ⟨[], rfl, List.pairwise_singleton _ _, by simpa using hlow⟩
  | last h hlast => exact ⟨[], rfl, List.pairwise_singleton _ _, by simpa using hlow⟩
  | @more cursor oldest _ _ _ _ h holdest hmore _ ih =>
    obtain ⟨below, hasked, hdown, habove⟩ := ih hmore.1
    refine ⟨oldest :: below, ?_, List.pairwise_cons.mpr ⟨fun c hc => ?_, hdown⟩, ?_⟩
    · rw [List.map_cons, hasked]
      rfl
    · rcases List.mem_cons.mp hc with rfl | hc
      · exact hmore.2
      · exact Int.lt_trans ((List.pairwise_cons.mp hdown).1 c hc) hmore.2
    · exact List.forall_mem_cons.mpr ⟨hlow, habove⟩

/-- Either all pages are read, and what is kept of them comes out, or the last one is not read, and
its error comes out. -/
theorem outcome (h : src.Course answer w limit cursor s heard r) :
    (∃ pages : List (List α), heard.map (src.fetched answer) = pages.map .ok ∧
      r = .ok (src.kept w pages.flatten)) ∨
    ∃ before x error, heard = before ++ [x] ∧
      (∀ y ∈ before, ∃ page, src.fetched answer y = .ok page) ∧
      src.fetched answer x = .error error ∧ r = .error error := by
  induction h with
  | fail h => exact .inr ⟨[], _, _, rfl, nofun, h, rfl⟩
  | @last _ _ page h hlast =>
    refine .inl ⟨[page], ?_, ?_⟩
    · simp only [List.map_cons, h, List.map_nil]
    · simp only [List.flatten_cons, List.flatten_nil, List.append_nil]
  | @more cursor _ s page heard _ h holdest hmore _ ih =>
    rcases ih with ⟨pages, hread, rfl⟩ | ⟨before, x, error, rfl, hread, hx, rfl⟩
    · refine .inl ⟨page :: pages, ?_, ?_⟩
      · rw [List.map_cons, h, hread, List.map_cons]
      · rw [List.flatten_cons, kept, kept, kept, List.filter_append]
        rfl
    · refine .inr ⟨(s, src.query cursor (w.start - 1) limit) :: before, x, error, rfl, ?_, hx, rfl⟩
      exact List.forall_mem_cons.mpr ⟨⟨page, h⟩, hread⟩

end Source.Course

/-! ## The first record of each time -/

theorem find?_mergeSort (ts : α → Int) (records : List α) (t : Int) :
    (records.mergeSort fun a b => ts a ≤ ts b).find? (ts · = t) = records.find? (ts · = t) := by
  have hperm := (List.mergeSort_perm records fun a b => decide (ts a ≤ ts b)).filter (ts · = t)
  -- The sort is stable, so the records of one time stay in their order.
  have hsame : (records.filter (ts · = t)).Pairwise fun a b => decide (ts a ≤ ts b) = true := by
    refine List.pairwise_iff_forall_sublist.mpr fun {a b} hab => ?_
    have ha := List.of_mem_filter (hab.subset (by simp : a ∈ [a, b]))
    have hb := List.of_mem_filter (hab.subset (by simp : b ∈ [a, b]))
    simp only [decide_eq_true_eq] at ha hb ⊢
    omega
  have hsub : (records.filter (ts · = t)).Sublist (records.mergeSort fun a b => ts a ≤ ts b) := by
    refine List.sublist_mergeSort (fun a b c => ?_) (fun a b => ?_) hsame List.filter_sublist
    · simp only [decide_eq_true_eq]
      omega
    · simp only [Bool.or_eq_true, decide_eq_true_eq]
      omega
  have hfiltered := hsub.filter (ts · = t)
  rw [List.filter_filter] at hfiltered
  simp only [Bool.and_self] at hfiltered
  rw [← List.head?_filter, ← List.head?_filter, hfiltered.eq_of_length hperm.length_eq.symm]

theorem find?_firstOfEach (ts : α → Int) (records : List α) (t : Int) :
    (firstOfEach ts records).find? (ts · = t) = records.find? (ts · = t) := by
  fun_induction firstOfEach ts records with
  | case1 => rfl
  | case2 a rest ih =>
    by_cases ha : ts a = t
    · rw [List.find?_cons_of_pos (by simpa using ha), List.find?_cons_of_pos (by simpa using ha)]
    · have hdropped : (rest.takeWhile fun b => ts b = ts a).find? (ts · = t) = none := by
        refine List.find?_eq_none.mpr fun b hb => ?_
        have hb := List.all_eq_true.mp List.all_takeWhile b hb
        simp only [decide_eq_true_eq] at hb ⊢
        omega
      rw [List.find?_cons_of_neg (by simpa using ha), List.find?_cons_of_neg (by simpa using ha), ih]
      conv_rhs => rw [← List.takeWhile_append_dropWhile (p := fun b => decide (ts b = ts a)) (l := rest)]
      rw [List.find?_append, hdropped, Option.none_or]

/-- Of the records of one time the first stays. -/
theorem find?_arrange (ts : α → Int) (records : List α) (t : Int) :
    (arrange ts records).find? (ts · = t) = records.find? (ts · = t) := by
  rw [arrange, find?_firstOfEach, find?_mergeSort]

theorem firstOfEach_sublist (ts : α → Int) (records : List α) :
    (firstOfEach ts records).Sublist records := by
  fun_induction firstOfEach ts records with
  | case1 => exact .slnil
  | case2 a rest ih => exact (ih.trans (List.dropWhile_sublist _)).cons_cons a

theorem pairwise_firstOfEach {ts : α → Int} {records : List α}
    (h : records.Pairwise fun a b => ts a ≤ ts b) :
    (firstOfEach ts records).Pairwise fun a b => ts a < ts b := by
  fun_induction firstOfEach ts records with
  | case1 => exact .nil
  | case2 a rest ih =>
    obtain ⟨hle, hrest⟩ := List.pairwise_cons.mp h
    have hdropped := hrest.sublist (List.dropWhile_sublist fun b => decide (ts b = ts a))
    refine List.pairwise_cons.mpr ⟨fun b hb => ?_, ih hdropped⟩
    have hb := (firstOfEach_sublist ts _).subset hb
    -- The first record that is not dropped is later, and those behind it are not earlier than it.
    cases hrest : rest.dropWhile fun b => decide (ts b = ts a) with
    | nil => rw [hrest] at hb; cases hb
    | cons c more =>
      have hc : ts a ≤ ts c ∧ ts c ≠ ts a := by
        have hne := List.head?_dropWhile_not (fun b => decide (ts b = ts a)) rest
        rw [hrest] at hne
        exact ⟨hle c ((List.dropWhile_sublist _).subset (hrest ▸ List.mem_cons_self)), by simpa using hne⟩
      rw [hrest] at hb hdropped
      rcases List.mem_cons.mp hb with rfl | hb
      · omega
      · have := (List.pairwise_cons.mp hdropped).1 b hb
        omega

theorem mem_of_mem_arrange {ts : α → Int} {records : List α} {a : α} (h : a ∈ arrange ts records) :
    a ∈ records :=
  List.mem_mergeSort.mp ((firstOfEach_sublist ts _).subset h)

theorem pairwise_arrange (ts : α → Int) (records : List α) :
    (arrange ts records).Pairwise fun a b => ts a < ts b :=
  pairwise_firstOfEach (pairwise_mergeSort_key ts records)

/-! ## A window -/

theorem eq_last_of_not_mem {β : Type} {before front more : List β} {x y : β}
    (h : before ++ [x] = front ++ y :: more) (hy : y ∉ before) : y = x ∧ more = [] := by
  rcases List.eq_nil_or_concat more with rfl | ⟨more, z, rfl⟩
  · exact ⟨(List.cons.inj (List.append_inj' h rfl).2).1.symm, rfl⟩
  · rw [List.concat_eq_append, ← List.cons_append, ← List.append_assoc] at h
    obtain ⟨rfl, -⟩ := List.append_inj' h rfl
    exact absurd (by simp) hy

/-- A list is what is left of the fetched records of a window: the first record of each time, in the
order of time. -/
def FirstOfTimes (ts : α → Int) (w : Window) (fetched found : List α) : Prop :=
  found.Pairwise (fun a b => ts a < ts b) ∧
    (∀ a ∈ found, a ∈ fetched ∧ w.contains (ts a) = true) ∧
    ∀ a ∈ fetched, w.contains (ts a) = true →
      ∃ b ∈ found, ts b = ts a ∧ fetched.find? (ts · = ts a) = some b

/-- A record of the window is returned exactly if it is the first one that was fetched of its time. -/
theorem FirstOfTimes.mem_iff {ts : α → Int} {fetched found : List α}
    (h : FirstOfTimes ts w fetched found) {a : α} (ha : w.contains (ts a) = true) :
    a ∈ found ↔ fetched.find? (ts · = ts a) = some a := by
  obtain ⟨hsorted, hin, hfirst⟩ := h
  have hdistinct : (found.map ts).Nodup :=
    List.pairwise_map.mpr (hsorted.imp fun hlt => Int.ne_of_lt hlt)
  constructor
  · intro hmem
    obtain ⟨b, hb, hts, hfound⟩ := hfirst a (hin a hmem).1 ha
    rwa [List.inj_on_of_nodup_map hdistinct hb hmem hts] at hfound
  · intro hfound
    obtain ⟨b, hb, -, hsame⟩ := hfirst a (List.mem_of_find?_eq_some hfound) ha
    obtain rfl := Option.some.inj (hfound.symm.trans hsame)
    exact hb

theorem Source.mem_kept {page : List α} {a : α} :
    a ∈ src.kept w page ↔ a ∈ page ∧ w.contains (src.ts a) = true := List.mem_filter

/-- Records of a time in the window are all kept. -/
theorem Source.find?_kept {t : Int} (ht : w.contains t = true) (page : List α) :
    (src.kept w page).find? (src.ts · = t) = page.find? (src.ts · = t) := by
  rw [kept, List.find?_filter]
  congr 1
  funext a
  by_cases ha : src.ts a = t
  · simp [ha, ht]
  · simp [ha]

theorem Source.firstOfTimes_arrange (src : Source α) (w : Window) (fetched : List α) :
    FirstOfTimes src.ts w fetched (arrange src.ts (src.kept w fetched)) := by
  refine ⟨pairwise_arrange _ _, fun a ha => mem_kept.mp (mem_of_mem_arrange ha), fun a ha hin => ?_⟩
  have hfirst := (find?_arrange src.ts (src.kept w fetched) (src.ts a)).trans (find?_kept hin fetched)
  have hsome : (fetched.find? (src.ts · = src.ts a)).isSome :=
    List.find?_isSome.mpr ⟨a, ha, by simp⟩
  obtain ⟨b, hb⟩ := Option.isSome_iff_exists.mp hsome
  rw [hb] at hfirst
  exact ⟨b, List.mem_of_find?_eq_some hfirst, by simpa using List.find?_some hb, hb⟩

theorem Source.heard_collect (hw : w.start < w.stop) (s : σ) :
    (src.collect w limit).run.heard answer s = (src.pages w limit w.stop).run.heard answer s := by
  rw [collect, if_neg (by omega), Calling.heard_map]

theorem Source.heard_collect_ne_nil (hw : w.start < w.stop) (s : σ) :
    (src.collect w limit).run.heard answer s ≠ [] := by
  rw [heard_collect hw]
  exact (src.course_pages answer w limit w.stop s).heard_ne_nil

theorem Source.run_collect (hw : w.start < w.stop) (s : σ) :
    ((src.collect w limit).run.run answer s).1 =
      ((src.pages w limit w.stop).run.run answer s).1.map (arrange src.ts) := by
  rw [collect, if_neg (by omega), Calling.run_map]

/-- Either all pages are read, and the first records of the window are returned, or the last page is not
read, and its error is returned. -/
theorem Source.collect_outcome (src : Source α) (w : Window) (limit : Nat)
    (answer : σ → Query → Answer × σ) (s : σ) :
    (∃ (pages : List (List α)) (found : List α),
      ((src.collect w limit).run.heard answer s).map (src.fetched answer) = pages.map .ok ∧
      ((src.collect w limit).run.run answer s).1 = .ok found ∧
      FirstOfTimes src.ts w pages.flatten found) ∨
    ∃ before x error, (src.collect w limit).run.heard answer s = before ++ [x] ∧
      (∀ y ∈ before, ∃ page, src.fetched answer y = .ok page) ∧
      src.fetched answer x = .error error ∧
      ((src.collect w limit).run.run answer s).1 = .error error := by
  by_cases hw : w.start < w.stop
  · rw [heard_collect hw, run_collect hw]
    rcases (src.course_pages answer w limit w.stop s).outcome with
      ⟨pages, hread, hr⟩ | ⟨before, x, error, hheard, hread, hx, hr⟩
    · refine .inl ⟨pages, _, hread, ?_, src.firstOfTimes_arrange w pages.flatten⟩
      rw [hr]
      rfl
    · refine .inr ⟨before, x, error, hheard, hread, hx, ?_⟩
      rw [hr]
      rfl
  · have hempty : (src.collect w limit).run = .done (.ok []) := by
      rw [collect, if_pos (by omega)]
      rfl
    rw [hempty]
    exact .inl ⟨[], [], rfl, rfl, .nil, by simp, by simp⟩

end MarketFeed.History
