import Mathlib.Data.List.Basic
import Mathlib.Data.List.Induction

/-!
# Traces

What is noted along a run of a state machine. `collect next note s events` notes something at each
event, with the state in which it finds the machine. Main fact: what leaves a store along a run is a
prefix of what the store held and what came in (`collect_prefix`).
-/

namespace MarketFeed.Trace

variable {σ ε α β : Type} (next : σ → ε → σ)

/-- The notes of a run, the first event's first. -/
def collect (note : σ → ε → List α) : σ → List ε → List α
  | _, [] => []
  | s, e :: es => note s e ++ collect note (next s e) es

variable {next}

@[simp] theorem collect_nil (note : σ → ε → List α) (s : σ) : collect next note s [] = [] := rfl

@[simp] theorem collect_cons (note : σ → ε → List α) (s : σ) (e : ε) (es : List ε) :
    collect next note s (e :: es) = note s e ++ collect next note (next s e) es := rfl

theorem collect_append (note : σ → ε → List α) (s : σ) (es es' : List ε) :
    collect next note s (es ++ es') =
      collect next note s es ++ collect next note (es.foldl next s) es' := by
  induction es generalizing s with
  | nil => rfl
  | cons e es ih => simp [ih, List.append_assoc]

theorem collect_eq_nil {note : σ → ε → List α} {I : σ → Prop}
    (hnote : ∀ s e, I s → note s e = []) (hnext : ∀ s e, I s → I (next s e))
    {s : σ} (hs : I s) (es : List ε) : collect next note s es = [] := by
  induction es generalizing s with
  | nil => rfl
  | cons e es ih => rw [collect_cons, hnote s e hs, ih (hnext s e hs), List.append_nil]

theorem collect_map (f : α → β) (note : σ → ε → List α) (s : σ) (es : List ε) :
    collect next (fun s e => (note s e).map f) s es = (collect next note s es).map f := by
  induction es generalizing s with
  | nil => rfl
  | cons e es ih => simp [ih]

theorem collect_filterMap (f : α → Option β) (note : σ → ε → List α) (s : σ) (es : List ε) :
    collect next (fun s e => (note s e).filterMap f) s es =
      (collect next note s es).filterMap f := by
  induction es generalizing s with
  | nil => rfl
  | cons e es ih => simp [ih]

theorem collect_flatten (note : σ → ε → List (List α)) (s : σ) (es : List ε) :
    collect next (fun s e => (note s e).flatten) s es = (collect next note s es).flatten := by
  induction es generalizing s with
  | nil => rfl
  | cons e es ih => simp [ih]

theorem mem_collect {note : σ → ε → List α} {I : σ → Prop} {P : α → Prop}
    (hnote : ∀ s e, I s → ∀ a ∈ note s e, P a) (hnext : ∀ s e, I s → I (next s e))
    {s : σ} (hs : I s) (es : List ε) : ∀ a ∈ collect next note s es, P a := by
  induction es generalizing s with
  | nil => intro a ha; simp at ha
  | cons e es ih =>
    intro a ha
    rcases List.mem_append.mp ha with ha | ha
    · exact hnote s e hs a ha
    · exact ih (hnext s e hs) a ha

/-- What is noted along a run is noted at one of its events. -/
theorem exists_of_mem_collect {note : σ → ε → List α} {s : σ} {es : List ε} {a : α}
    (h : a ∈ collect next note s es) :
    ∃ before e after, es = before ++ e :: after ∧ a ∈ note (before.foldl next s) e := by
  induction es generalizing s with
  | nil => cases h
  | cons e es ih =>
    rcases List.mem_append.mp h with h | h
    · exact ⟨[], e, es, rfl, h⟩
    · obtain ⟨before, e', after, rfl, hnote⟩ := ih h
      exact ⟨e :: before, e', after, rfl, hnote⟩

theorem foldl_invariant {I : σ → Prop} (hnext : ∀ s e, I s → I (next s e)) {s : σ} (hs : I s)
    (es : List ε) : I (es.foldl next s) := by
  induction es generalizing s with
  | nil => exact hs
  | cons e es ih => exact ih (hnext s e hs)

/-- What some events set and others clear holds after a run exactly if an event of the run has set it
and none since then has cleared it. -/
theorem holds_iff_set {P : σ → Prop} {sets : σ → ε → Prop} {clears : ε → Prop}
    (hstep : ∀ s e, P (next s e) ↔ sets s e ∨ P s ∧ ¬ clears e) {s : σ} (hs : ¬ P s)
    (es : List ε) :
    P (es.foldl next s) ↔ ∃ before e after, es = before ++ e :: after ∧
      sets (before.foldl next s) e ∧ ∀ e' ∈ after, ¬ clears e' := by
  induction es using List.reverseRecOn with
  | nil => simp [hs]
  | append_singleton es last ih =>
    rw [List.foldl_append, List.foldl_cons, List.foldl_nil, hstep, ih]
    constructor
    · rintro (hset | ⟨⟨before, e, after, rfl, hset, hkept⟩, hlast⟩)
      · exact ⟨es, last, [], rfl, hset, nofun⟩
      · refine ⟨before, e, after ++ [last], by simp, hset, fun e' he' => ?_⟩
        rcases List.mem_append.mp he' with he' | he'
        · exact hkept e' he'
        · rw [List.mem_singleton.mp he']
          exact hlast
    · rintro ⟨before, e, after, heq, hset, hkept⟩
      rcases List.eq_nil_or_concat after with rfl | ⟨after, e', rfl⟩
      · obtain ⟨rfl, hlast⟩ := List.append_inj' heq rfl
        cases hlast
        exact Or.inl hset
      · rw [List.concat_eq_append, ← List.cons_append, ← List.append_assoc] at heq
        obtain ⟨rfl, hlast⟩ := List.append_inj' heq rfl
        cases hlast
        refine Or.inr ⟨⟨before, e, after, rfl, hset, fun a ha => hkept a ?_⟩, hkept last ?_⟩
        · simp [ha]
        · simp

/-- Something in a list sets a mark, and nothing after it clears the mark. -/
def Lasts (sets clears : α → Prop) (notes : List α) : Prop :=
  ∃ before a after, notes = before ++ a :: after ∧ sets a ∧ ∀ a' ∈ after, ¬ clears a'

theorem not_lasts_nil (sets clears : α → Prop) : ¬ Lasts sets clears [] := by
  rintro ⟨before, a, after, heq, -⟩
  simp at heq

theorem lasts_append_singleton {sets clears : α → Prop} (notes : List α) (last : α) :
    Lasts sets clears (notes ++ [last]) ↔ sets last ∨ Lasts sets clears notes ∧ ¬ clears last := by
  constructor
  · rintro ⟨before, a, after, heq, hset, hkept⟩
    rcases List.eq_nil_or_concat' after with rfl | ⟨after, a', rfl⟩
    · obtain ⟨-, hlast⟩ := List.append_inj' heq rfl
      cases hlast
      exact Or.inl hset
    · rw [← List.cons_append, ← List.append_assoc] at heq
      obtain ⟨rfl, hlast⟩ := List.append_inj' heq rfl
      cases hlast
      refine Or.inr ⟨⟨before, a, after, rfl, hset, ?_⟩, hkept last (by simp)⟩
      intro a' ha'
      exact hkept a' (List.mem_append_left _ ha')
  · rintro (hset | ⟨⟨before, a, after, rfl, hset, hkept⟩, hlast⟩)
    · exact ⟨notes, last, [], rfl, hset, nofun⟩
    · refine ⟨before, a, after ++ [last], by simp, hset, ?_⟩
      intro a' ha'
      rcases List.mem_append.mp ha' with ha' | ha'
      · exact hkept a' ha'
      · rw [List.mem_singleton.mp ha']
        exact hlast

/-- What some notes set and others clear holds after a run exactly if it lasts in the notes of the
run. -/
theorem holds_iff_lasts {P I : σ → Prop} {note : σ → ε → α} {sets clears : α → Prop}
    (hnext : ∀ s e, I s → I (next s e))
    (hstep : ∀ s e, I s → (P (next s e) ↔ sets (note s e) ∨ P s ∧ ¬ clears (note s e)))
    {s : σ} (hI : I s) (hs : ¬ P s) (es : List ε) :
    P (es.foldl next s) ↔ Lasts sets clears (collect next (fun s e => [note s e]) s es) := by
  induction es using List.reverseRecOn with
  | nil => exact iff_of_false hs (not_lasts_nil sets clears)
  | append_singleton es last ih =>
    rw [List.foldl_append, collect_append, collect_cons, collect_nil, List.append_nil,
      lasts_append_singleton, ← ih]
    exact hstep _ last (foldl_invariant hnext hI es)

/-- A place that an event either overwrites or leaves alone holds what was written last, if anything
was written at all. -/
theorem read_collect (read : σ → Option α) (note : σ → ε → Option α)
    (hstep : ∀ s e, read (next s e) = (note s e).or (read s)) (s : σ) (es : List ε) :
    read (es.foldl next s) =
      (collect next (fun s e => (note s e).toList) s es).getLast?.or (read s) := by
  induction es generalizing s with
  | nil => rfl
  | cons e es ih =>
    rw [List.foldl_cons, ih, hstep, collect_cons, List.getLast?_append]
    cases note s e with
    | none => simp
    | some a => cases (collect next (fun s e => (note s e).toList) (next s e) es).getLast? <;> rfl

theorem collect_toList (note : ε → Option α) (s : σ) (es : List ε) :
    collect next (fun _ e => (note e).toList) s es = es.filterMap note := by
  induction es generalizing s with
  | nil => rfl
  | cons e es ih =>
    rw [collect_cons, ih]
    cases hnote : note e with
    | none => rw [List.filterMap_cons_none hnote]; rfl
    | some a => rw [List.filterMap_cons_some hnote]; rfl

/-- What is written there may depend on the event alone. -/
theorem read_foldl (read : σ → Option α) (note : ε → Option α)
    (hstep : ∀ s e, read (next s e) = (note e).or (read s)) (s : σ) (es : List ε) :
    read (es.foldl next s) = (es.filterMap note).getLast?.or (read s) := by
  rw [read_collect read (fun _ e => note e) hstep, collect_toList]

/-- A run of runs: what one machine notes at an event is what another notes along several of its
own. -/
theorem collect_bind {τ δ : Type} {step : τ → δ → τ} (events : σ → ε → List δ) (view : σ → τ)
    (hview : ∀ s e, view (next s e) = (events s e).foldl step (view s))
    (note : τ → δ → List α) (s : σ) (es : List ε) :
    collect step note (view s) (collect next events s es) =
      collect next (fun s e => collect step note (view s) (events s e)) s es := by
  induction es generalizing s with
  | nil => rfl
  | cons e es ih => rw [collect_cons, collect_append, ← hview, ih, collect_cons]

/-- A store that every event conserves: what it held and what went in has come out, or is still
held. -/
theorem collect_conserve (held : σ → List α) {into out : σ → ε → List α}
    (hstep : ∀ s e, held s ++ into s e = out s e ++ held (next s e)) (s : σ) (es : List ε) :
    held s ++ collect next into s es = collect next out s es ++ held (es.foldl next s) := by
  induction es generalizing s with
  | nil => simp
  | cons e es ih =>
    rw [collect_cons, collect_cons, ← List.append_assoc, hstep, List.append_assoc, ih,
      List.append_assoc]
    rfl

/-- A store that an event either conserves or closes for good: what comes out of it along a run is a
prefix of what it held and what went in. -/
theorem collect_prefix (held : σ → List α) {into out : σ → ε → List α} {I C : σ → Prop}
    (hI : ∀ s e, I s → I (next s e)) (hC : ∀ s e, C s → C (next s e))
    (hout : ∀ s e, C s → out s e = [])
    (hstep : ∀ s e, I s → held s ++ into s e = out s e ++ held (next s e) ∨
      out s e = [] ∧ C (next s e))
    {s : σ} (hs : I s) (es : List ε) :
    collect next out s es <+: held s ++ collect next into s es := by
  induction es generalizing s with
  | nil => simp
  | cons e es ih =>
    rw [collect_cons, collect_cons, ← List.append_assoc]
    rcases hstep s e hs with h | ⟨h, hclosed⟩
    · rw [h, List.append_assoc]
      exact (List.prefix_append_right_inj _).mpr (ih (hI s e hs))
    · rw [h, collect_eq_nil hout hC hclosed es]
      exact List.nil_prefix

/-! ## Interleavings -/

/-- Two lists put together so that each keeps its order. -/
inductive Interleaving : List α → List α → List α → Prop
  | nil : Interleaving [] [] []
  | left (a : α) {as bs cs : List α} (h : Interleaving as bs cs) :
    Interleaving (a :: as) bs (a :: cs)
  | right (b : α) {as bs cs : List α} (h : Interleaving as bs cs) :
    Interleaving as (b :: bs) (b :: cs)

namespace Interleaving

variable {as bs cs as' bs' cs' : List α}

theorem append (h : Interleaving as bs cs) (h' : Interleaving as' bs' cs') :
    Interleaving (as ++ as') (bs ++ bs') (cs ++ cs') := by
  induction h with
  | nil => exact h'
  | left a _ ih => exact .left a ih
  | right b _ ih => exact .right b ih

theorem of_left (as : List α) : Interleaving as [] as := by
  induction as with
  | nil => exact .nil
  | cons a as ih => exact .left a ih

theorem of_right (bs : List α) : Interleaving [] bs bs := by
  induction bs with
  | nil => exact .nil
  | cons b bs ih => exact .right b ih

/-- One list after the other. -/
theorem of_append (as bs : List α) : Interleaving as bs (as ++ bs) := by
  simpa using (of_left as).append (of_right bs)

theorem eq_left (h : Interleaving as [] cs) : cs = as := by
  generalize hbs : [] = bs at h
  induction h with
  | nil => rfl
  | left a _ ih => rw [ih hbs]
  | right b _ _ => cases hbs

theorem filterMap (f : α → Option β) (h : Interleaving as bs cs) :
    Interleaving (as.filterMap f) (bs.filterMap f) (cs.filterMap f) := by
  induction h with
  | nil => exact .nil
  | left a _ ih =>
    cases ha : f a with
    | none => simpa only [List.filterMap_cons_none ha] using ih
    | some b => simpa only [List.filterMap_cons_some ha] using ih.left b
  | right a _ ih =>
    cases ha : f a with
    | none => simpa only [List.filterMap_cons_none ha] using ih
    | some b => simpa only [List.filterMap_cons_some ha] using ih.right b

/-- What drops one of two interleaved lists leaves what it leaves of the other. -/
theorem filterMap_eq_left {f : α → Option β} (h : Interleaving as bs cs)
    (hbs : bs.filterMap f = []) : cs.filterMap f = as.filterMap f := by
  have hf := h.filterMap f
  rw [hbs] at hf
  exact hf.eq_left

end Interleaving

end MarketFeed.Trace
