import MarketFeed.Proofs.Rest.Dialogue
import MarketFeed.Proofs.Trace
import MarketFeed.Rest.Market

/-!
# Kept instruments

Callers ask for the instruments of a kind, or set the instruments of some kinds, in any order and
against any partner. What is kept for a kind is what was stored last for it, whether it was fetched or
set (`kept_is_stored_last`).
-/

namespace MarketFeed.Rest

open Trace

/-! ## The cache -/

namespace InstrumentCache

theorem get?_put_self (cache : InstrumentCache) (type : InstrumentType) (items : List Instrument) :
    (cache.put type items).get? type = some items := by
  simp [get?, put]

theorem get?_put_of_ne (cache : InstrumentCache) {type other : InstrumentType}
    (items : List Instrument) (h : other ≠ type) :
    (cache.put type items).get? other = cache.get? other := by
  have hskip : (type == other) = false := beq_false_of_ne h.symm
  have hkept : (fun entry : InstrumentType × List Instrument =>
      decide ((entry.1 != type) = true ∧ (entry.1 == other) = true)) =
      fun entry => entry.1 == other := by
    funext entry
    by_cases hentry : entry.1 = other
    · simp [hentry, h]
    · simp [hentry]
  simp only [get?, put, List.find?_cons, hskip, List.find?_filter, hkept]

/-- What a list of instruments has for a kind, if it has any. -/
def group? (items : List Instrument) (type : InstrumentType) : Option (List Instrument) :=
  if ∃ i ∈ items, i.instType = type then some (items.filter fun i => i.instType == type) else none

/-- The part of a list that is for a kind replaces what is kept for it. -/
def putGroup (items : List Instrument) (cache : InstrumentCache) (type : InstrumentType) :
    InstrumentCache :=
  match group? items type with
  | none => cache
  | some group => cache.put type group

theorem putAll_eq (cache : InstrumentCache) (items : List Instrument) :
    cache.putAll items = InstrumentType.all.foldl (putGroup items) cache := by
  unfold putAll
  congr 1
  funext cache type
  unfold putGroup group?
  split_ifs with h
  · obtain ⟨i, hi, htype⟩ := h
    have hne : (items.filter fun i => i.instType == type) ≠ [] :=
      List.ne_nil_of_mem (List.mem_filter.mpr ⟨hi, beq_iff_eq.mpr htype⟩)
    split
    · contradiction
    · rfl
  · have hnil : (items.filter fun i => i.instType == type) = [] :=
      List.filter_eq_nil_iff.mpr fun i hi htype => h ⟨i, hi, beq_iff_eq.mp htype⟩
    rw [hnil]

theorem get?_putGroup_self (items : List Instrument) (cache : InstrumentCache)
    (type : InstrumentType) :
    (putGroup items cache type).get? type = (group? items type).or (cache.get? type) := by
  unfold putGroup
  cases group? items type with
  | none => rfl
  | some group => exact get?_put_self cache type group

theorem get?_putGroup_of_ne (items : List Instrument) (cache : InstrumentCache)
    {type other : InstrumentType} (h : other ≠ type) :
    (putGroup items cache type).get? other = cache.get? other := by
  unfold putGroup
  cases group? items type with
  | none => rfl
  | some group => exact get?_put_of_ne cache group h

theorem get?_foldl_putGroup (items : List Instrument) (types : List InstrumentType)
    (cache : InstrumentCache) (type : InstrumentType) :
    (types.foldl (putGroup items) cache).get? type =
      if type ∈ types then (group? items type).or (cache.get? type) else cache.get? type := by
  induction types generalizing cache with
  | nil => rfl
  | cons first rest ih =>
    rw [List.foldl_cons, ih]
    by_cases hfirst : type = first
    · subst hfirst
      rw [get?_putGroup_self, ← Option.or_assoc, Option.or_self, ite_self,
        if_pos List.mem_cons_self]
    · have hmem : type ∈ first :: rest ↔ type ∈ rest := by simp [hfirst]
      simp only [get?_putGroup_of_ne items cache hfirst, hmem]

/-- Setting instruments replaces what is kept for the kinds that occur among them, and nothing else. -/
theorem get?_putAll (cache : InstrumentCache) (items : List Instrument) (type : InstrumentType) :
    (cache.putAll items).get? type = (group? items type).or (cache.get? type) := by
  have hall : type ∈ InstrumentType.all := by cases type <;> decide
  rw [putAll_eq, get?_foldl_putGroup, if_pos hall]

end InstrumentCache

/-! ## Calls -/

variable {σ : Type} (answer : σ → Query → Answer × σ)

/-- What callers do with the kept instruments. -/
inductive CacheCall
  | get (type : InstrumentType) (force : Bool)
  | set (items : List Instrument)

/-- The partner of the calls, and what is kept. -/
structure Holding (σ : Type) where
  partner : σ
  cache : InstrumentCache

/-- What comes of a call: the result, if it has one, and what was asked of the partner. -/
structure CacheReply where
  result? : Option (Except FeedError (List Instrument))
  queries : List Query

/-- The query for the instruments of a kind. -/
def instrumentQuery (type : InstrumentType) : Query :=
  ⟨"/api/v5/public/instruments", [("instType", type.name)], false⟩

namespace CacheCall

def perform (h : Holding σ) : CacheCall → CacheReply × Holding σ
  | .get type force =>
    let ((r, cache), partner, queries) := (instruments h.cache type force).run answer h.partner
    (⟨some r, queries⟩, ⟨partner, cache⟩)
  | .set items => (⟨none, []⟩, ⟨h.partner, h.cache.putAll items⟩)

def reply (h : Holding σ) (c : CacheCall) : CacheReply := (c.perform answer h).1

/-- What is kept, and where the partner is, after a call. -/
def after (h : Holding σ) (c : CacheCall) : Holding σ := (c.perform answer h).2

/-- What a call stores for a kind: what it has fetched, or what it sets. -/
def stored? (type : InstrumentType) (h : Holding σ) : CacheCall → Option (List Instrument)
  | .get type' force =>
    match (CacheCall.get type' force).reply answer h with
    | ⟨some (.ok items), _ :: _⟩ => if type' = type then some items else none
    | _ => none
  | .set items => InstrumentCache.group? items type

end CacheCall

/-- What a partner answers about the instruments of a kind. -/
def fetched (s : σ) (type : InstrumentType) : Except FeedError (List Instrument) :=
  (answer s (instrumentQuery type)).1.bind (Envelope.unwrap (.list Instrument.codec))

theorem run_instruments_kept {cache : InstrumentCache} {type : InstrumentType}
    {items : List Instrument} (h : cache.get? type = some items) (s : σ) :
    (instruments cache type false).run answer s = ((.ok items, cache), s, []) := by
  simp only [instruments, Bool.false_eq_true, if_false, h]
  rfl

theorem run_instruments_fetched {cache : InstrumentCache} {type : InstrumentType} {force : Bool}
    (h : force = true ∨ cache.get? type = none) (s : σ) :
    (instruments cache type force).run answer s =
      ((fetched answer s type,
        match fetched answer s type with
        | .ok items => cache.put type items
        | .error _ => cache),
      (answer s (instrumentQuery type)).2, [instrumentQuery type]) := by
  have hask : (if force then none else cache.get? type) = none := by
    rcases h with rfl | h
    · rfl
    · rw [h, ite_self]
  have hend : Dialogue.run answer (answer s (instrumentQuery type)).2
      (match fetched answer s type with
        | .ok items => .done (.ok items, cache.put type items)
        | .error e => .done (.error e, cache)) =
      ((fetched answer s type,
        match fetched answer s type with
        | .ok items => cache.put type items
        | .error _ => cache),
      (answer s (instrumentQuery type)).2, []) := by
    cases fetched answer s type <;> rfl
  unfold instruments
  rw [hask]
  exact Dialogue.run_bind (Calling.run_fetch _ _ _ _ s) hend

namespace CacheCall

/-- A call that is not forced is answered out of what is kept. -/
theorem perform_kept {h : Holding σ} {type : InstrumentType} {items : List Instrument}
    (hkept : h.cache.get? type = some items) :
    (get type false).perform answer h = (⟨some (.ok items), []⟩, h) := by
  simp only [perform, run_instruments_kept answer hkept h.partner]

/-- Any other call asks once. It stores what it returns, for that kind only; if it fails nothing is
stored. -/
theorem perform_fetched {h : Holding σ} {type : InstrumentType} {force : Bool}
    (hask : force = true ∨ h.cache.get? type = none) :
    (get type force).perform answer h =
      (⟨some (fetched answer h.partner type), [instrumentQuery type]⟩,
        ⟨(answer h.partner (instrumentQuery type)).2,
          match fetched answer h.partner type with
          | .ok items => h.cache.put type items
          | .error _ => h.cache⟩) := by
  simp only [perform, run_instruments_fetched answer hask h.partner]

/-- What is kept for a kind after a call is what the call has stored for it, or what was kept. -/
theorem get?_after (type : InstrumentType) (h : Holding σ) (c : CacheCall) :
    (c.after answer h).cache.get? type = (c.stored? answer type h).or (h.cache.get? type) := by
  cases c with
  | set items => exact h.cache.get?_putAll items type
  | get type' force =>
    by_cases hask : force = true ∨ h.cache.get? type' = none
    · rw [after, stored?, reply, perform_fetched answer hask]
      cases hfetched : fetched answer h.partner type' with
      | error e => rfl
      | ok items =>
        by_cases htype : type' = type
        · subst htype
          simp [InstrumentCache.get?_put_self]
        · simp [InstrumentCache.get?_put_of_ne _ _ (Ne.symm htype), htype]
    · obtain ⟨hforce, hnone⟩ := not_or.mp hask
      obtain ⟨items, hitems⟩ := Option.ne_none_iff_exists'.mp hnone
      obtain rfl : force = false := eq_false_of_ne_true hforce
      rw [after, stored?, reply, perform_kept answer hitems]
      rfl

end CacheCall

/-- **What is kept for a kind is what was stored last for it.** Callers ask for instruments and set
them, in any order and whatever the partner answers. Then the next call does as follows.

* Asking for a kind for which something is kept, and not by force, asks nothing of the partner and
  changes nothing; the answer is what is kept.
* Asking for a kind otherwise is one query. What is fetched is returned, and kept for that kind only;
  an error is returned, and everything that is kept stays.
* Setting instruments asks nothing, and replaces what is kept for the kinds that occur among them: by
  those of the kind, in their order.

And what is kept for a kind is what calls before have stored last for it. -/
theorem kept_is_stored_last (s : σ) (calls : List CacheCall) :
    let h := calls.foldl (CacheCall.after answer) ⟨s, []⟩
    (∀ type items, h.cache.get? type = some items →
      (CacheCall.get type false).reply answer h = ⟨some (.ok items), []⟩ ∧
      (CacheCall.get type false).after answer h = h) ∧
    (∀ type force, force = true ∨ h.cache.get? type = none →
      let r := (CacheCall.get type force).reply answer h
      let h' := (CacheCall.get type force).after answer h
      r.queries = [instrumentQuery type] ∧ r.result? = some (fetched answer h.partner type) ∧
      (∀ items, fetched answer h.partner type = .ok items →
        h'.cache.get? type = some items ∧
          ∀ other, other ≠ type → h'.cache.get? other = h.cache.get? other) ∧
      ∀ e, fetched answer h.partner type = .error e → h'.cache = h.cache) ∧
    (∀ items type,
      (CacheCall.set items).reply answer h = ⟨none, []⟩ ∧
      ((CacheCall.set items).after answer h).partner = h.partner ∧
      ((CacheCall.set items).after answer h).cache.get? type =
        if ∃ i ∈ items, i.instType = type then some (items.filter fun i => i.instType == type)
        else h.cache.get? type) ∧
    ∀ type, h.cache.get? type =
      (collect (CacheCall.after answer) (fun h c => (c.stored? answer type h).toList) ⟨s, []⟩
        calls).getLast? := by
  intro h
  refine ⟨fun type items hkept => ?_, fun type force hask => ?_, fun items type => ⟨rfl, rfl, ?_⟩,
    fun type => ?_⟩
  · rw [CacheCall.reply, CacheCall.after, CacheCall.perform_kept answer hkept]
    exact ⟨rfl, rfl⟩
  · intro r h'
    have hr : r = _ := congrArg Prod.fst (CacheCall.perform_fetched answer hask)
    have hh' : h' = _ := congrArg Prod.snd (CacheCall.perform_fetched answer hask)
    rw [hr, hh']
    refine ⟨rfl, rfl, fun items hitems => ?_, fun e he => ?_⟩
    · rw [hitems]
      exact ⟨h.cache.get?_put_self type items,
        fun other hother => h.cache.get?_put_of_ne items hother⟩
    · rw [he]
  · have hset := h.cache.get?_putAll items type
    rw [InstrumentCache.group?] at hset
    refine hset.trans ?_
    split_ifs <;> rfl
  · have hlast := read_collect (fun h : Holding σ => h.cache.get? type)
      (fun h c => c.stored? answer type h) (CacheCall.get?_after answer type) ⟨s, []⟩ calls
    exact hlast.trans (Option.or_none)

end MarketFeed.Rest
