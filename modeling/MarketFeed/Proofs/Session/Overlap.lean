import MarketFeed.Proofs.Session.Requests

/-!
# Waiting and confirmed at once

Staging looks at what is confirmed, but confirming does not look at what waits. So a subscription
that is staged once more after its request, and confirmed while it waits, is requested again although
it is confirmed. Main fact: this is the only way in which that happens (`confirmed_and_requested_iff`).
-/

namespace MarketFeed

open Trace

namespace Book

/-- Operations in which a subscription is staged, and then confirmed and not ended while it waits. -/
def ConfirmsWaiting (b : Book) (ops : List Op) (s : Subscription) : Prop :=
  ∃ before x y, ops = before ++ .stage s :: (x ++ .confirm s :: y) ∧
    (before.foldl perform b).outcome s = .staged ∧
    (∀ op ∈ x ++ y, ¬ (op = .take ∨ op = .retire)) ∧ ∀ op ∈ y, op ≠ .remove s

theorem mem_pending_perform (s : Subscription) (b : Book) (op : Op) :
    s ∈ (b.perform op).pending ↔
      (op = .stage s ∧ b.outcome s = .staged) ∨ s ∈ b.pending ∧ ¬ (op = .take ∨ op = .retire) := by
  cases op with
  | stage t =>
    simp only [perform, stage_eq]
    split_ifs with ht
    · have hiff : s ∈ b.pending ++ [t] ↔ s ∈ b.pending ∨ s = t := by simp
      rw [hiff]
      by_cases hs : s = t
      · subst hs
        simp [ht]
      · simp [hs, Ne.symm hs]
    · have hne : ¬ (Op.stage t = .stage s ∧ b.outcome s = .staged) := by
        rintro ⟨heq, hs⟩
        cases heq
        exact ht hs
      rw [or_iff_right hne]
      simp
  | confirm t =>
    simp only [perform, confirm]
    split_ifs <;> simp
  | retireIfIdle =>
    simp only [perform, retireIfIdle]
    split_ifs <;> simp
  | take => simp [perform, take]
  | remove t => simp [perform, remove]
  | retire => simp [perform, retire]

theorem isConfirmed_perform (s : Subscription) (b : Book) (op : Op) :
    (b.perform op).isConfirmed s = true ↔
      op = .confirm s ∨ b.isConfirmed s = true ∧ ¬ op = .remove s := by
  have hcanonical : ∀ t : Subscription, s.canonical = t.canonical ↔ s = t :=
    fun t => Subscription.canonical_injective.eq_iff
  cases op with
  | stage t =>
    simp only [perform, stage_eq]
    split_ifs <;> simp [isConfirmed]
  | confirm t =>
    simp only [perform, confirm]
    split_ifs with ht
    · by_cases hs : s = t
      · subst hs
        simp [ht]
      · simp [Ne.symm hs]
    · have hiff : s.canonical ∈ b.confirmed ++ [t.canonical] ↔ s.canonical ∈ b.confirmed ∨ s = t := by
        simp [hcanonical]
      simp only [isConfirmed, List.contains_iff_mem, hiff, Op.confirm.injEq,
        not_false_eq_true, and_true]
      rw [or_comm, @eq_comm _ s t]
  | remove t =>
    have hiff : s.canonical ∈ b.confirmed.filter (· != t.canonical) ↔
        s.canonical ∈ b.confirmed ∧ ¬ s = t := by
      simp [hcanonical]
    simp only [perform, remove, isConfirmed, List.contains_iff_mem, hiff, Op.remove.injEq,
      reduceCtorEq, false_or]
    rw [@eq_comm _ s t]
  | retireIfIdle =>
    simp only [perform, retireIfIdle]
    split_ifs <;> simp [isConfirmed]
  | take => simp [perform, take, isConfirmed]
  | retire => simp [perform, retire, isConfirmed]

theorem isConfirmed_stage_of_staged {b : Book} {s : Subscription} (h : b.outcome s = .staged) :
    ¬ (b.perform (.stage s)).isConfirmed s = true := by
  rw [isConfirmed_perform]
  simp [((outcome_eq_staged_iff b s).mp h).2.1]

/-- In a book that begins empty, what waits and is confirmed has been confirmed while it waited. -/
theorem pending_and_confirmed_iff {b : Book} (hb : b.pending = []) (ops : List Op)
    (s : Subscription) :
    s ∈ (ops.foldl perform b).pending ∧ (ops.foldl perform b).isConfirmed s = true ↔
      b.ConfirmsWaiting ops s := by
  have hwaits := holds_iff_set (P := fun c : Book => s ∈ c.pending) (mem_pending_perform s)
    (fun h : s ∈ b.pending => by simp [hb] at h) ops
  -- between the staging and the end the subscription is confirmed from nothing
  have hconfirmed : ∀ c : Book, c.outcome s = .staged → ∀ after : List Op,
      (after.foldl perform (c.perform (.stage s))).isConfirmed s = true ↔
        ∃ x op y, after = x ++ op :: y ∧ op = .confirm s ∧ ∀ op ∈ y, ¬ op = .remove s :=
    fun c hc after => holds_iff_set (P := fun c : Book => c.isConfirmed s = true)
      (isConfirmed_perform s) (isConfirmed_stage_of_staged hc) after
  rw [hwaits]
  constructor
  · rintro ⟨⟨before, op, after, rfl, ⟨rfl, hstaged⟩, hkept⟩, hc⟩
    rw [List.foldl_append, List.foldl_cons, hconfirmed _ hstaged] at hc
    obtain ⟨x, op, y, rfl, rfl, hlast⟩ := hc
    refine ⟨before, x, y, rfl, hstaged, fun op hop => hkept op ?_, hlast⟩
    rcases List.mem_append.mp hop with hop | hop
    · exact List.mem_append_left _ hop
    · exact List.mem_append_right _ (List.mem_cons_of_mem _ hop)
  · rintro ⟨before, x, y, rfl, hstaged, hkept, hlast⟩
    refine ⟨⟨before, .stage s, x ++ .confirm s :: y, rfl, ⟨rfl, hstaged⟩, fun op hop => ?_⟩, ?_⟩
    · rcases List.mem_append.mp hop with hop | hop
      · exact hkept op (List.mem_append_left _ hop)
      · rcases List.mem_cons.mp hop with rfl | hop
        · simp
        · exact hkept op (List.mem_append_right _ hop)
    · rw [List.foldl_append, List.foldl_cons, hconfirmed _ hstaged]
      exact ⟨x, .confirm s, y, rfl, rfl, hlast⟩

end Book

namespace Scene

/-- A request holds what waits as it is written. -/
theorem eq_pending_of_requested {sc : Scene} {m : Move} {l : List Subscription}
    (h : Frame.subscribing l ∈ requests (sc.effects m)) : l = sc.session.book.pending := by
  rw [requests_move, List.mem_map_of_injective Frame.subscribing_injective] at h
  cases m with
  | call c => cases c <;> simp [ops, Book.batches, Book.batch] at h
  | begin endpoint subscriptions =>
    unfold ops at h
    split_ifs at h
    · simp [batches_stage] at h
    · simp [Book.batches] at h
  | step view signal =>
    unfold ops at h
    cases hop : sc.task?.bind (·.bookOp? signal) with
    | none => simp [hop, Book.batches] at h
    | some op =>
      simp only [hop, Option.toList_some, Book.batches, collect_cons, collect_nil,
        List.append_nil] at h
      unfold Book.batch at h
      split at h
      · split_ifs at h
        · cases h
        · exact List.mem_singleton.mp h
      · cases h

/-- **A confirmed subscription is requested again exactly when it has been confirmed while it waited.**
A subscription waits and is confirmed at once in no other case, whatever is done to a book; and a
request holds a subscription that is confirmed as it is written in no other case, whatever callers,
transport and clock do to the session. -/
theorem confirmed_and_requested_iff (id : Nat) (settings : StreamConfig) :
    (∀ capacity ops s,
      s ∈ (ops.foldl Book.perform (.new capacity)).pending ∧
          (ops.foldl Book.perform (.new capacity)).isConfirmed s = true ↔
        (Book.new capacity).ConfirmsWaiting ops s) ∧
    ∀ moves m l s, Frame.subscribing l ∈ requests (((start id settings).play moves).effects m) →
      s ∈ l →
        (((start id settings).play moves).session.isSubscribed s = true ↔
          (start id settings).session.book.ConfirmsWaiting ((start id settings).opsOf moves) s) := by
  refine ⟨fun capacity ops s => Book.pending_and_confirmed_iff rfl ops s, ?_⟩
  intro moves m l s hrequest hs
  rw [eq_pending_of_requested hrequest, book_play] at hs
  have hiff := Book.pending_and_confirmed_iff (b := (start id settings).session.book) rfl
    ((start id settings).opsOf moves) s
  rw [← hiff, Session.isSubscribed, book_play]
  exact ⟨fun hc => ⟨hs, hc⟩, fun h => h.2⟩

/-- A subscription is requested, staged once more before the answer, and confirmed: it is requested
again. -/
theorem confirmed_tickers_requested :
    let moves := opening [.tickers "A"] ++
      [.call (.subscribe (.tickers "A")), hear (confirmation (.tickers "A")), go, go]
    let sc := (start 1 .default).play moves
    requests (sc.effects go) = [Frame.subscribing [.tickers "A"]] ∧
      sc.session.isSubscribed (.tickers "A") = true ∧
      (start 1 .default).session.book.ConfirmsWaiting ((start 1 .default).opsOf moves)
        (.tickers "A") := by
  intro moves sc
  have hrequests : requests (sc.effects go) = [Frame.subscribing [.tickers "A"]] := by
    decide +kernel
  have hsubscribed : sc.session.isSubscribed (.tickers "A") = true := by decide +kernel
  have hmem : Frame.subscribing [.tickers "A"] ∈ requests (sc.effects go) := by
    rw [hrequests]
    exact List.mem_singleton_self _
  exact ⟨hrequests, hsubscribed, ((confirmed_and_requested_iff 1 .default).2 moves go _ _ hmem
    (List.mem_singleton_self _)).mp hsubscribed⟩

end Scene

end MarketFeed
