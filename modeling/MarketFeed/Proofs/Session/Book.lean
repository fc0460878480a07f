import MarketFeed.Proofs.Trace
import MarketFeed.Session.Book

/-!
# Operations on a book

The operations as data, so that a run of a session is a list of them. What is staged either waits,
or is taken as part of a batch, or is dropped when the book retires: as long as it does not, batches
and queue together are what was staged, in order (`flatten_batches_append_pending`), and the batches
are a prefix of it in any case (`flatten_batches_prefix`).
-/

namespace MarketFeed.Book

open Trace

/-- What may be done to a book. -/
inductive Op
  | stage (s : Subscription)
  | take
  | confirm (s : Subscription)
  | remove (s : Subscription)
  | retireIfIdle
  | retire
  deriving DecidableEq, Repr

/-- The book after an operation. -/
def perform (b : Book) : Op → Book
  | .stage s => (b.stage s).1
  | .take => b.take.1
  | .confirm s => b.confirm s
  | .remove s => b.remove s
  | .retireIfIdle => b.retireIfIdle.1
  | .retire => b.retire

/-- What an operation stages. -/
def staged (b : Book) : Op → List Subscription
  | .stage s => if (b.stage s).2 = .staged then [s] else []
  | _ => []

/-- What an operation takes out at once, if that is anything. -/
def batch (b : Book) : Op → List (List Subscription)
  | .take => if b.pending = [] then [] else [b.take.2]
  | _ => []

/-! ## Staging -/

theorem stage_eq (b : Book) (s : Subscription) :
    b.stage s =
      (if b.outcome s = .staged then { b with pending := b.pending ++ [s] } else b, b.outcome s) := by
  unfold stage
  split
  · rename_i h
    rw [if_pos h, h]
  · rename_i h
    rw [if_neg h]

theorem outcome_eq_staged_iff (b : Book) (s : Subscription) :
    b.outcome s = .staged ↔
      b.accepting = true ∧ b.isConfirmed s = false ∧ s ∉ b.pending ∧
        b.pending.length < b.capacity := by
  unfold outcome
  split_ifs with ha hc hp hf <;> simp_all

theorem outcome_eq_closed_iff (b : Book) (s : Subscription) :
    b.outcome s = .closed ↔ b.accepting = false := by
  unfold outcome
  split_ifs with ha hc hp hf <;> simp_all

/-- What a book does with a subscription, as long as it takes any. -/
theorem stage_cases {b : Book} (h : b.accepting = true) (s : Subscription) :
    (b.stage s).1.isConfirmed s = true ∨ s ∈ (b.stage s).1.pending ∨
      (b.stage s).2 = .queueFull ∧ (b.stage s).1.capacity ≤ (b.stage s).1.pending.length := by
  rw [stage_eq]
  split_ifs with hs
  · exact Or.inr (Or.inl (List.mem_append_right _ (List.mem_singleton_self s)))
  · unfold outcome at hs ⊢
    split_ifs at hs ⊢ with ha hc hp hf
    · simp [h] at ha
    · exact Or.inl hc
    · exact Or.inr (Or.inl (List.contains_iff_mem.mp hp))
    · exact Or.inr (Or.inr ⟨rfl, hf⟩)
    · exact absurd rfl hs

/-! ## What holds of every book -/

/-- No subscription waits twice, no more wait than there is room for, and none at all once the book
has retired. -/
structure Sound (b : Book) : Prop where
  nodup : b.pending.Nodup
  length_le : b.pending.length ≤ b.capacity
  pending_eq_nil : b.accepting = false → b.pending = []

theorem sound_new (capacity : Nat) : (new capacity).Sound :=
  ⟨List.nodup_nil, Nat.zero_le _, fun _ => rfl⟩

theorem Sound.stage {b : Book} (h : b.Sound) (s : Subscription) : (b.stage s).1.Sound := by
  rw [stage_eq]
  split_ifs with hs
  · obtain ⟨ha, -, hp, hlt⟩ := (outcome_eq_staged_iff b s).mp hs
    refine ⟨?_, ?_, ?_⟩
    · show (b.pending ++ [s]).Nodup
      rw [List.nodup_append]
      refine ⟨h.nodup, by simp, fun a ha' c hc => ?_⟩
      rw [List.mem_singleton.mp hc]
      exact ne_of_mem_of_not_mem ha' hp
    · show (b.pending ++ [s]).length ≤ b.capacity
      rw [List.length_append, List.length_singleton]
      exact hlt
    · intro hr
      have hr : b.accepting = false := hr
      rw [ha] at hr
      exact absurd hr (by decide)
  · exact h

theorem Sound.retireIfIdle {b : Book} (h : b.Sound) : b.retireIfIdle.1.Sound := by
  unfold Book.retireIfIdle
  split_ifs with hidle
  · have hempty : b.pending = [] := by
      simp only [isIdle, Bool.and_eq_true, List.isEmpty_iff] at hidle
      exact hidle.2.2
    exact ⟨h.nodup, h.length_le, fun _ => hempty⟩
  · exact h

theorem Sound.perform {b : Book} (h : b.Sound) (op : Op) : (b.perform op).Sound := by
  cases op with
  | stage s => exact h.stage s
  | take => exact ⟨List.nodup_nil, Nat.zero_le _, fun _ => rfl⟩
  | confirm s =>
    simp only [Book.perform, Book.confirm]
    split_ifs
    · exact h
    · exact ⟨h.nodup, h.length_le, h.pending_eq_nil⟩
  | remove s => exact ⟨h.nodup, h.length_le, h.pending_eq_nil⟩
  | retireIfIdle => exact h.retireIfIdle
  | retire => exact ⟨List.nodup_nil, Nat.zero_le _, fun _ => rfl⟩

@[simp] theorem perform_capacity (b : Book) (op : Op) : (b.perform op).capacity = b.capacity := by
  cases op with
  | stage s => simp only [perform, stage_eq]; split_ifs <;> rfl
  | confirm s => simp only [perform, confirm]; split_ifs <;> rfl
  | retireIfIdle => simp only [perform, retireIfIdle]; split_ifs <;> rfl
  | take => rfl
  | remove s => rfl
  | retire => rfl

/-- A book that has retired takes nothing more. -/
theorem perform_accepting {b : Book} (h : b.accepting = false) (op : Op) :
    (b.perform op).accepting = false := by
  cases op with
  | stage s => simp only [perform, stage_eq]; split_ifs <;> exact h
  | confirm s => simp only [perform, confirm]; split_ifs <;> exact h
  | retireIfIdle =>
    simp only [perform, retireIfIdle]
    split_ifs
    · rfl
    · exact h
  | take => exact h
  | remove s => exact h
  | retire => rfl

/-! ## Batches -/

/-- All that operations stage, in order. -/
def stagedBy (b : Book) (ops : List Op) : List Subscription := collect perform staged b ops

/-- All that operations take out, in order. -/
def batches (b : Book) (ops : List Op) : List (List Subscription) := collect perform batch b ops

theorem flatten_batch_take (b : Book) : (b.batch .take).flatten = b.pending := by
  unfold batch
  split_ifs with h
  · rw [h]; rfl
  · exact List.append_nil _

theorem pending_perform {b : Book} {op : Op} (h : op ≠ .retire) :
    b.pending ++ b.staged op = (b.batch op).flatten ++ (b.perform op).pending := by
  cases op with
  | stage s =>
    simp only [staged, perform, batch, stage_eq, List.flatten_nil, List.nil_append]
    split_ifs
    · rfl
    · exact List.append_nil _
  | take =>
    rw [flatten_batch_take]
    rfl
  | confirm s => simp only [staged, perform, batch, confirm]; split_ifs <;> simp
  | remove s => simp [staged, perform, batch, remove]
  | retireIfIdle => simp only [staged, perform, batch, retireIfIdle]; split_ifs <;> simp
  | retire => exact absurd rfl h

/-- Unless the book retires, what was taken and what waits is what was staged. -/
theorem flatten_batches_append_pending (b : Book) (ops : List Op) (h : .retire ∉ ops) :
    (b.batches ops).flatten ++ (ops.foldl perform b).pending = b.pending ++ b.stagedBy ops := by
  induction ops generalizing b with
  | nil => simp [batches, stagedBy]
  | cons op ops ih =>
    rw [List.mem_cons, not_or] at h
    have hstep := pending_perform (b := b) (Ne.symm h.1)
    calc (b.batches (op :: ops)).flatten ++ ((op :: ops).foldl perform b).pending
        = (b.batch op).flatten ++
            (((b.perform op).batches ops).flatten ++ (ops.foldl perform (b.perform op)).pending) := by
          simp [batches]
      _ = (b.batch op).flatten ++ ((b.perform op).pending ++ (b.perform op).stagedBy ops) := by
          rw [ih _ h.2]
      _ = b.pending ++ b.stagedBy (op :: ops) := by
          rw [← List.append_assoc, ← hstep, List.append_assoc]; rfl

/-- Nothing comes out of a book that has retired. -/
theorem batches_of_retired {b : Book} (hb : b.Sound) (ha : b.accepting = false) (ops : List Op) :
    b.batches ops = [] := by
  refine collect_eq_nil (I := fun b => b.Sound ∧ b.accepting = false) ?_
    (fun b op h => ⟨h.1.perform op, perform_accepting h.2 op⟩) ⟨hb, ha⟩ ops
  rintro b op ⟨hs, ha⟩
  cases op with
  | take => exact if_pos (hs.pending_eq_nil ha)
  | _ => rfl

/-- What waits is in the first batch that is taken. If none is, it still waits, unless the book has
retired. -/
theorem first_batch_of_mem_pending {b : Book} (hb : b.Sound) {s : Subscription}
    (hs : s ∈ b.pending) (ops : List Op) :
    (∃ batch rest, b.batches ops = batch :: rest ∧ s ∈ batch) ∨
      b.batches ops = [] ∧ (s ∈ (ops.foldl perform b).pending ∨ .retire ∈ ops) := by
  induction ops generalizing b with
  | nil => exact Or.inr ⟨rfl, Or.inl hs⟩
  | cons op ops ih =>
    by_cases hr : op = .retire
    · subst hr
      exact Or.inr ⟨batches_of_retired (hb.perform .retire) rfl ops,
        Or.inr List.mem_cons_self⟩
    by_cases ht : op = .take
    · subst ht
      have hbatch : b.batch .take = [b.pending] := if_neg (List.ne_nil_of_mem hs)
      refine Or.inl ⟨b.pending, (b.perform .take).batches ops, ?_, hs⟩
      rw [batches, collect_cons, hbatch]
      rfl
    · have hbatch : b.batch op = [] := by cases op <;> first | rfl | exact absurd rfl ht
      have hkept : s ∈ (b.perform op).pending := by
        have hstep := pending_perform (b := b) hr
        rw [hbatch, List.flatten_nil, List.nil_append] at hstep
        rw [← hstep]
        exact List.mem_append_left _ hs
      have hbatches : b.batches (op :: ops) = (b.perform op).batches ops := by
        rw [batches, collect_cons, hbatch]
        rfl
      rw [hbatches]
      rcases ih (hb.perform op) hkept with h | ⟨h, hwaits | hretire⟩
      · exact Or.inl h
      · exact Or.inr ⟨h, Or.inl hwaits⟩
      · exact Or.inr ⟨h, Or.inr (List.mem_cons_of_mem op hretire)⟩

/-- Whatever happens, what was taken is a prefix of what was staged. -/
theorem flatten_batches_prefix {b : Book} (hb : b.Sound) (ops : List Op) :
    (b.batches ops).flatten <+: b.pending ++ b.stagedBy ops := by
  rw [batches, ← collect_flatten]
  refine collect_prefix pending (I := Sound) (C := fun b => b.Sound ∧ b.accepting = false)
    (fun b op h => h.perform op)
    (fun b op h => ⟨h.1.perform op, perform_accepting h.2 op⟩) ?_ ?_ hb ops
  · rintro b op ⟨hs, ha⟩
    cases op with
    | take => rw [flatten_batch_take, hs.pending_eq_nil ha]
    | _ => rfl
  · intro b op hs
    by_cases h : op = .retire
    · subst h
      exact Or.inr ⟨rfl, hs.perform .retire, rfl⟩
    · exact Or.inl (pending_perform h)

/-- A batch is not empty, holds nothing twice, and is no larger than the capacity. -/
theorem mem_batches {b : Book} (hb : b.Sound) (ops : List Op) :
    ∀ l ∈ b.batches ops, l ≠ [] ∧ l.Nodup ∧ l.length ≤ b.capacity := by
  refine mem_collect (I := fun c => c.Sound ∧ c.capacity = b.capacity) ?_ ?_ ⟨hb, rfl⟩ ops
  · rintro c op ⟨hs, hc⟩ l hl
    cases op with
    | take =>
      simp only [batch, take] at hl
      split_ifs at hl with hempty
      · simp at hl
      · rw [List.mem_singleton.mp hl, ← hc]
        exact ⟨hempty, hs.nodup, hs.length_le⟩
    | _ => simp [batch] at hl
  · rintro c op ⟨hs, hc⟩
    exact ⟨hs.perform op, (perform_capacity c op).trans hc⟩

end MarketFeed.Book
