import Mathlib.Data.List.Nodup
import MarketFeed.Proofs.Session.Delivery
import MarketFeed.Proofs.Session.Errand
import MarketFeed.Proofs.Session.Overlap

/-!
# Who is subscribed

A subscription is confirmed exactly if the last acknowledgement that is about it says so, whatever
was staged and requested in between (`subscribed_iff_last_ack`). What is confirmed is kept by its
text, and that is as good as keeping the subscriptions themselves: different ones have different
texts.
-/

namespace MarketFeed

open Trace

/-- What an acknowledgement says about a subscription. -/
def Ack.verdict? (s : Subscription) : Ack → Option Bool
  | .subscribed t => if t = s then some true else none
  | .unsubscribed t => if t = s then some false else none
  | .refused _ _ => none

/-- Whether an acknowledgement is about the same channel and the same instrument. -/
def Ack.isAbout (s : Subscription) : Ack → Bool
  | .subscribed t | .unsubscribed t => t.channel == s.channel && t.instId == s.instId
  | .refused _ _ => false

/-- The acknowledgement or refusal in a frame, if there is one. -/
def Frame.ack? (f : Frame) : Option Ack :=
  match Message.ofFrame f with
  | .ok (some (.control ack)) => some ack
  | _ => none

/-- A record as text, field by field in the order of the record. -/
def Schema.chars (r : Schema) (as : Values r.fields) : List Char :=
  '\x7b' :: [','].intercalate
    ((Schema.writeFields r.fields as).map fun (name, v) => Json.quote name ++ ':' :: v.chars) ++
    ['\x7d']

namespace Subscription

theorem eq_iff (s t : Subscription) : s = t ↔ s.channel = t.channel ∧ s.instId = t.instId := by
  obtain ⟨channel, instId⟩ := s
  obtain ⟨channel', instId'⟩ := t
  exact Subscription.mk.injEq .. ▸ Iff.rfl

/-- The text of a subscription is what its record is written as, field by field. -/
theorem canonical_eq_chars (s : Subscription) :
    s.canonical = String.ofList (schema.chars (s.channel, s.instId, ())) := by
  have hchars := s.chars_toJson []
  rw [List.append_nil] at hchars
  rw [canonical, Json.text, hchars]
  simp [Schema.chars, schema, Schema.writeFields, Field.required, Codec.text, Json.chars]

end Subscription

namespace Ack

theorem isAbout_subscribed (s t : Subscription) : (subscribed t).isAbout s = decide (t = s) := by
  rw [Bool.eq_iff_iff, decide_eq_true_iff, Subscription.eq_iff]
  simp [isAbout]

theorem isAbout_unsubscribed (s t : Subscription) :
    (unsubscribed t).isAbout s = decide (t = s) := by
  rw [Bool.eq_iff_iff, decide_eq_true_iff, Subscription.eq_iff]
  simp [isAbout]

/-- The last acknowledgement about a subscription is the last one that says anything about it. -/
theorem getLast?_verdicts (s : Subscription) (acks : List Ack) :
    (acks.filterMap (verdict? s)).getLast? = some true ↔
      (acks.filter (isAbout s)).getLast? = some (.subscribed s) := by
  induction acks using List.reverseRecOn with
  | nil => simp
  | append_singleton acks ack ih =>
    rw [List.filterMap_append, List.filter_append]
    cases ack with
    | subscribed t =>
      by_cases h : t = s
      · subst h
        simp [verdict?, isAbout_subscribed]
      · simpa [verdict?, isAbout_subscribed, h] using ih
    | unsubscribed t =>
      by_cases h : t = s
      · subst h
        simp [verdict?, isAbout_unsubscribed]
      · simpa [verdict?, isAbout_unsubscribed, h] using ih
    | refused code message => simpa [verdict?, isAbout] using ih

end Ack

namespace Book

/-- What an operation says about a subscription. -/
def Op.verdict? (s : Subscription) : Op → Option Bool
  | .confirm t => if t = s then some true else none
  | .remove t => if t = s then some false else none
  | _ => none

theorem isConfirmed_perform_eq (s : Subscription) (b : Book) (op : Op) :
    (b.perform op).isConfirmed s = (op.verdict? s).getD (b.isConfirmed s) := by
  have hiff := isConfirmed_perform s b op
  rw [Bool.eq_iff_iff, hiff]
  cases op with
  | confirm t =>
    by_cases ht : t = s
    · simp [Op.verdict?, ht]
    · simp [Op.verdict?, ht]
  | remove t =>
    by_cases ht : t = s
    · simp [Op.verdict?, ht]
    · simp [Op.verdict?, ht]
  | _ => simp [Op.verdict?]

/-- What is said last about a subscription decides whether it is confirmed. -/
theorem isConfirmed_foldl (s : Subscription) (b : Book) (ops : List Op) :
    (ops.foldl perform b).isConfirmed s =
      ((ops.filterMap (Op.verdict? s)).getLast?).getD (b.isConfirmed s) := by
  have hstep : ∀ (c : Book) (op : Op),
      some ((c.perform op).isConfirmed s) = (op.verdict? s).or (some (c.isConfirmed s)) := by
    intro c op
    rw [isConfirmed_perform_eq]
    cases op.verdict? s <;> rfl
  have hlast := read_foldl (fun c : Book => some (c.isConfirmed s)) (Op.verdict? s) hstep b ops
  rw [← Option.some.injEq, hlast]
  cases (ops.filterMap (Op.verdict? s)).getLast? <;> rfl

/-- The keys of a book are those of some subscriptions, each once. -/
structure KeyedBy (b : Book) (subs : List Subscription) : Prop where
  confirmed_eq : b.confirmed = subs.map Subscription.canonical
  nodup : subs.Nodup

theorem KeyedBy.isConfirmed_iff {b : Book} {subs : List Subscription} (h : b.KeyedBy subs)
    (s : Subscription) : b.isConfirmed s = true ↔ s ∈ subs := by
  rw [isConfirmed, List.contains_iff_mem, h.confirmed_eq,
    List.mem_map_of_injective Subscription.canonical_injective]

theorem KeyedBy.nodup_confirmed {b : Book} {subs : List Subscription} (h : b.KeyedBy subs) :
    b.confirmed.Nodup := by
  rw [h.confirmed_eq]
  exact List.Nodup.map Subscription.canonical_injective h.nodup

theorem KeyedBy.perform {b : Book} {subs : List Subscription} (h : b.KeyedBy subs) (op : Op) :
    ∃ subs', (b.perform op).KeyedBy subs' := by
  cases op with
  | stage s => exact ⟨subs, (Between.confirmed_eq (Or.inr ⟨s, rfl⟩)).trans h.confirmed_eq, h.nodup⟩
  | take => exact ⟨subs, h.confirmed_eq, h.nodup⟩
  | confirm s =>
    simp only [Book.perform, Book.confirm]
    split_ifs with hs
    · exact ⟨subs, h⟩
    · refine ⟨subs ++ [s], by simp [h.confirmed_eq], ?_⟩
      rw [h.isConfirmed_iff] at hs
      exact List.nodup_append.mpr ⟨h.nodup, by simp, by simpa using fun t ht => ne_of_mem_of_not_mem ht hs⟩
  | remove s =>
    refine ⟨subs.filter (· ≠ s), ?_, h.nodup.filter _⟩
    show b.confirmed.filter (· != s.canonical) = _
    rw [h.confirmed_eq, List.filter_map]
    congr 1
    refine List.filter_congr fun t _ => ?_
    have hiff : t.canonical = s.canonical ↔ t = s := Subscription.canonical_injective.eq_iff
    rw [Bool.eq_iff_iff]
    simp [hiff]
  | retireIfIdle =>
    simp only [Book.perform, Book.retireIfIdle]
    split_ifs <;> exact ⟨subs, h.confirmed_eq, h.nodup⟩
  | retire => exact ⟨subs, h.confirmed_eq, h.nodup⟩

end Book

namespace Scene

/-- The control message that the task applies in a move. -/
def acks (sc : Scene) (m : Move) : List Ack := (sc.heard m).filterMap Frame.ack?

/-- The control messages that the task applies in a run, in order. -/
def acksOf (sc : Scene) (moves : List Move) : List Ack := collect move acks sc moves

/-- What a step does to the book says as much about a subscription as what the task applies does. -/
theorem verdicts_bookOp? (s : Subscription) (t : Task) (signal : Signal) :
    (t.bookOp? signal).toList.filterMap (Book.Op.verdict? s) =
      ((t.heard signal).filterMap Frame.ack?).filterMap (Ack.verdict? s) := by
  have hframe (f : Frame) : Task.frameOp? f = f.ack?.bind Ack.bookOp? := by
    unfold Task.frameOp? Frame.ack?
    rcases Message.ofFrame f with fault | _ | ack | event <;> rfl
  have hack (ack : Ack) : ack.bookOp?.bind (Book.Op.verdict? s) = ack.verdict? s := by
    cases ack <;> rfl
  cases hp : t.point with
  | idle =>
    cases signal with
    | incoming i =>
      cases i with
      | frame f =>
        simp only [Task.bookOp?, Task.heard, hp, hframe]
        cases hf : f.ack? with
        | none => simp [hf]
        | some ack =>
          have hverdict := hack ack
          cases hop : ack.bookOp? <;> simp_all [List.filterMap_cons]
      | _ => simp [Task.bookOp?, Task.heard, hp]
    | _ => simp [Task.bookOp?, Task.heard, hp]
  | _ => cases signal <;> simp [Task.bookOp?, Task.heard, hp, Book.Op.verdict?]

theorem verdicts_ops (sc : Scene) (s : Subscription) (m : Move) :
    (sc.ops m).filterMap (Book.Op.verdict? s) = (sc.acks m).filterMap (Ack.verdict? s) := by
  cases m with
  | call c => cases c <;> rfl
  | begin endpoint subscriptions =>
    unfold ops
    split_ifs
    · induction subscriptions with
      | nil => rfl
      | cons t rest ih => exact ih
    · rfl
  | step view signal =>
    unfold ops acks heard
    cases sc.task? with
    | none => rfl
    | some task => exact verdicts_bookOp? s task signal

theorem isSubscribed_play (id : Nat) (settings : StreamConfig) (moves : List Move)
    (s : Subscription) :
    ((start id settings).play moves).session.isSubscribed s = true ↔
      (((start id settings).acksOf moves).filterMap (Ack.verdict? s)).getLast? = some true := by
  have hverdicts : ((start id settings).opsOf moves).filterMap (Book.Op.verdict? s) =
      ((start id settings).acksOf moves).filterMap (Ack.verdict? s) := by
    rw [opsOf, acksOf, ← collect_filterMap, ← collect_filterMap]
    congr 1
    funext sc m
    exact verdicts_ops sc s m
  rw [Session.isSubscribed, book_play, Book.isConfirmed_foldl, hverdicts]
  cases (((start id settings).acksOf moves).filterMap (Ack.verdict? s)).getLast? with
  | none => simp [start, Session.new, Book.new, Book.isConfirmed]
  | some verdict => simp

theorem keyedBy_play (id : Nat) (settings : StreamConfig) (moves : List Move) :
    ∃ subs, ((start id settings).play moves).session.book.KeyedBy subs := by
  rw [book_play]
  exact foldl_invariant (I := fun b : Book => ∃ subs, b.KeyedBy subs)
    (fun _ op h => h.elim fun _ hkeyed => hkeyed.perform op) ⟨[], rfl, List.nodup_nil⟩ _

/-- **Who is subscribed is what the last acknowledgement says.** Whatever callers, transport and clock
do, a subscription is confirmed exactly if some acknowledgement with its channel and its instrument
has been applied, and the last one of these says that it is subscribed. The confirmed keys are those
of some subscriptions, each once. A key is as good as the subscription: two of them are equal only if
channel and instrument are, and a key is the record of the subscription written field by field,
which is also the text of an object with these two fields, in whichever order they are given. -/
theorem subscribed_iff_last_ack (id : Nat) (settings : StreamConfig) (moves : List Move) :
    let session := ((start id settings).play moves).session
    let acks := (start id settings).acksOf moves
    (∀ s, session.isSubscribed s = true ↔
      (acks.filter (Ack.isAbout s)).getLast? = some (.subscribed s)) ∧
    session.book.confirmed.Nodup ∧
    (∃ subs : List Subscription, subs.Nodup ∧
      session.book.confirmed = subs.map Subscription.canonical ∧
      ∀ s, session.isSubscribed s = true ↔ s ∈ subs) ∧
    (∀ s t : Subscription, s.canonical = t.canonical ↔
      s.channel = t.channel ∧ s.instId = t.instId) ∧
    ∀ s : Subscription,
      s.canonical = String.ofList (Subscription.schema.chars (s.channel, s.instId, ())) ∧
      s.canonical = (Json.object [("channel", .str s.channel), ("instId", .str s.instId)]).text ∧
      s.canonical = (Json.object [("instId", .str s.instId), ("channel", .str s.channel)]).text := by
  intro session acks
  obtain ⟨subs, hkeyed⟩ := keyedBy_play id settings moves
  refine ⟨fun s => ?_, hkeyed.nodup_confirmed,
    ⟨subs, hkeyed.nodup, hkeyed.confirmed_eq, hkeyed.isConfirmed_iff⟩, fun s t => ?_,
    fun s => ⟨s.canonical_eq_chars, rfl, rfl⟩⟩
  · exact (isSubscribed_play id settings moves s).trans (Ack.getLast?_verdicts s acks)
  · rw [Subscription.canonical_injective.eq_iff, Subscription.eq_iff]

end Scene

end MarketFeed
