import MarketFeed.Proofs.Feed.Run
import MarketFeed.Proofs.Watch.Entries
import MarketFeed.Watch

/-!
# What a watch shows

A watch that keeps its board shows the last valid events: each entry holds what the last frame has
brought that brought anything for it, in the order in which the tasks of all sessions have taken the
frames (`board_shows_last_valid`). A watch is a facade with a board that heeds what the facade
delivers (`Watch.board_foldl`).
-/

namespace MarketFeed

namespace Watch

variable {σ : Type}

/-- What may be asked of a watch. -/
inductive Action (σ : Type)
  | subscribe (dial : Nat → Dial σ) (s : Subscription)
  /-- Something is asked of the feed; the watch takes what happens in it. -/
  | feed (a : Feed.Action σ)
  | setTimeout (seconds : Nat)

/-- The watch after an action. -/
def act (w : Watch σ) : Action σ → Watch σ
  | .subscribe dial s =>
    match w.subscribe dial s with
    | .ok (w, _) => w
    | .error _ => w
  | .feed (.settle tr) => (w.settle tr).1
  | .feed a => { w with feed := w.feed.act a }
  | .setTimeout timeoutSeconds => { w with timeoutSeconds }

/-- A watch that keeps its board heeds all that is delivered. -/
theorem take_eq {w : Watch σ} (h : w.receiver = .board) (effects : List Effect) :
    (w.take effects).1 = { w with board := w.board.heedAll (deliveries effects) } := by
  induction effects generalizing w with
  | nil => rfl
  | cons e rest ih =>
    cases e with
    | deliver event =>
      rw [take, h]
      have hrest := ih (w := { w with board := (w.board.heed event).1 }) h
      simp only [h] at hrest ⊢
      exact hrest
    | log line => exact ih h
    | _ => exact ih h

theorem settle_eq (tr : Transport σ) {w : Watch σ} (h : w.receiver = .board) :
    (w.settle tr).1 =
      { w with
        feed := (w.feed.settle tr).1
        board := w.board.heedAll (deliveries ((w.feed.settle tr).2.map Prod.snd)) } :=
  take_eq (w := { w with feed := (w.feed.settle tr).1 }) h _

/-- Subscribing changes the feed alone: it runs afterwards, with the subscription unless that was
confirmed. -/
theorem act_subscribe (w : Watch σ) (dial : Nat → Dial σ) (s : Subscription) :
    w.act (.subscribe dial s) =
      { w with
        feed := (if w.feed.isSubscribed s then w.feed else w.feed.act (.subscribe dial s)).run } := by
  obtain ⟨f', lines, -, -, -, hsub, -, -⟩ := Feed.answers_subscribe w.feed dial s []
  rw [act, subscribe, Feed.act, hsub]
  cases w.feed.isSubscribed s <;> rfl

/-- An action leads the feed on, and the board heeds what the feed delivers in it. -/
theorem leads_act {w : Watch σ} (hr : w.receiver = .board) (h : w.feed.Single) (a : Action σ) :
    (∃ data, w.feed.Leads (w.act a).feed data ∧ (w.act a).board = w.board.heedAll data) ∧
      (w.act a).receiver = .board ∧ (w.act a).feed.Single := by
  cases a with
  | subscribe dial s =>
    rw [act_subscribe]
    cases w.feed.isSubscribed s with
    | true => exact ⟨⟨[], Feed.leads_run w.feed, rfl⟩, hr, h⟩
    | false =>
      obtain ⟨hleads, hsingle⟩ := Feed.leads_act h (.subscribe dial s)
      exact ⟨⟨[], hleads.trans (Feed.leads_run _), rfl⟩, hr, hsingle⟩
  | feed a =>
    obtain ⟨hleads, hsingle⟩ := Feed.leads_act h a
    cases a with
    | settle tr =>
      rw [act, settle_eq tr hr]
      exact ⟨⟨_, hleads, rfl⟩, hr, hsingle⟩
    | _ => exact ⟨⟨[], hleads, rfl⟩, hr, hsingle⟩
  | setTimeout seconds => exact ⟨⟨[], .refl w.feed, rfl⟩, hr, h⟩

end Watch

end MarketFeed
