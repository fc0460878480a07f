import MarketFeed.Proofs.Session.Errand
import MarketFeed.Proofs.Session.Requests

/-!
# How long a book is open

A book takes subscriptions until the end of its task begins (`open_play`): it retires in two places
only, and the task ends behind both.
-/

namespace MarketFeed

open Trace

namespace Book

theorem accepting_perform {b : Book} {op : Op} (hidle : op ≠ .retireIfIdle) (hretire : op ≠ .retire) :
    (b.perform op).accepting = b.accepting := by
  cases op with
  | stage s => exact Between.accepting_eq (Or.inr ⟨s, rfl⟩)
  | confirm s =>
    simp only [perform, confirm]
    split_ifs <;> rfl
  | take => rfl
  | remove s => rfl
  | retireIfIdle => exact absurd rfl hidle
  | retire => exact absurd rfl hretire

end Book

theorem Point.isEnding_of_isDrained {p : Point} (h : p.isDrained = true) : p.isEnding = true := by
  cases p <;> first | rfl | cases h

namespace Task

theorem of_bookOp?_retireIfIdle {t : Task} {signal : Signal}
    (h : t.bookOp? signal = some .retireIfIdle) : t.point = .retiring ∧ signal = .go := by
  unfold bookOp? at h
  split at h
  · cases h
  · exact ⟨‹_›, rfl⟩
  · cases h
  · rename_i f _
    rcases frameOp?_cases f with hop | ⟨s, hop⟩ | ⟨s, hop⟩ <;> rw [hop] at h <;> cases h
  · cases h

/-- A step leaves the book open, or the end begins. -/
theorem open_step (view : View) (s : Session) {t : Task} (signal : Signal)
    (h : s.book.accepting = true) :
    (t.step view s signal).session.book.accepting = true ∨
      (t.step view s signal).task.point.isEnding = true := by
  by_cases hidle : t.bookOp? signal = some .retireIfIdle
  · obtain ⟨hp, rfl⟩ := of_bookOp?_retireIfIdle hidle
    have htakes : t.point.takes .go = true := by rw [hp]; rfl
    have hwork := work_step view s htakes
    rw [hp] at hwork
    generalize (t.step view s .go).session.book = b at hwork ⊢
    generalize (t.step view s .go).task.point = p at hwork ⊢
    cases hwork with
    | retire _ => exact Or.inr rfl
    | keep ha _ => exact Or.inl ha
  by_cases hretire : t.bookOp? signal = some .retire
  · have hdrained := isDrained_of_bookOp? view s hretire
    exact Or.inr (Point.isEnding_of_isDrained hdrained)
  · rw [step_book]
    cases hop : t.bookOp? signal with
    | none => exact Or.inl h
    | some op =>
      rw [hop] at hidle hretire
      exact Or.inl ((Book.accepting_perform (mt (congrArg some) hidle)
        (mt (congrArg some) hretire)).trans h)

end Task

namespace Scene

/-- The book takes subscriptions, or the end of the task has begun. -/
def Open (sc : Scene) : Prop := sc.session.book.accepting = true ∨ sc.isEnding = true

theorem accepting_stages (b : Book) (subscriptions : List Subscription) :
    ((subscriptions.map Book.Op.stage).foldl Book.perform b).accepting = b.accepting := by
  induction subscriptions generalizing b with
  | nil => rfl
  | cons s rest ih =>
    have hstage : (b.stage s).1.accepting = b.accepting :=
      Between.accepting_eq (Or.inr ⟨s, rfl⟩)
    exact (ih (b.stage s).1).trans hstage

theorem Open.move {sc : Scene} (h : sc.Open) (m : Move) : (sc.move m).Open := by
  rcases h with ha | hending
  · cases m with
    | call c => exact Or.inl ((between_call sc c).accepting_eq.trans ha)
    | begin endpoint subscriptions =>
      left
      rw [book_move, ops]
      split_ifs
      · exact (accepting_stages _ subscriptions).trans ha
      · exact ha
    | step view signal =>
      cases ht : sc.task? with
      | none =>
        rw [move_step_of_isNone ht]
        exact Or.inl ha
      | some task =>
        rw [move_step ht]
        exact Task.open_step view sc.session signal ha
  · exact Or.inr (isEnding_move hending m)

theorem Open.play {sc : Scene} (h : sc.Open) (moves : List Move) : (sc.play moves).Open :=
  foldl_invariant (I := Open) (fun _ m h => h.move m) h moves

theorem Open.accepting_eq {sc : Scene} (h : sc.Open) {p : Point} (hp : sc.point? = some p)
    (hends : p.isEnding = false) : sc.session.book.accepting = true := by
  obtain ⟨task, ht, rfl⟩ := Option.map_eq_some_iff.mp hp
  refine h.resolve_right fun hending => ?_
  rw [isEnding, ht, Option.any_some, hends] at hending
  cases hending

theorem open_play (id : Nat) (settings : StreamConfig) (moves : List Move) :
    ((start id settings).play moves).Open :=
  Open.play (Or.inl rfl) moves

end Scene

end MarketFeed
