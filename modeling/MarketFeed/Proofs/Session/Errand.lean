import MarketFeed.Proofs.Session.Life

/-!
# Errands

What a task does about something that it has heard of, until it waits again or begins to end. Callers
may act between any two of its steps. `Work` says what one step of an errand does to the book and
where it leads, and what holds of errands follows from its cases (`busy_move`). An errand is over
after five steps of the task at most (`Errand.attended_add_left_le`).
-/

namespace MarketFeed

namespace Point

/-- Whether a task that stands here is at work on what it has heard of. -/
def isBusy : Point → Bool
  | .flushing | .writing _ | .delivering _ | .settling | .retiring | .waking => true
  | _ => false

/-- Whether a task that is at work goes on with a signal. -/
def takes : Point → Signal → Bool
  | .writing _, .outcome _ | .delivering _, .delivered _ => true
  | .flushing, .go | .settling, .go | .retiring, .go | .waking, .go => true
  | _, _ => false

/-- How many steps a task is at work at most, from here on. -/
def left : Point → Nat
  | .delivering _ => 5
  | .settling => 4
  | .waking => 3
  | .flushing => 2
  | .writing _ | .retiring => 1
  | _ => 0

end Point

/-- A step of a task that is at work: from a book and a point, on a signal, to a book and a point. -/
inductive Work (b : Book) : Point → Signal → Book → Point → Prop
  | written (w : Write) : Work b (.writing w) (.outcome (.ok ())) b .idle
  | unwritten (w : Write) (error : FeedError) :
    Work b (.writing w) (.outcome (.error error)) b .ending
  | delivered (event : DataEvent) (panicked : Bool) :
    Work b (.delivering event) (.delivered panicked) b .settling
  | notice (h : b.pending ≠ []) : Work b .settling .go b .waking
  | check (h : b.pending = []) : Work b .settling .go b .retiring
  | flush (h : b.pending ≠ []) : Work b .waking .go b .flushing
  | stale (h : b.pending = []) : Work b .waking .go b .idle
  | request (h : b.pending ≠ []) :
    Work b .flushing .go b.take.1 (.writing (.request b.pending))
  | spare (h : b.pending = []) : Work b .flushing .go b.take.1 .idle
  | retire (h : b.accepting = false ∨ b.isIdle = true) :
    Work b .retiring .go { b with accepting := false } .ending
  | keep (ha : b.accepting = true) (hi : b.isIdle = false) : Work b .retiring .go b .idle

namespace Book

theorem isIdle_iff (b : Book) : b.isIdle = true ↔ b.confirmed = [] ∧ b.pending = [] := by
  simp [isIdle]

theorem hasPending_iff (b : Book) : b.hasPending = true ↔ b.pending ≠ [] := by
  simp [hasPending]

theorem retireIfIdle_eq (b : Book) :
    b.retireIfIdle =
      if b.accepting = true ∧ b.isIdle = false then (b, false)
      else ({ b with accepting := false }, true) := by
  obtain ⟨confirmed, pending, capacity, accepting⟩ := b
  unfold retireIfIdle
  cases accepting with
  | false => simp
  | true => cases isIdle ⟨confirmed, pending, capacity, true⟩ <;> simp

end Book

namespace Task

theorem work_step (view : View) (s : Session) {t : Task} {signal : Signal}
    (h : t.point.takes signal = true) :
    Work s.book t.point signal (t.step view s signal).session.book
      (t.step view s signal).task.point := by
  unfold Point.takes at h
  split at h
  · rename_i w r hp
    simp only [step, hp]
    cases r with
    | ok _ => cases w <;> exact .written _
    | error error => cases w <;> exact .unwritten _ error
  · rename_i event panicked hp
    simp only [step, hp]
    exact .delivered event panicked
  · rename_i hp
    simp only [step, proceed, hp, Book.take]
    cases hw : s.book.pending with
    | nil => exact .spare hw
    | cons sub rest =>
      have hrequest := Work.request (b := s.book) (by simp [hw])
      rw [hw] at hrequest
      exact hrequest
  · rename_i hp
    simp only [step, proceed, hp]
    by_cases hw : s.book.pending = []
    · simp [Book.hasPending, hw, goTo, Work.check]
    · simp [Book.hasPending, hw, goTo, Work.notice]
  · rename_i hp
    simp only [step, proceed, hp, Book.retireIfIdle_eq]
    by_cases hk : s.book.accepting = true ∧ s.book.isIdle = false
    · rw [if_pos hk]
      exact .keep hk.1 hk.2
    · rw [if_neg hk]
      refine .retire ?_
      cases ha : s.book.accepting <;> simp_all
  · rename_i hp
    simp only [step, proceed, hp]
    by_cases hw : s.book.pending = []
    · simp [Book.hasPending, hw, goTo, Work.stale]
    · simp [Book.hasPending, hw, goTo, Work.flush]
  · cases h

/-- A task that is at work does nothing on a signal that it does not wait for. -/
theorem step_of_not_takes (view : View) (s : Session) {t : Task} {signal : Signal}
    (hb : t.point.isBusy = true) (h : t.point.takes signal = false) :
    t.step view s signal = ⟨s, t, []⟩ := by
  apply step_cases view s t signal (P := fun n => n = ⟨s, t, []⟩)
  case go =>
    rintro rfl
    unfold proceed
    cases hp : t.point <;> simp_all [Point.isBusy, Point.takes]
  case stay => exact fun _ _ _ => rfl
  all_goals
    intros
    simp_all [Point.isBusy, Point.takes]

end Task

theorem Work.left_lt {b b' : Book} {p p' : Point} {signal : Signal} (h : Work b p signal b' p') :
    p'.left < p.left := by
  cases h <;> simp [Point.left]

/-- What comes between two steps of a task stages a subscription at most. -/
def Between (b b' : Book) : Prop := b' = b ∨ ∃ s, b' = (b.stage s).1

theorem Between.confirmed_eq {b b' : Book} (h : Between b b') : b'.confirmed = b.confirmed := by
  rcases h with rfl | ⟨s, rfl⟩
  · rfl
  · rw [Book.stage_eq]
    split_ifs <;> rfl

theorem Between.accepting_eq {b b' : Book} (h : Between b b') : b'.accepting = b.accepting := by
  rcases h with rfl | ⟨s, rfl⟩
  · rfl
  · rw [Book.stage_eq]
    split_ifs <;> rfl

theorem Between.mem_pending {b b' : Book} (h : Between b b') {s : Subscription}
    (hs : s ∈ b.pending) : s ∈ b'.pending := by
  rcases h with rfl | ⟨sub, rfl⟩
  · exact hs
  · rw [Book.stage_eq]
    split_ifs
    · exact List.mem_append_left _ hs
    · exact hs

namespace Scene

/-- Where the task stands, if there is one. -/
def point? (sc : Scene) : Option Point := sc.task?.map (·.point)

/-- Whether the task is at work on what it has heard of. -/
def isBusy (sc : Scene) : Bool := sc.point?.any Point.isBusy

/-- Whether a move is a step by which the task goes on with its work. -/
def attends (sc : Scene) : Move → Bool
  | .step _ signal => sc.point?.any (·.takes signal)
  | _ => false

theorem isBusy_eq {sc : Scene} {p : Point} (h : sc.point? = some p) : sc.isBusy = p.isBusy := by
  rw [isBusy, h]
  rfl

theorem book_close (s : Session) : s.close.book = s.book := by
  unfold Session.close
  split_ifs <;> rfl

theorem between_call (sc : Scene) (c : Call) :
    Between sc.session.book (sc.move (.call c)).session.book := by
  cases c with
  | subscribe s => exact Or.inr ⟨s, book_subscribe sc.session s⟩
  | close => exact Or.inl (book_close sc.session)

/-- A move while the task is at work: a step of its work, or something that leaves it where it is. -/
theorem busy_move {sc : Scene} {p : Point} (hp : sc.point? = some p) (hb : p.isBusy = true)
    (m : Move) :
    (∃ view signal p', m = .step view signal ∧ sc.attends m = true ∧
        (sc.move m).point? = some p' ∧
        Work sc.session.book p signal (sc.move m).session.book p') ∨
      sc.attends m = false ∧ (sc.move m).point? = some p ∧
        Between sc.session.book (sc.move m).session.book := by
  obtain ⟨task, ht, rfl⟩ := Option.map_eq_some_iff.mp hp
  cases m with
  | call c => exact Or.inr ⟨rfl, hp, between_call sc c⟩
  | begin endpoint subscriptions =>
    rw [move_begin ht]
    exact Or.inr ⟨rfl, hp, Or.inl rfl⟩
  | step view signal =>
    have hattends : sc.attends (.step view signal) = task.point.takes signal := by
      rw [attends, hp]
      rfl
    rw [hattends, move_step ht]
    cases hs : task.point.takes signal with
    | true => exact Or.inl ⟨view, signal, _, rfl, rfl, rfl, Task.work_step view sc.session hs⟩
    | false =>
      rw [Task.step_of_not_takes view sc.session hb hs]
      exact Or.inr ⟨rfl, rfl, Or.inl rfl⟩

theorem point?_move_step {sc : Scene} {p : Point} (hp : sc.point? = some p) (signal : Signal)
    (h : p.takes signal = true) (view : View) :
    ∃ p', (sc.move (.step view signal)).point? = some p' ∧
      Work sc.session.book p signal (sc.move (.step view signal)).session.book p' := by
  obtain ⟨task, ht, rfl⟩ := Option.map_eq_some_iff.mp hp
  rw [move_step ht]
  exact ⟨_, rfl, Task.work_step view sc.session h⟩

/-! ## Whole errands -/

/-- Moves during which the task is at work, up to the last of them. -/
def Errand : Scene → List Move → Prop
  | _, [] => True
  | sc, m :: ms => sc.isBusy = true ∧ (sc.move m).Errand ms

theorem errand_append (sc : Scene) (ms ms' : List Move) :
    sc.Errand (ms ++ ms') ↔ sc.Errand ms ∧ (sc.play ms).Errand ms' := by
  induction ms generalizing sc with
  | nil => simp [Errand]
  | cons m ms ih => simp [Errand, ih, and_assoc]

/-- What every move keeps while the task is at work, an errand keeps. -/
theorem Errand.keeps {I : Scene → Prop} (hmove : ∀ sc m, sc.isBusy = true → I sc → I (sc.move m))
    {sc : Scene} {ms : List Move} (h : sc.Errand ms) (hs : I sc) : I (sc.play ms) := by
  induction ms generalizing sc with
  | nil => exact hs
  | cons m ms ih => exact ih h.2 (hmove sc m h.1 hs)

/-- How many steps of its work the task makes in some moves. -/
def attended : Scene → List Move → Nat
  | _, [] => 0
  | sc, m :: ms => (sc.attends m).toNat + (sc.move m).attended ms

/-- How many steps the task is at work at most. -/
def left (sc : Scene) : Nat := (sc.point?.map Point.left).getD 0

/-- Each step of an errand leaves less to do, and what comes between leaves as much. -/
theorem Errand.attended_add_left_le {sc : Scene} {ms : List Move} (h : sc.Errand ms) :
    sc.attended ms + (sc.play ms).left ≤ sc.left := by
  induction ms generalizing sc with
  | nil => simp [attended]
  | cons m ms ih =>
    obtain ⟨hb, hrest⟩ := h
    obtain ⟨p, hp, hbusy⟩ := (Option.any_eq_true _ _).mp hb
    have hih := ih hrest
    have hleft : sc.left = p.left := by rw [left, hp]; rfl
    rw [attended, play_cons]
    rcases busy_move hp hbusy m with ⟨view, signal, p', -, ha, hp', hwork⟩ | ⟨ha, hp', -⟩
    · have hleft' : (sc.move m).left = p'.left := by rw [left, hp']; rfl
      have hlt := hwork.left_lt
      rw [ha, Bool.toNat_true]
      omega
    · have hleft' : (sc.move m).left = p.left := by rw [left, hp']; rfl
      rw [ha, Bool.toNat_false]
      omega

end Scene

end MarketFeed
