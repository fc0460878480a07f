import MarketFeed.Proofs.Session.Open

/-!
# What follows on a message

Whatever a task can read leads to a look at the book, unless there is something to request
(`Errand.ends`). As it looks the task stops exactly when nothing is confirmed and nothing waits
(`Open.stopsIdle_iff`); otherwise it goes back to waiting (`Open.move_of_looks`).
-/

namespace MarketFeed

/-- Text or bytes that can be read, whether there is a message in them or not. -/
def Frame.isReadable (f : Frame) : Bool :=
  match f, Message.ofFrame f with
  | .text _, .ok _ | .binary _, .ok _ => true
  | .text _, .error fault | .binary _, .error fault => !fault.isFatal
  | _, _ => false

namespace Task

theorem point_takeMessage (s : Session) (t : Task) {m : Except MessageFault (Option Message)}
    (h : ∀ fault, m = .error fault → fault.isFatal = false) :
    (takeMessage s t m).task.point = .settling ∨
      ∃ event, (takeMessage s t m).task.point = .delivering event := by
  rcases m with fault | _ | ack | event
  · refine Or.inl ?_
    rw [takeMessage, h fault rfl, if_neg Bool.false_ne_true]
    rfl
  · exact Or.inl rfl
  · exact Or.inl rfl
  · exact Or.inr ⟨event, rfl⟩

/-- Whatever can be read leads to the look at the book. -/
theorem point_step_of_readable (view : View) (s : Session) {t : Task} {f : Frame}
    (hp : t.point = .idle) (hf : f.isReadable = true) :
    (t.step view s (.incoming (.frame f))).task.point = .settling ∨
      ∃ event, (t.step view s (.incoming (.frame f))).task.point = .delivering event := by
  have hfatal : ∀ fault, Message.ofFrame f = .error fault → fault.isFatal = false := by
    intro fault hfault
    unfold Frame.isReadable at hf
    rw [hfault] at hf
    cases f <;> simp_all
  have hstep : t.step view s (.incoming (.frame f)) = takeFrame view s t f := by
    simp only [step, hp]
    rfl
  rw [hstep]
  cases f with
  | text text => exact point_takeMessage s t hfatal
  | binary bytes => exact point_takeMessage s t hfatal
  | _ => simp [Frame.isReadable] at hf

/-- The second look at the book. -/
theorem step_retiring (view : View) (s : Session) {t : Task} (hp : t.point = .retiring) :
    t.step view s .go =
      if s.book.accepting = true ∧ s.book.isIdle = false then ⟨s, t.goTo .idle, []⟩
      else leave { s with book := { s.book with accepting := false } } t
        [.log (.warning s!"{s.title}: no subscriptions, closing")] := by
  simp only [step, proceed, hp, Book.retireIfIdle_eq]
  split_ifs <;> rfl

end Task

namespace Scene

/-- In a move the task stops because nothing is confirmed and nothing waits: the second look at the
book makes it begin to end. -/
def StopsIdle (sc : Scene) (m : Move) : Prop :=
  sc.point? = some .retiring ∧ (sc.move m).point? = some .ending

/-- In a move the task looks whether the book may retire. -/
def Looks (sc : Scene) (m : Move) : Prop :=
  sc.point? = some .retiring ∧ ∃ view, m = .step view .go

/-- In a move the task hears what has become of a request that it has written. -/
def HearsOfRequest (sc : Scene) (m : Move) : Prop :=
  ∃ batch view r, sc.point? = some (.writing (.request batch)) ∧ m = .step view (.outcome r)

/-! ## The look at the book -/

/-- A task that stops for being idle has looked, and retires the book. -/
theorem StopsIdle.retires {sc : Scene} {m : Move} (h : sc.StopsIdle m) :
    sc.Looks m ∧ (sc.session.book.accepting = false ∨ sc.session.book.isIdle = true) ∧
      (sc.move m).session.book = { sc.session.book with accepting := false } := by
  obtain ⟨hp, hends⟩ := h
  rcases busy_move hp rfl m with ⟨view, signal, p', rfl, -, hp', hwork⟩ | ⟨-, hp', -⟩
  · rw [hends] at hp'
    cases hp'
    generalize hb : (sc.move (.step view signal)).session.book = b at hwork ⊢
    cases hwork with
    | retire hidle => exact ⟨⟨hp, view, rfl⟩, hidle, rfl⟩
  · rw [hends] at hp'
    cases hp'

/-- The task stops exactly when nothing is confirmed and nothing waits as it looks. -/
theorem Open.stopsIdle_iff {sc : Scene} (h : sc.Open) (m : Move) :
    sc.StopsIdle m ↔ sc.Looks m ∧
      sc.session.book.confirmed = [] ∧ sc.session.book.pending = [] := by
  rw [← Book.isIdle_iff]
  constructor
  · intro hstops
    obtain ⟨hlooks, hidle, -⟩ := hstops.retires
    have ha := h.accepting_eq hlooks.1 rfl
    exact ⟨hlooks, hidle.resolve_left (by simp [ha])⟩
  · rintro ⟨⟨hp, view, rfl⟩, hidle⟩
    obtain ⟨p', hp', hwork⟩ := point?_move_step hp .go rfl view
    refine ⟨hp, hp'.trans ?_⟩
    generalize (sc.move (.step view .go)).session.book = b at hwork
    cases hwork with
    | retire _ => rfl
    | keep _ hkeep =>
      rw [hidle] at hkeep
      cases hkeep

/-- A look of the task, with what it sees. -/
theorem Looks.exists_task {sc : Scene} {m : Move} (h : sc.Looks m) :
    ∃ task view, sc.task? = some task ∧ task.point = .retiring ∧ m = .step view .go := by
  obtain ⟨hp, view, rfl⟩ := h
  obtain ⟨task, ht, hpoint⟩ := Option.map_eq_some_iff.mp hp
  exact ⟨task, view, ht, hpoint, rfl⟩

/-- A task that finds something confirmed or waiting goes back to waiting, and that is all. -/
theorem Open.move_of_looks {sc : Scene} (h : sc.Open) {m : Move} (hm : sc.Looks m)
    (hkeep : ¬ (sc.session.book.confirmed = [] ∧ sc.session.book.pending = [])) :
    sc.move m = { sc with task? := sc.task?.map (·.goTo .idle) } ∧ sc.effects m = [] := by
  have ha := h.accepting_eq hm.1 rfl
  obtain ⟨task, view, ht, hpoint, rfl⟩ := hm.exists_task
  rw [← Book.isIdle_iff, Bool.not_eq_true] at hkeep
  have hturn := Task.step_retiring view sc.session hpoint
  rw [if_pos ⟨ha, hkeep⟩] at hturn
  rw [move_step ht, effects_step ht, hturn, ht]
  exact ⟨rfl, rfl⟩

theorem StopsIdle.effects_eq {sc : Scene} {m : Move} (h : sc.StopsIdle m) :
    sc.effects m =
      [.log (.warning s!"{sc.session.title}: no subscriptions, closing")] := by
  obtain ⟨task, view, ht, hpoint, rfl⟩ := h.retires.1.exists_task
  have hends := h.2
  have hturn := Task.step_retiring view sc.session hpoint
  rw [move_step ht, hturn] at hends
  rw [effects_step ht, hturn]
  split_ifs at hends ⊢ with hkeep
  · cases hends
  · rfl

/-! ## How an errand ends -/

theorem Looks.isBusy_move {sc : Scene} {m : Move} (h : sc.Looks m) :
    (sc.move m).isBusy = false := by
  obtain ⟨hp, view, rfl⟩ := h
  obtain ⟨p', hp', hwork⟩ := point?_move_step hp .go rfl view
  rw [isBusy_eq hp']
  generalize (sc.move (.step view .go)).session.book = b at hwork
  cases hwork <;> rfl

/-- The task waits again if its request has been written, and ends otherwise. -/
theorem HearsOfRequest.point?_move {sc : Scene} {view : View} {r : Except FeedError Unit}
    (h : sc.HearsOfRequest (.step view (.outcome r))) :
    (sc.move (.step view (.outcome r))).point? =
      some (match r with
        | .ok _ => .idle
        | .error _ => .ending) := by
  obtain ⟨batch, _, _, hp, heq⟩ := h
  cases heq
  obtain ⟨p', hp', hwork⟩ := point?_move_step hp (.outcome r) rfl view
  rw [hp']
  generalize (sc.move (.step view (.outcome r))).session.book = b at hwork
  cases hwork <;> rfl

theorem HearsOfRequest.isBusy_move {sc : Scene} {m : Move} (h : sc.HearsOfRequest m) :
    (sc.move m).isBusy = false := by
  obtain ⟨batch, view, r, hp, rfl⟩ := id h
  rw [isBusy_eq h.point?_move]
  cases r <;> rfl

/-- The task is on the way from something that it has read: it has not looked at the book yet, or has
found something to request. -/
def Reading (sc : Scene) : Prop :=
  ∃ p, sc.point? = some p ∧
    match p with
    | .delivering _ | .settling | .retiring | .writing (.request _) => True
    | .waking | .flushing => sc.session.book.pending ≠ []
    | _ => False

theorem Reading.move {sc : Scene} (h : sc.Reading) (m : Move) :
    (sc.move m).Reading ∨ sc.Looks m ∨ sc.HearsOfRequest m := by
  obtain ⟨p, hp, hreading⟩ := h
  have hbusy : p.isBusy = true := by cases p <;> simp_all [Point.isBusy]
  rcases busy_move hp hbusy m with ⟨view, signal, p', rfl, -, hp', hwork⟩ | ⟨-, hp', hbetween⟩
  · generalize hb : (sc.move (.step view signal)).session.book = b at hwork
    cases hwork with
    | written w =>
      cases w with
      | request batch => exact Or.inr (Or.inr ⟨batch, view, _, hp, rfl⟩)
      | ping => cases hreading
      | pong payload => cases hreading
    | unwritten w error =>
      cases w with
      | request batch => exact Or.inr (Or.inr ⟨batch, view, _, hp, rfl⟩)
      | ping => cases hreading
      | pong payload => cases hreading
    | delivered event panicked => exact Or.inl ⟨_, hp', trivial⟩
    | notice hpending => exact Or.inl ⟨_, hp', hb ▸ hpending⟩
    | check _ => exact Or.inl ⟨_, hp', trivial⟩
    | flush hpending => exact Or.inl ⟨_, hp', hb ▸ hpending⟩
    | request _ => exact Or.inl ⟨_, hp', trivial⟩
    | stale hnil => exact absurd hnil hreading
    | spare hnil => exact absurd hnil hreading
    | retire _ => exact Or.inr (Or.inl ⟨hp, view, rfl⟩)
    | keep _ _ => exact Or.inr (Or.inl ⟨hp, view, rfl⟩)
  · refine Or.inl ⟨p, hp', ?_⟩
    have hpending : sc.session.book.pending ≠ [] → (sc.move m).session.book.pending ≠ [] := by
      intro hne
      obtain ⟨s, hs⟩ := List.exists_mem_of_ne_nil _ hne
      exact List.ne_nil_of_mem (hbetween.mem_pending hs)
    cases p with
    | waking => exact hpending hreading
    | flushing => exact hpending hreading
    | writing w => cases w <;> exact hreading
    | _ => exact hreading

theorem Reading.isBusy {sc : Scene} (h : sc.Reading) : sc.isBusy = true := by
  obtain ⟨p, hp, hreading⟩ := h
  rw [isBusy_eq hp]
  cases p <;> simp_all [Point.isBusy]

/-- What follows on something read is over with a look at the book or with the outcome of a request. -/
theorem Errand.ends {sc : Scene} {ms : List Move} (h : sc.Errand ms) (hread : sc.Reading)
    (hrest : (sc.play ms).isBusy = false) :
    ∃ before m, ms = before ++ [m] ∧
      ((sc.play before).Looks m ∨ (sc.play before).HearsOfRequest m) := by
  induction ms generalizing sc with
  | nil =>
    rw [play_nil, hread.isBusy] at hrest
    cases hrest
  | cons m ms ih =>
    rcases hread.move m with hreading | hlast
    · obtain ⟨before, last, rfl, hlast⟩ := ih h.2 hreading hrest
      exact ⟨m :: before, last, rfl, hlast⟩
    · have hover : (sc.move m).isBusy = false := by
        rcases hlast with hlooks | hhears
        · exact hlooks.isBusy_move
        · exact hhears.isBusy_move
      cases ms with
      | nil => exact ⟨[], m, rfl, hlast⟩
      | cons m' ms =>
        rw [h.2.1] at hover
        cases hover

end Scene

end MarketFeed
