import MarketFeed.Proofs.Session.Scene

/-!
# The life of a session

Whether a session is alive is read in three parts: the flag of its end, its phase, and whether its
book takes anything. Neither flag nor book ever go back, and the flag is up before the phase can be
closed (`Marked`), so a session that is not alive stays so, whatever happens to it
(`isAlive_move_of_dead`).
-/

namespace MarketFeed

theorem Session.isAlive_eq_false_iff (s : Session) :
    s.isAlive = false ↔ s.closing = true ∨ s.phase = .closed ∨ s.book.accepting = false := by
  unfold isAlive
  cases s.closing <;> cases s.book.accepting <;> simp

/-- A session refuses a subscription only when its book has retired. -/
theorem Session.subscribe_refuses_iff (s : Session) (sub : Subscription) :
    (s.subscribe sub).2.2 = false ↔ s.book.accepting = false := by
  rw [← Book.outcome_eq_closed_iff s.book sub]
  unfold subscribe
  rw [Book.stage_eq]
  cases s.book.outcome sub <;> simp

/-- Whether the flag of the end is up when a task stands here. -/
def Point.isFlagged : Point → Bool
  | .draining | .parting | .closing | .finished => true
  | _ => false

namespace Task

/-- The flag is up before the book retires, and before the phase is closed. -/
structure Marked (s : Session) (t : Task) : Prop where
  closing_of_point : t.point.isFlagged → s.closing
  closing_of_phase : s.phase = .closed → s.closing

theorem marked_new {s : Session} (h : s.phase ≠ .closed) (endpoint : Endpoint) :
    Marked s (.new endpoint) :=
  ⟨fun hp => absurd hp Bool.false_ne_true, fun hp => absurd hp h⟩

/-- What a turn does to the marks of the end. -/
structure Marks (s : Session) (t : Task) (n : Turn) : Prop where
  id_eq : n.session.id = s.id
  closing : s.closing → n.session.closing
  point : n.task.point.isFlagged → t.point.isFlagged ∨ n.session.closing
  phase : n.session.phase = .closed → s.phase = .closed ∨ t.point.isFlagged

theorem Marked.turn {s : Session} {t : Task} {n : Turn} (h : Marked s t) (hn : Marks s t n) :
    Marked n.session n.task := by
  refine ⟨fun hp => ?_, fun hp => ?_⟩
  · rcases hn.point hp with hp | hc
    · exact hn.closing (h.closing_of_point hp)
    · exact hc
  · rcases hn.phase hp with hp | hp
    · exact hn.closing (h.closing_of_phase hp)
    · exact hn.closing (h.closing_of_point hp)

/-! ## The parts of a step -/

/-- A turn that changes only the book of the session, or what waits for the task. -/
theorem marks_of_same {s : Session} {t : Task} {n : Turn} (hid : n.session.id = s.id)
    (hclosing : n.session.closing = s.closing) (hphase : n.session.phase = s.phase)
    (hpoint : n.task.point = t.point ∨ n.task.point.isFlagged = false) : Marks s t n := by
  refine ⟨hid, fun h => hclosing.trans h, fun h => ?_, fun h => Or.inl (hphase.symm.trans h)⟩
  rcases hpoint with hp | hp
  · rw [hp] at h
    exact Or.inl h
  · rw [hp] at h
    cases h

/-- A turn that goes on to another phase. -/
theorem marks_of_enter {s : Session} {t : Task} {n : Turn} (hid : n.session.id = s.id)
    (hclosing : n.session.closing = s.closing) (hphase : n.session.phase ≠ .closed)
    (hpoint : n.task.point.isFlagged → t.point.isFlagged) : Marks s t n :=
  ⟨hid, fun h => hclosing.trans h, fun h => Or.inl (hpoint h), fun h => absurd h hphase⟩

theorem marks_leave (s : Session) (t : Task) (effects : List Effect) :
    Marks s t (leave s t effects) :=
  marks_of_same rfl rfl rfl (Or.inr rfl)

theorem marks_finish {s s' : Session} {t : Task} (hp : t.point.isFlagged) (hid : s'.id = s.id)
    (hclosing : s'.closing = s.closing) (effects : List Effect) :
    Marks s t (finish s' t effects) :=
  ⟨hid, fun h => hclosing.trans h, fun _ => Or.inl hp, fun _ => Or.inr hp⟩

theorem marks_afterStage (s : Session) (t : Task) (stage : Stage) (r : Except FeedError Unit) :
    Marks s t (afterStage s t stage r) := by
  cases r with
  | error error => exact marks_leave s t _
  | ok _ => cases stage <;> exact marks_of_same rfl rfl rfl (Or.inr rfl)

theorem marks_afterWrite (view : View) (s : Session) (t : Task) (w : Write)
    (r : Except FeedError Unit) : Marks s t (afterWrite view s t w r) := by
  cases r with
  | error error => cases w <;> exact marks_leave s t _
  | ok _ =>
    cases w with
    | request subscriptions => exact marks_of_enter rfl rfl nofun fun h => absurd h Bool.false_ne_true
    | ping => exact marks_of_same rfl rfl rfl (Or.inr rfl)
    | pong payload => exact marks_of_same rfl rfl rfl (Or.inr rfl)

theorem marks_beat (view : View) (s : Session) (t : Task) : Marks s t (beat view s t) := by
  have hs : (beat view s t).session = s := by
    unfold beat
    split_ifs <;> rfl
  refine marks_of_same (by rw [hs]) (by rw [hs]) (by rw [hs]) ?_
  unfold beat
  cases view.isOpen with
  | true => simp [goTo, Point.isFlagged]
  | false => simp

theorem marks_takeMessage (s : Session) (t : Task) (m : Except MessageFault (Option Message)) :
    Marks s t (takeMessage s t m) := by
  rcases m with fault | _ | ack | event
  · simp only [takeMessage]
    split_ifs
    · exact marks_leave s t _
    · exact marks_of_same rfl rfl rfl (Or.inr rfl)
  · exact marks_of_same rfl rfl rfl (Or.inr rfl)
  · cases ack <;> exact marks_of_same rfl rfl rfl (Or.inr rfl)
  · exact marks_of_same rfl rfl rfl (Or.inr rfl)

theorem marks_takeIncoming (view : View) (s : Session) (t : Task) (i : Incoming) :
    Marks s t (takeIncoming view s t i) := by
  cases i with
  | ended => exact marks_leave s t _
  | failed error => exact marks_leave s t _
  | frame f =>
    cases f with
    | ping payload => exact marks_of_same rfl rfl rfl (Or.inr rfl)
    | pong payload => exact marks_of_same rfl rfl rfl (Or.inl rfl)
    | close reason => exact marks_leave s t _
    | raw payload => exact marks_of_same rfl rfl rfl (Or.inl rfl)
    | text text => exact marks_takeMessage s t _
    | binary bytes => exact marks_takeMessage s t _

theorem marks_proceed (view : View) (s : Session) (t : Task) : Marks s t (proceed view s t) := by
  unfold proceed
  cases hp : t.point with
  | before stage =>
    dsimp only
    split_ifs
    · exact marks_leave s t _
    · exact marks_of_same rfl rfl rfl (Or.inr rfl)
  | cleared stage =>
    refine marks_of_enter rfl rfl ?_ fun h => absurd h Bool.false_ne_true
    cases stage <;> nofun
  | entered stage => exact marks_of_same rfl rfl rfl (Or.inr rfl)
  | connected =>
    dsimp only
    split_ifs
    · exact marks_leave s t _
    · exact marks_of_same rfl rfl rfl (Or.inr rfl)
    · exact marks_of_same rfl rfl rfl (Or.inr rfl)
  | flushing =>
    dsimp only
    split <;> exact marks_of_enter rfl rfl nofun fun h => absurd h Bool.false_ne_true
  | settling =>
    dsimp only
    split_ifs <;> exact marks_of_same rfl rfl rfl (Or.inr rfl)
  | waking =>
    dsimp only
    split_ifs <;> exact marks_of_same rfl rfl rfl (Or.inr rfl)
  | retiring =>
    dsimp only
    split <;> exact marks_of_same rfl rfl rfl (Or.inr rfl)
  | ending => exact ⟨rfl, fun _ => rfl, fun _ => Or.inr rfl, Or.inl⟩
  | draining =>
    have hflag : t.point.isFlagged := by rw [hp]; rfl
    exact ⟨rfl, id, fun _ => Or.inl hflag, Or.inl⟩
  | parting =>
    have hflag : t.point.isFlagged := by rw [hp]; rfl
    dsimp only
    split_ifs
    · exact marks_of_enter rfl rfl nofun fun _ => hflag
    · exact marks_finish hflag rfl rfl _
  | fresh => exact marks_of_same rfl rfl rfl (Or.inr rfl)
  | _ => exact marks_of_same rfl rfl rfl (Or.inl rfl)

/-! ## The step -/

theorem marks_step (view : View) (s : Session) (t : Task) (signal : Signal) :
    Marks s t (t.step view s signal) := by
  apply step_cases view s t signal
  case stage => exact fun stage r _ _ => marks_afterStage s t stage r
  case write => exact fun w r _ _ => marks_afterWrite view s t w r
  case close =>
    intro r hp _
    have hflag : t.point.isFlagged := by rw [hp]; rfl
    cases r <;> exact marks_finish hflag rfl rfl _
  case delivery =>
    intro event panicked _ _
    cases panicked <;> exact marks_of_same rfl rfl rfl (Or.inr rfl)
  case closeAsked => exact fun _ _ => marks_of_same rfl rfl rfl (Or.inr rfl)
  case tick => exact fun _ _ => marks_beat view s t
  case wake => exact fun _ _ => marks_of_same rfl rfl rfl (Or.inr rfl)
  case incoming => exact fun i _ _ => marks_takeIncoming view s t i
  case go => exact fun _ => marks_proceed view s t
  case stay => exact fun _ _ _ => marks_of_same rfl rfl rfl (Or.inl rfl)

end Task

namespace Scene

/-- A scene with a task that has marked what it has done. -/
def Tidy (sc : Scene) : Prop := ∃ task, sc.task? = some task ∧ Task.Marked sc.session task

theorem Tidy.dead_iff {sc : Scene} (h : sc.Tidy) :
    sc.session.isAlive = false ↔
      sc.session.closing = true ∨ sc.session.book.accepting = false := by
  obtain ⟨task, -, hm⟩ := h
  rw [Session.isAlive_eq_false_iff]
  constructor
  · rintro (hc | hp | ha)
    · exact Or.inl hc
    · exact Or.inl (hm.closing_of_phase hp)
    · exact Or.inr ha
  · rintro (hc | ha)
    · exact Or.inl hc
    · exact Or.inr (Or.inr ha)

theorem move_step {sc : Scene} {task : Task} (h : sc.task? = some task) (view : View)
    (signal : Signal) : sc.move (.step view signal) =
      ⟨(task.step view sc.session signal).session,
        some (task.step view sc.session signal).task⟩ := by
  show (sc.stepTask view signal).1 = _
  unfold stepTask
  rw [h]

theorem move_begin {sc : Scene} {task : Task} (h : sc.task? = some task) (endpoint : Endpoint)
    (subscriptions : List Subscription) : sc.move (.begin endpoint subscriptions) = sc := by
  show (sc.beginTask endpoint subscriptions).1 = sc
  rw [beginTask_of_isSome (by simp [h])]

theorem marks_subscribe (s : Session) (sub : Subscription) :
    (s.subscribe sub).1.id = s.id ∧ (s.subscribe sub).1.closing = s.closing ∧
      (s.subscribe sub).1.phase = s.phase := by
  unfold Session.subscribe
  split <;> exact ⟨rfl, rfl, rfl⟩

/-- What a call leaves of the marks of a session: a close raises the flag, and that is all. -/
theorem marks_obey (s : Session) (c : Call) :
    (s.obey c).1.id = s.id ∧ (s.closing → (s.obey c).1.closing) ∧ (s.obey c).1.phase = s.phase := by
  cases c with
  | subscribe sub =>
    obtain ⟨hid, hclosing, hphase⟩ := marks_subscribe s sub
    exact ⟨hid, fun h => hclosing.trans h, hphase⟩
  | close =>
    show s.close.id = s.id ∧ (s.closing → s.close.closing) ∧ s.close.phase = s.phase
    unfold Session.close
    split_ifs with h
    · exact ⟨rfl, id, rfl⟩
    · exact ⟨rfl, fun _ => rfl, rfl⟩

theorem Tidy.move {sc : Scene} (h : sc.Tidy) (m : Move) : (sc.move m).Tidy := by
  obtain ⟨task, ht, hm⟩ := h
  cases m with
  | call c =>
    obtain ⟨-, hclosing, hphase⟩ := marks_obey sc.session c
    refine ⟨task, ht, fun hp => hclosing (hm.closing_of_point hp), fun hp => ?_⟩
    exact hclosing (hm.closing_of_phase (hphase.symm.trans hp))
  | begin endpoint subscriptions =>
    rw [move_begin ht]
    exact ⟨task, ht, hm⟩
  | step view signal =>
    rw [move_step ht]
    exact ⟨_, rfl, hm.turn (Task.marks_step view sc.session task signal)⟩

theorem Tidy.id_move {sc : Scene} (h : sc.Tidy) (m : Move) :
    (sc.move m).session.id = sc.session.id := by
  obtain ⟨task, ht, -⟩ := h
  cases m with
  | call c => exact (marks_obey sc.session c).1
  | begin endpoint subscriptions => rw [move_begin ht]
  | step view signal =>
    rw [move_step ht]
    exact (Task.marks_step view sc.session task signal).id_eq

theorem Tidy.closing_move {sc : Scene} (h : sc.Tidy) (hc : sc.session.closing = true) (m : Move) :
    (sc.move m).session.closing = true := by
  obtain ⟨task, ht, -⟩ := h
  cases m with
  | call c => exact (marks_obey sc.session c).2.1 hc
  | begin endpoint subscriptions =>
    rw [move_begin ht]
    exact hc
  | step view signal =>
    rw [move_step ht]
    exact (Task.marks_step view sc.session task signal).closing hc

theorem accepting_move {sc : Scene} (h : sc.session.book.accepting = false) (m : Move) :
    (sc.move m).session.book.accepting = false := by
  rw [book_move]
  exact Trace.foldl_invariant (I := fun b : Book => b.accepting = false)
    (fun _ op hb => Book.perform_accepting hb op) h (sc.ops m)

/-- A session that is not alive never becomes alive again. -/
theorem Tidy.isAlive_move_of_dead {sc : Scene} (h : sc.Tidy) (hd : sc.session.isAlive = false)
    (m : Move) : (sc.move m).session.isAlive = false := by
  -- the phase by itself would not do: the next step of a task may leave it
  rw [(h.move m).dead_iff]
  rcases h.dead_iff.mp hd with hc | ha
  · exact Or.inl (h.closing_move hc m)
  · exact Or.inr (accepting_move ha m)

end Scene

end MarketFeed
