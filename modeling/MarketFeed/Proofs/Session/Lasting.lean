import MarketFeed.Proofs.Session.Errand
import MarketFeed.Proofs.Session.Passage

/-!
# What lasts in a session

What no move changes, and what the phase of a session tells of its run (`follows_play`): it is the
last one that was entered. And the first request of a session is never empty (`laden_play`): what was
staged as the task began waits until the task takes it.
-/

namespace MarketFeed

open Trace

/-! ## Phases -/

def Effect.phase? : Effect → Option Phase
  | .enter phase => some phase
  | _ => none

/-- The phases among effects that a session enters, in order. -/
def phases (effects : List Effect) : List Phase := effects.filterMap Effect.phase?

@[simp] theorem phases_append (es es' : List Effect) : phases (es ++ es') = phases es ++ phases es' :=
  List.filterMap_append

@[simp] theorem phases_logs (lines : List LogLine) : phases (lines.map .log) = [] := by
  induction lines with
  | nil => rfl
  | cons l ls ih => exact ih

/-- The phase after some effects: the last one that was entered. -/
def phaseAfter (phase : Phase) (effects : List Effect) : Phase :=
  (phases effects).getLast?.getD phase

theorem phaseAfter_append (phase : Phase) (es es' : List Effect) :
    phaseAfter phase (es ++ es') = phaseAfter (phaseAfter phase es) es' := by
  rw [phaseAfter, phases_append, List.getLast?_append, phaseAfter, phaseAfter]
  cases (phases es').getLast? <;> rfl

theorem phaseAfter_logs (phase : Phase) (lines : List LogLine) :
    phaseAfter phase (lines.map .log) = phase := by
  rw [phaseAfter, phases_logs]
  rfl

/-! ## What is never taken back -/

/-- What stays as it is in a session, a flag that is not taken down, and the phase that effects tell
of. -/
structure Session.Follows (s s' : Session) (effects : List Effect) : Prop where
  id_eq : s'.id = s.id
  settings_eq : s'.settings = s.settings
  closing : s.closing = true → s'.closing = true
  phase_eq : s'.phase = phaseAfter s.phase effects

theorem Session.Follows.refl (s : Session) : s.Follows s [] := ⟨rfl, rfl, fun h => h, rfl⟩

theorem Session.Follows.trans {s s' s'' : Session} {es es' : List Effect} (h : s.Follows s' es)
    (h' : s'.Follows s'' es') : s.Follows s'' (es ++ es') where
  id_eq := h'.id_eq.trans h.id_eq
  settings_eq := h'.settings_eq.trans h.settings_eq
  closing hc := h'.closing (h.closing hc)
  phase_eq := by rw [h'.phase_eq, h.phase_eq, phaseAfter_append]

namespace Task

theorem follows_proceed (view : View) (s : Session) (t : Task) :
    s.Follows (proceed view s t).session (proceed view s t).effects := by
  unfold proceed
  cases t.point with
  | before stage =>
    dsimp only
    split_ifs <;> exact ⟨rfl, rfl, id, rfl⟩
  | connected =>
    dsimp only
    split_ifs <;> exact ⟨rfl, rfl, id, rfl⟩
  | flushing =>
    dsimp only
    split <;> exact ⟨rfl, rfl, id, rfl⟩
  | retiring =>
    dsimp only
    split <;> exact ⟨rfl, rfl, id, rfl⟩
  | parting =>
    dsimp only
    split_ifs <;> exact ⟨rfl, rfl, id, rfl⟩
  | ending => exact ⟨rfl, rfl, fun _ => rfl, rfl⟩
  | _ => exact ⟨rfl, rfl, id, rfl⟩

theorem follows_takeIncoming (view : View) (s : Session) (t : Task) (i : Incoming) :
    s.Follows (takeIncoming view s t i).session (takeIncoming view s t i).effects := by
  have hmessage : ∀ m, s.Follows (takeMessage s t m).session (takeMessage s t m).effects := by
    rintro (fault | _ | ack | event)
    · rw [takeMessage]
      split_ifs <;> exact ⟨rfl, rfl, id, rfl⟩
    · exact .refl s
    · cases ack <;> exact ⟨rfl, rfl, id, rfl⟩
    · exact ⟨rfl, rfl, id, rfl⟩
  cases i with
  | frame f => cases f <;> first | exact ⟨rfl, rfl, id, rfl⟩ | exact hmessage _
  | _ => exact ⟨rfl, rfl, id, rfl⟩

theorem follows_step (view : View) (s : Session) (t : Task) (signal : Signal) :
    s.Follows (t.step view s signal).session (t.step view s signal).effects := by
  apply step_cases view s t signal (P := fun n => s.Follows n.session n.effects)
  case stage =>
    intro stage r _ _
    cases r <;> cases stage <;> exact ⟨rfl, rfl, id, rfl⟩
  case write =>
    intro w r _ _
    cases w <;> cases r <;> exact ⟨rfl, rfl, id, rfl⟩
  case close =>
    intro r _ _
    cases r <;> exact ⟨rfl, rfl, id, rfl⟩
  case delivery =>
    intro event panicked _ _
    cases panicked <;> exact ⟨rfl, rfl, id, rfl⟩
  case closeAsked => exact fun _ _ => ⟨rfl, rfl, id, rfl⟩
  case tick =>
    intro _ _
    unfold beat
    split_ifs <;> exact ⟨rfl, rfl, id, rfl⟩
  case wake => exact fun _ _ => ⟨rfl, rfl, id, rfl⟩
  case incoming => exact fun i _ _ => follows_takeIncoming view s t i
  case go => exact fun _ => follows_proceed view s t
  case stay => exact fun _ _ _ => .refl s

end Task

namespace Scene

theorem follows_call (s : Session) (c : Call) :
    s.Follows (s.obey c).1 ((s.obey c).2.map .log) := by
  cases c with
  | subscribe sub =>
    show s.Follows (s.subscribe sub).1 ((s.subscribe sub).2.1.map .log)
    unfold Session.subscribe
    split <;> exact ⟨rfl, rfl, id, rfl⟩
  | close =>
    show s.Follows s.close []
    unfold Session.close
    split_ifs
    · exact .refl s
    · exact ⟨rfl, rfl, fun _ => rfl, rfl⟩

theorem follows_stageAll (s : Session) (subscriptions : List Subscription) :
    s.Follows (s.stageAll subscriptions).1 ((s.stageAll subscriptions).2.map .log) := by
  induction subscriptions generalizing s with
  | nil => exact .refl s
  | cons sub rest ih =>
    have hrest := ih { s with book := (s.book.stage sub).1 }
    refine ⟨hrest.id_eq, hrest.settings_eq, hrest.closing, ?_⟩
    rw [phaseAfter_logs]
    exact hrest.phase_eq.trans (phaseAfter_logs _ _)

theorem follows_move (sc : Scene) (m : Move) :
    sc.session.Follows (sc.move m).session (sc.effects m) := by
  cases m with
  | call c => exact follows_call sc.session c
  | begin endpoint subscriptions =>
    show sc.session.Follows (sc.beginTask endpoint subscriptions).1.session
      (sc.beginTask endpoint subscriptions).2
    cases ht : sc.task? with
    | some task =>
      rw [beginTask_of_isSome (by simp [ht])]
      exact .refl _
    | none =>
      by_cases hs : subscriptions = []
      · rw [hs, beginTask_nil]
        exact .refl _
      · rw [beginTask_of_isNone ht endpoint hs]
        exact follows_stageAll sc.session subscriptions
  | step view signal =>
    show sc.session.Follows (sc.stepTask view signal).1.session (sc.stepTask view signal).2
    unfold stepTask
    cases sc.task? with
    | none => exact .refl _
    | some task => exact Task.follows_step view sc.session task signal

theorem follows_play (sc : Scene) (moves : List Move) :
    sc.session.Follows (sc.play moves).session (sc.effectsOf moves) := by
  induction moves generalizing sc with
  | nil => exact .refl _
  | cons m ms ih => exact (follows_move sc m).trans (ih (sc.move m))

end Scene

/-! ## What waits until the first request -/

/-- Whether what was staged as the task began waits when the task stands here. -/
def Point.isLaden : Point → Bool
  | .fresh | .before _ | .cleared _ | .entered _ | .during _ | .connected | .flushing => true
  | _ => false

theorem Point.eq_flushing_of_isLaden {p : Point} (h : p.isLaden = true) (hp : p.isStreaming = true) :
    p = .flushing := by
  cases p <;> simp_all [isLaden, isStreaming]

theorem Between.pending_ne_nil {b b' : Book} (h : Between b b') (hb : b.pending ≠ []) :
    b'.pending ≠ [] := by
  obtain ⟨s, hs⟩ := List.exists_mem_of_ne_nil _ hb
  exact List.ne_nil_of_mem (h.mem_pending hs)

theorem Between.capacity_eq {b b' : Book} (h : Between b b') : b'.capacity = b.capacity := by
  rcases h with rfl | ⟨s, rfl⟩
  · rfl
  · exact Book.perform_capacity b (.stage s)

namespace Book

/-- Where nothing is confirmed and there is room, the first of some subscriptions waits. -/
theorem pending_ne_nil_stages {b : Book} (hconfirmed : b.confirmed = [])
    (haccepting : b.accepting = true) (hroom : 0 < b.capacity) {subscriptions : List Subscription}
    (hs : subscriptions ≠ []) : ((subscriptions.map Op.stage).foldl perform b).pending ≠ [] := by
  obtain ⟨s, rest, rfl⟩ := List.exists_cons_of_ne_nil hs
  have hbetween : Between b (b.stage s).1 := Or.inr ⟨s, rfl⟩
  have hfirst : (b.stage s).1.pending ≠ [] := by
    rcases stage_cases haccepting s with hc | hp | ⟨-, hfull⟩
    · simp [isConfirmed, hbetween.confirmed_eq, hconfirmed] at hc
    · exact List.ne_nil_of_mem hp
    · intro hnil
      rw [hnil, hbetween.capacity_eq] at hfull
      exact absurd hfull (Nat.not_le.mpr hroom)
  have hrest : ∀ (rest : List Subscription) (c : Book), c.pending ≠ [] →
      ((rest.map Op.stage).foldl perform c).pending ≠ [] := by
    intro rest
    induction rest with
    | nil => exact fun c hc => hc
    | cons t rest ih => exact fun c hc => ih _ (Between.pending_ne_nil (Or.inr ⟨t, rfl⟩) hc)
  exact hrest rest _ hfirst

end Book

namespace Task

/-- A task that comes to stand where something waits comes from where it did, and has left the book
alone. -/
theorem laden_step (view : View) (s : Session) {t : Task} (signal : Signal)
    (h : (t.step view s signal).task.point.isLaden = true) :
    (t.step view s signal).session.book = s.book ∧
      (t.point.isLaden = true ∨ s.book.pending ≠ []) := by
  have hbook := step_book view s t signal
  have hpassage := passage_step view s t signal
  generalize (t.step view s signal).task.point = p' at h hpassage
  generalize (t.step view s signal).effects = effects at hpassage
  unfold bookOp? at hbook
  generalize t.point = p at hbook hpassage ⊢
  cases hpassage with
  | setOut endpoint => exact ⟨hbook, Or.inl rfl⟩
  | clear stage _ => exact ⟨hbook, Or.inl rfl⟩
  | enter stage => exact ⟨hbook, Or.inl rfl⟩
  | begin stage => exact ⟨hbook, Or.inl rfl⟩
  | pass stage next _ => exact ⟨hbook, Or.inl rfl⟩
  | arrive stage _ => exact ⟨hbook, Or.inl rfl⟩
  | start _ _ => exact ⟨hbook, Or.inl rfl⟩
  | attend _ _ _ _ _ _ hp' _ hflush _ =>
    obtain ⟨rfl, hw⟩ := hflush (Point.eq_flushing_of_isLaden h hp')
    exact ⟨hbook, Or.inr hw⟩
  | stay _ _ _ hgo =>
    refine ⟨?_, Or.inl h⟩
    cases p' with
    | flushing =>
      cases signal with
      | go => exact absurd rfl (hgo rfl).1
      | _ => exact hbook
    | fresh => exact hbook
    | before stage => exact hbook
    | cleared stage => exact hbook
    | entered stage => exact hbook
    | during stage => exact hbook
    | connected => exact hbook
    | _ => cases h
  | _ => cases h

end Task

namespace Scene

/-- Until a task begins there is room in the book, and from then on something waits until the task
takes it. -/
structure Laden (sc : Scene) : Prop where
  confirmed : sc.task? = none → sc.session.book.confirmed = []
  accepting : sc.task? = none → sc.session.book.accepting = true
  room : 0 < sc.session.book.capacity
  waits : ∀ p, sc.point? = some p → p.isLaden = true → sc.session.book.pending ≠ []

theorem capacity_move (sc : Scene) (m : Move) :
    (sc.move m).session.book.capacity = sc.session.book.capacity := by
  rw [book_move]
  exact foldl_invariant (I := fun b : Book => b.capacity = sc.session.book.capacity)
    (fun b op h => (Book.perform_capacity b op).trans h) rfl _

theorem Laden.move {sc : Scene} (h : sc.Laden) (m : Move) : (sc.move m).Laden := by
  have hroom : 0 < (sc.move m).session.book.capacity := by
    rw [capacity_move]
    exact h.room
  cases m with
  | call c =>
    have hbetween := between_call sc c
    refine ⟨fun ht => hbetween.confirmed_eq.trans (h.confirmed ht),
      fun ht => hbetween.accepting_eq.trans (h.accepting ht), hroom, fun p hp hladen => ?_⟩
    exact hbetween.pending_ne_nil (h.waits p hp hladen)
  | begin endpoint subscriptions =>
    cases ht : sc.task? with
    | some task =>
      rw [move_begin ht]
      exact h
    | none =>
      by_cases hs : subscriptions = []
      · have hsame : sc.move (.begin endpoint subscriptions) = sc := by
          rw [hs]
          exact congrArg Prod.fst (beginTask_nil sc endpoint)
        rw [hsame]
        exact h
      · have hmove : (sc.move (.begin endpoint subscriptions)).task? = some (.new endpoint) := by
          show (sc.beginTask endpoint subscriptions).1.task? = _
          rw [beginTask_of_isNone ht endpoint hs]
        refine ⟨fun hn => ?_, fun hn => ?_, hroom, fun p _ _ => ?_⟩
        · cases hmove.symm.trans hn
        · cases hmove.symm.trans hn
        · rw [book_move, ops, ht, Option.isNone_none, if_pos rfl]
          exact Book.pending_ne_nil_stages (h.confirmed ht) (h.accepting ht) h.room hs
  | step view signal =>
    cases ht : sc.task? with
    | none =>
      rw [move_step_of_isNone ht]
      exact h
    | some task =>
      rw [move_step ht] at hroom ⊢
      refine ⟨(by cases ·), (by cases ·), hroom, fun p hp hladen => ?_⟩
      cases hp
      obtain ⟨hbook, hwaits⟩ := Task.laden_step view sc.session signal hladen
      show (task.step view sc.session signal).session.book.pending ≠ []
      rw [hbook]
      exact hwaits.elim (h.waits task.point (by rw [point?, ht]; rfl)) id

theorem laden_play (id : Nat) (settings : StreamConfig) (moves : List Move) :
    ((start id settings).play moves).Laden :=
  foldl_invariant (I := Laden) (fun _ m h => h.move m)
    ⟨fun _ => rfl, fun _ => rfl, Nat.lt_of_lt_of_le Nat.one_pos (Nat.le_max_left 1 settings.capacity),
      fun _ hp => by cases hp⟩ moves

end Scene

end MarketFeed
