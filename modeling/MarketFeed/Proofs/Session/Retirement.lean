import MarketFeed.Proofs.Session.Delivery
import MarketFeed.Proofs.Session.Idle
import MarketFeed.Proofs.Session.StateGraph

/-!
# Retirement

However a session ends, it ends in the same way (`ends_retired`): the flag is up, the book has retired
with nothing waiting, the transport is closed if it said that it is connected, the phase is closed, and
nothing that anybody does changes the session after that. From the moment at which the end begins a
task asks nothing of its transport but whether it is connected, and to close (`run_ending`).
-/

namespace MarketFeed

open Trace

/-! ## Running to the end -/

namespace Running

variable {σ : Type}

/-- What is said of a close. -/
def closeLines (s : Session) : Except FeedError Unit → List Effect
  | .ok _ => []
  | .error error => [.log (.warning s!"{s.title}: close failed: {error.message}")]

/-- What becomes of a task that looks at the connection for the last time, if nobody else acts. -/
def parted (tr : Transport σ) (here : Situation) (r : Running σ) :
    Situation × Running σ × List Effect :=
  let here' := { here with session := here.session.enter .closed }
  let last := [Effect.enter .closed, .log here.session.closedLine]
  if tr.isOpen r.link then
    (here', { r with task := r.task.goTo .finished, link := (tr.close r.link).2 },
      [.enter .closing, .close] ++ closeLines here.session (tr.close r.link).1 ++ last)
  else (here', { r with task := r.task.goTo .finished }, .enter .closing :: last)

/-- What becomes of a task whose end begins, if nobody else acts: the session retires, and then the
task looks at the connection. -/
def ended (tr : Transport σ) (here : Situation) (r : Running σ) :
    Situation × Running σ × List Effect :=
  let session := { here.session with closing := true, book := here.session.book.retire }
  r.parted tr { here with session }

theorem run_of_next? {tr : Transport σ} {here here' : Situation} {r r' : Running σ}
    {effects : List Effect} (h : r.next? tr here = some (here', r', effects)) (fuel : Nat) :
    r.run tr (fuel + 1) here =
      ((r'.run tr fuel here').1, (r'.run tr fuel here').2.1,
        effects ++ (r'.run tr fuel here').2.2) := by
  rw [run, h]

theorem run_of_isOver (tr : Transport σ) (here : Situation) {r : Running σ} (h : r.isOver = true)
    (fuel : Nat) : r.run tr fuel here = (here, r, []) := by
  have hnone : r.next? tr here = none := by
    unfold isOver Point.isLast at h
    unfold next?
    split at h <;> simp_all
  cases fuel with
  | zero => rfl
  | succ fuel => rw [run, hnone]

/-! The steps of the end. -/

section
variable (tr : Transport σ) (here : Situation) {r : Running σ}

theorem next?_ending (h : r.task.point = .ending) :
    r.next? tr here = some ({ here with session := { here.session with closing := true } },
      { r with task := r.task.goTo .draining }, []) := by
  simp [next?, turn, Task.step, Task.proceed, h]

theorem next?_draining (h : r.task.point = .draining) :
    r.next? tr here = some
      ({ here with session := { here.session with book := here.session.book.retire } },
        { r with task := r.task.goTo .parting }, []) := by
  simp [next?, turn, Task.step, Task.proceed, h]

theorem next?_parting_of_open (h : r.task.point = .parting) (hopen : tr.isOpen r.link = true) :
    r.next? tr here = some ({ here with session := here.session.enter .closing },
      { r with task := r.task.goTo .closing }, [.enter .closing, .close]) := by
  simp [next?, turn, Task.step, Task.proceed, h, hopen]

theorem next?_parting_of_shut (h : r.task.point = .parting) (hopen : tr.isOpen r.link = false) :
    r.next? tr here = some ({ here with session := here.session.enter .closed },
      { r with task := r.task.goTo .finished },
      [.enter .closing, .enter .closed, .log here.session.closedLine]) := by
  simp [next?, turn, Task.step, Task.proceed, Task.finish, h, hopen, Session.enter,
    Session.closedLine, Session.title]

theorem next?_closing (h : r.task.point = .closing) :
    r.next? tr here = some ({ here with session := here.session.enter .closed },
      { r with task := r.task.goTo .finished, link := (tr.close r.link).2 },
      closeLines here.session (tr.close r.link).1 ++
        [.enter .closed, .log here.session.closedLine]) := by
  simp only [next?, turn, Task.step, h]
  cases (tr.close r.link).1 <;> rfl

end

theorem run_parting (tr : Transport σ) (here : Situation) {r : Running σ}
    (h : r.task.point = .parting) (fuel : Nat) : r.run tr (fuel + 2) here = r.parted tr here := by
  cases hopen : tr.isOpen r.link with
  | true =>
    rw [run_of_next? (next?_parting_of_open tr here h hopen), run_of_next? (next?_closing tr _ rfl),
      run_of_isOver tr _ rfl, parted, if_pos hopen, List.append_nil, List.append_assoc]
    rfl
  | false =>
    rw [run_of_next? (next?_parting_of_shut tr here h hopen), run_of_isOver tr _ rfl, parted,
      if_neg (ne_true_of_eq_false hopen), List.append_nil]

/-- From the beginning of the end a task is over in four steps, and asks nothing of the transport but
whether it is connected, and to close if it is. -/
theorem run_ending (tr : Transport σ) (here : Situation) {r : Running σ}
    (h : r.task.point = .ending) (fuel : Nat) : r.run tr (fuel + 4) here = r.ended tr here := by
  rw [run_of_next? (next?_ending tr here h), run_of_next? (next?_draining tr _ rfl),
    run_parting tr _ rfl]
  rfl

end Running

/-! ## The end of a task -/

/-- Whether an effect may belong to the end: the transport is asked for nothing but to close. -/
def Effect.isOfEnd : Effect → Bool
  | .log _ | .enter _ | .close => true
  | .begin _ | .write _ | .deliver _ => false

theorem Point.eq_finished {p : Point} (h : p.isLast = true) (hp : p.isEnding = true) :
    p = .finished := by
  cases p <;> simp_all [isLast, isEnding]

theorem Passage.isOfEnd {view : View} {s : Session} {p p' : Point} {signal : Signal}
    {effects : List Effect} (h : Passage view s p signal p' effects) (hp : p.isEnding = true) :
    ∀ e ∈ effects, e.isOfEnd = true := by
  cases h with
  | drain => exact nofun
  | part => exact nofun
  | close _ => simp [Effect.isOfEnd]
  | skip _ => simp [Effect.isOfEnd]
  | finish r warnings _ => simp [Effect.isOfEnd, or_imp, forall_and]
  | attend _ _ _ _ hp' _ _ _ _ _ => cases (Point.isStreaming_of_isEnding hp).symm.trans hp'
  | leave _ _ _ hp' _ _ => cases (Point.isStreaming_of_isEnding hp).symm.trans hp'
  | stay _ _ _ _ => exact nofun
  | _ => cases hp

namespace Task

/-- A task whose end has begun takes nothing any more. -/
theorem heard_of_isEnding {t : Task} (h : t.point.isEnding = true) (signal : Signal) :
    t.heard signal = [] := by
  unfold heard
  split
  · rename_i hp
    rw [hp] at h
    cases h
  · rfl

/-- A finished task does nothing. -/
theorem step_of_finished (view : View) (s : Session) {t : Task} (h : t.point = .finished)
    (signal : Signal) : t.step view s signal = ⟨s, t, []⟩ := by
  cases signal <;> simp [step, proceed, h]

/-- The book retires before the task looks at the connection for the last time. -/
theorem retired_step (view : View) (s : Session) {t : Task} (signal : Signal)
    (h : (t.step view s signal).task.point.isDrained = true) :
    t.point.isDrained = true ∨ (t.step view s signal).session.book.accepting = false := by
  have hbook := step_book view s t signal
  have hpassage := passage_step view s t signal
  generalize (t.step view s signal).task.point = p' at h hpassage
  generalize (t.step view s signal).effects = effects at hpassage
  unfold bookOp? at hbook
  generalize t.point = p at hbook hpassage ⊢
  cases hpassage with
  | part =>
    right
    rw [hbook]
    rfl
  | close _ => exact Or.inl rfl
  | skip _ => exact Or.inl rfl
  | finish r warnings _ => exact Or.inl rfl
  | attend _ _ _ _ _ _ hp' _ _ _ =>
    have hstreams := Point.isStreaming_of_isEnding (Point.isEnding_of_isDrained h)
    cases hp'.symm.trans hstreams
  | stay _ _ _ _ => exact Or.inl h
  | _ => cases h

end Task

namespace Scene

theorem isDrained_eq (sc : Scene) : sc.isDrained = sc.place.isDrained := by
  rw [isDrained, place, point?]
  cases sc.task? <;> rfl

/-! ## Where the marks of the end are found -/

/-- The book has retired when the task looks at the connection, and after that. -/
theorem accepting_play (id : Nat) (settings : StreamConfig) (moves : List Move)
    (hdrained : ((start id settings).play moves).isDrained = true) :
    ((start id settings).play moves).session.book.accepting = false := by
  refine foldl_invariant
    (I := fun sc : Scene => sc.isDrained = true → sc.session.book.accepting = false) ?_
    (fun h => by cases h) moves hdrained
  intro sc m ih h
  by_cases hsc : sc.isDrained = true
  · exact accepting_move (ih hsc) m
  rw [isDrained_eq] at h hsc
  rcases sc.move_cases m with ⟨-, hplace⟩ | ⟨task, view, signal, ht, rfl, -, -⟩
  · rw [hplace] at h
    exact absurd h hsc
  · rw [place_eq ht] at hsc
    rw [move_step ht] at h ⊢
    exact (Task.retired_step view sc.session signal h).resolve_left hsc

/-- A task marks what it has done, from its beginning on. -/
theorem tidy_play (id : Nat) (settings : StreamConfig) (moves : List Move) :
    ((start id settings).play moves).task? = none ∨ ((start id settings).play moves).Tidy := by
  have hplay : ((start id settings).play moves).task? = none ∧
      ((start id settings).play moves).session.phase ≠ .closed ∨
        ((start id settings).play moves).Tidy := by
    refine foldl_invariant
      (I := fun sc : Scene => sc.task? = none ∧ sc.session.phase ≠ .closed ∨ sc.Tidy) ?_
      (Or.inl ⟨rfl, fun h => by cases h⟩) moves
    rintro sc m (⟨ht, hphase⟩ | htidy)
    · cases m with
      | call c =>
        have hsame : (sc.move (.call c)).session.phase = sc.session.phase :=
          (marks_obey sc.session c).2.2
        exact Or.inl ⟨ht, fun h => hphase (hsame.symm.trans h)⟩
      | begin endpoint subscriptions =>
        have hmove : sc.move (.begin endpoint subscriptions) =
          (sc.beginTask endpoint subscriptions).1 := rfl
        by_cases hs : subscriptions = []
        · rw [hmove, hs, beginTask_nil]
          exact Or.inl ⟨ht, hphase⟩
        · rw [hmove, beginTask_of_isNone ht endpoint hs]
          have hsame := (follows_stageAll sc.session subscriptions).phase_eq.trans
            (phaseAfter_logs _ _)
          exact Or.inr ⟨_, rfl, Task.marked_new (fun h => hphase (hsame.symm.trans h)) endpoint⟩
      | step view signal =>
        rw [move_step_of_isNone ht]
        exact Or.inl ⟨ht, hphase⟩
    · exact Or.inr (htidy.move m)
  exact hplay.imp_left And.left

/-- The flag is up from the first step of the end on. -/
theorem closing_play (id : Nat) (settings : StreamConfig) (moves : List Move)
    (h : ((start id settings).play moves).place.isFlagged = true) :
    ((start id settings).play moves).session.closing = true := by
  rcases tidy_play id settings moves with hnone | ⟨task, ht, hmarked⟩
  · rw [place, point?, hnone] at h
    cases h
  · rw [place_eq ht] at h
    exact hmarked.closing_of_point h

theorem phase_play_of_finished (id : Nat) (settings : StreamConfig) (moves : List Move)
    (h : ((start id settings).play moves).place = .finished) :
    ((start id settings).play moves).session.phase = .closed := by
  have hphases := (course_fits id settings moves).phases_eq
  rw [h] at hphases
  rw [(follows_play (start id settings) moves).phase_eq, phaseAfter, ← phases_milestones]
  show (phases ((start id settings).course moves).milestones).getLast?.getD _ = .closed
  rw [hphases, List.getLast?_append]
  rfl

/-- The end has looked at the connection in one of the steps. -/
theorem exists_of_mem_parted {sc : Scene} {moves : List Move} {isOpen : Bool}
    (h : isOpen ∈ (sc.course moves).parted) :
    ∃ before view after, moves = before ++ .step view .go :: after ∧
      (sc.play before).place = .parting ∧ view.isOpen = isOpen := by
  obtain ⟨before, m, after, rfl, hm⟩ := exists_of_mem_collect h
  cases m with
  | call c => cases hm
  | begin endpoint subscriptions => cases hm
  | step view signal =>
    change isOpen ∈ (sc.play before).told Point.parted (.step view signal) at hm
    cases hp : (sc.play before).point? with
    | none => simp [told, hp] at hm
    | some p =>
      simp only [told, hp, Option.map_some, Option.getD_some] at hm
      unfold Point.parted at hm
      split at hm
      · exact ⟨before, view, after, rfl, by rw [place, hp]; rfl, (List.mem_singleton.mp hm).symm⟩
      · cases hm

/-- A finished task has closed the transport once if it found it connected, and otherwise not at
all. -/
theorem closes_play_of_finished (id : Nat) (settings : StreamConfig) (moves : List Move)
    (h : ((start id settings).play moves).place = .finished) :
    ∃ before view after, moves = before ++ .step view .go :: after ∧
      ((start id settings).play before).place = .parting ∧
      closes ((start id settings).effectsOf moves) = if view.isOpen then 1 else 0 := by
  have hfits := course_fits id settings moves
  have hparted := hfits.hasParted
  rw [h] at hparted
  obtain ⟨isOpen, hparted⟩ := hparted
  obtain ⟨before, view, after, hmoves, hparting, rfl⟩ :=
    exists_of_mem_parted (hparted.symm ▸ List.mem_singleton_self isOpen)
  refine ⟨before, view, after, hmoves, hparting, hfits.closes_eq.trans ?_⟩
  rw [hparted]
  cases view.isOpen <;> rfl

/-! ## What comes after -/

/-- Nothing changes a session whose task is finished. -/
theorem finished_move {sc : Scene} (hp : sc.point? = some .finished) (hc : sc.session.closing = true)
    (ha : sc.session.book.accepting = false) (m : Move) : sc.move m = sc ∧ sc.effects m = [] := by
  obtain ⟨task, ht, hpoint⟩ := Option.map_eq_some_iff.mp hp
  obtain ⟨session, task?⟩ := sc
  cases ht
  cases m with
  | call c =>
    have hobey : session.obey c = (session, []) := by
      cases c with
      | subscribe sub => rw [Session.obey, Session.subscribe_of_retired ha]
      | close => exact congrArg (·, []) (if_pos hc)
    simp [move, effects, act, hobey]
  | begin endpoint subscriptions =>
    simp [move, effects, act, beginTask_of_isSome]
  | step view signal =>
    rw [move_step rfl, effects_step rfl, Task.step_of_finished view session hpoint]
    exact ⟨rfl, rfl⟩

theorem finished_play {sc : Scene} (hp : sc.point? = some .finished) (hc : sc.session.closing = true)
    (ha : sc.session.book.accepting = false) (later : List Move) :
    sc.play later = sc ∧ sc.effectsOf later = [] := by
  induction later with
  | nil => exact ⟨rfl, rfl⟩
  | cons m later ih =>
    obtain ⟨hmove, heffects⟩ := finished_move hp hc ha m
    rw [play_cons, effectsOf, collect_cons, hmove, heffects]
    exact ih

/-- No task brings a session back to life whose flag is up and whose book has retired. -/
theorem dead_play {sc : Scene} (hc : sc.session.closing = true)
    (ha : sc.session.book.accepting = false) (later : List Move) :
    (sc.play later).session.isAlive = false ∧
      ∀ sub, (sc.play later).session.subscribe sub = ((sc.play later).session, [], false) := by
  have hclosing := (follows_play sc later).closing hc
  have haccepting : (sc.play later).session.book.accepting = false :=
    foldl_invariant (I := fun sc : Scene => sc.session.book.accepting = false)
      (fun _ m h => accepting_move h m) ha later
  exact ⟨(Session.isAlive_eq_false_iff _).mpr (Or.inl hclosing),
    Session.subscribe_of_retired haccepting⟩

/-- Once the end has begun, the task takes nothing any more, and all that others see is of the
end. -/
theorem ending_move {sc : Scene} (h : sc.isEnding = true) (m : Move) :
    (sc.move m).isEnding = true ∧ sc.heard m = [] ∧ ∀ e ∈ sc.effects m, e.isOfEnd = true := by
  refine ⟨isEnding_move h m, ?_⟩
  have hlogs : ∀ lines : List LogLine, ∀ e ∈ lines.map Effect.log, e.isOfEnd = true := by
    simp [Effect.isOfEnd]
  obtain ⟨task, ht, hp⟩ := (Option.any_eq_true _ _).mp h
  cases m with
  | call c => exact ⟨rfl, hlogs _⟩
  | begin endpoint subscriptions =>
    refine ⟨rfl, ?_⟩
    show ∀ e ∈ (sc.beginTask endpoint subscriptions).2, _
    rw [beginTask_of_isSome (by simp [ht])]
    exact nofun
  | step view signal =>
    rw [effects_step ht, heard, ht]
    exact ⟨Task.heard_of_isEnding hp signal,
      (Task.passage_step view sc.session task signal).isOfEnd hp⟩

/-- **A session that is over has retired for good.** -/
theorem ends_retired (id : Nat) (settings : StreamConfig) (moves : List Move)
    (hbeat : settings.heartbeatMs ≠ 0)
    (hlast : ((start id settings).play moves).place.isLast = true) :
    let run := start id settings
    let sc := run.play moves
    sc.place = .finished ∧ sc.session.phase = .closed ∧ sc.session.closing = true ∧
    sc.session.book.accepting = false ∧ sc.session.book.pending = [] ∧
    -- nothing that anybody does changes anything, and no other task brings the session back to life
    (∀ later, sc.play later = sc ∧ sc.effectsOf later = []) ∧
    (∀ task? later, let s := ((⟨sc.session, task?⟩ : Scene).play later).session
      s.isAlive = false ∧ ∀ sub, s.subscribe sub = (s, [], false)) ∧
    -- the transport was closed once if it said that it is connected, and otherwise not at all
    (∃ before view after, moves = before ++ .step view .go :: after ∧
      (run.play before).place = .parting ∧
      closes (run.effectsOf moves) = if view.isOpen then 1 else 0) ∧
    -- nothing else was asked of it or of the receiver of data since the end began
    (∀ before m after, moves = before ++ m :: after → (run.play before).isEnding = true →
      ((run.play before).move m).isEnding = true ∧ (run.play before).heard m = [] ∧
      ∀ e ∈ (run.play before).effects m, e.isOfEnd = true) ∧
    -- and a task whose end has begun is over after four steps, whatever its transport
    ∀ {σ : Type} (tr : Transport σ) (here : Situation) (r : Running σ) (fuel : Nat),
      r.task.point = .ending → r.run tr (fuel + 4) here = r.ended tr here := by
  intro run sc
  have hplace : sc.place = .finished := by
    cases hending : sc.place.isEnding with
    | true => exact Point.eq_finished hlast hending
    | false => exact absurd (broken_play id settings moves (Point.eq_broken hlast hending)) hbeat
  have hpoint : sc.point? = some .finished := point?_of_place hplace (by simp)
  have hclosing : sc.session.closing = true := closing_play id settings moves (by rw [hplace]; rfl)
  have haccepting : sc.session.book.accepting = false :=
    accepting_play id settings moves (by rw [isDrained_eq, hplace]; rfl)
  exact ⟨hplace, phase_play_of_finished id settings moves hplace, hclosing, haccepting,
    (sound_play id settings moves).pending_eq_nil haccepting,
    finished_play hpoint hclosing haccepting, fun task? => dead_play hclosing haccepting,
    closes_play_of_finished id settings moves hplace, fun before m after _ h => ending_move h m,
    fun tr here r fuel h => Running.run_ending tr here h fuel⟩

/-- A close in the middle of a stream, on a transport that stands. -/
theorem closed_tickers_retired :
    let moves := opening [.tickers "A"] ++
      [.call .close, .step ⟨0, true⟩ .closeAsked, go, go, go, done]
    StreamConfig.default.heartbeatMs ≠ 0 ∧
      ((start 1 .default).play moves).place.isLast = true ∧
      ((start 1 .default).play moves).session.phase = .closed := by
  intro moves
  have hbeat : StreamConfig.default.heartbeatMs ≠ 0 := by decide
  have hlast : ((start 1 .default).play moves).place.isLast = true := by decide +kernel
  exact ⟨hbeat, hlast, (ends_retired 1 .default moves hbeat hlast).2.1⟩

end Scene

end MarketFeed
