import MarketFeed.Proofs.Session.Course

/-!
# The graph of states

Every run of a session walks the same graph, whatever the transport does and whenever a close is
asked for: the stages of the connection in their order, as far as they succeed; then round by round a
request and what comes in; then the end. A close is looked for before each stage, and one that comes
between this look and the start of the stage does not keep the stage from beginning; it is seen before
the next one. Main fact: `walks_state_graph`, which ties together what others see, how the stages came
out, and what was logged.
-/

namespace MarketFeed

open Trace

/-! ## What a course tells -/

namespace Point

theorem outstanding_of_not_isStreaming {p : Point} (h : p.isStreaming = false) :
    p.outstanding = [] := by
  cases p <;> first | rfl | cases h

theorem length_outstanding_le (p : Point) : p.outstanding.length ≤ 1 := by
  cases p with
  | writing w => cases w <;> simp [outstanding]
  | _ => simp [outstanding]

theorem stage_of_isEnding {p : Point} (h : p.isEnding = true) :
    p.stage = [] ∧ p.announced = [] := by
  cases p <;> first | exact ⟨rfl, rfl⟩ | cases h

theorem eq_broken {p : Point} (h : p.isLast = true) (hp : p.isEnding = false) : p = .broken := by
  cases p <;> simp_all [isLast, isEnding]

theorem due_of_isStreaming {p : Point} (h : p.isStreaming = true) : p.due = [] := by
  cases p <;> first | rfl | cases h

theorem closed_of_behind? {p : Point} {passed : List Stage} (h : p.behind? = some passed) :
    p.closed = [] ∧ p.HasParted [] := by
  cases p <;> first | exact ⟨rfl, rfl⟩ | cases h

theorem closed_of_isStreaming {p : Point} (h : p.isStreaming = true) :
    p.closed = [] ∧ p.HasParted [] := by
  cases p <;> first | exact ⟨rfl, rfl⟩ | cases h

end Point

namespace Course

variable {line : Stage → FeedError → LogLine} {c : Course} {p : Point}

/-- What others see of a course is its stages, its rounds and its end. -/
theorem Fits.milestones_eq (h : Fits line c p) :
    c.milestones = c.begun.flatMap Stage.approach ++ p.announced.map Stage.announcement ++
      c.written.flatMap round ++ (c.lost ++ p.outstanding).flatMap attempt ++
      c.parted.flatMap farewell ++ p.closed := by
  cases h with
  | ascending passed hp hpassed hc =>
    simp [hc, ascent, none, Point.outstanding_of_not_isStreaming hp,
      (Point.closed_of_behind? hpassed).1]
  | streaming written sends faults hp hc =>
    simp [hc, stream, ascent, none, (Point.closed_of_isStreaming hp).1,
      (Point.stage_of_isStreaming hp).2]
  | ending d parted hp hd _ hc =>
    have hout := Point.outstanding_of_not_isStreaming (Point.isStreaming_of_isEnding hp)
    have hstage := (Point.stage_of_isEnding hp).2
    cases hd <;> simp [hc, append_eq, part, stream, ascent, none, hout, hstage]

/-- The stages were begun in their order, each after the one before had succeeded, and the one that is
announced is the next one. -/
theorem Fits.begun_eq (h : Fits line c p) :
    c.begun ++ p.announced <+: Stage.all ∧
      c.begun = c.passed ++ p.stage ++ c.failed.map Prod.fst := by
  cases h with
  | ascending passed hp hpassed hc =>
    have hbehind := Point.behind?_prefix hpassed
    rw [← List.append_assoc] at hbehind
    rw [hc]
    exact ⟨hbehind, by simp [ascent, none]⟩
  | streaming written sends faults hp hc =>
    obtain ⟨hstage, hannounced⟩ := Point.stage_of_isStreaming hp
    simp [hc, stream, ascent, none, hstage, hannounced]
  | ending d parted hp hd _ hc =>
    obtain ⟨hstage, hannounced⟩ := Point.stage_of_isEnding hp
    cases hd with
    | turnedBack passed h => simpa [hc, append_eq, part, ascent, none, hstage, hannounced] using h
    | failed passed stage error h =>
      simpa [hc, append_eq, part, ascent, none, hstage, hannounced] using h
    | left written sends faults =>
      simp [hc, append_eq, part, stream, ascent, none, hstage, hannounced]
    | unwritten written subscriptions sends faults =>
      simp [hc, append_eq, part, stream, ascent, none, hstage, hannounced]

/-- A request is still on its way, or it was not written and the end has begun, or neither. -/
theorem Fits.lost_le (h : Fits line c p) :
    (c.lost ++ p.outstanding).length ≤ 1 ∧ (c.lost ≠ [] → p.isEnding = true) := by
  cases h with
  | ascending passed hp hpassed hc =>
    simp [hc, ascent, none, Point.outstanding_of_not_isStreaming hp]
  | streaming written sends faults hp hc =>
    refine ⟨?_, by simp [hc, stream, ascent, none]⟩
    rw [hc]
    exact p.length_outstanding_le
  | ending d parted hp hd _ hc =>
    have hout := Point.outstanding_of_not_isStreaming (Point.isStreaming_of_isEnding hp)
    refine ⟨?_, fun _ => hp⟩
    cases hd <;> simp [hc, append_eq, part, stream, ascent, none, hout]

theorem Fits.hasParted (h : Fits line c p) : p.HasParted c.parted := by
  cases h with
  | ascending passed hp hpassed hc =>
    rw [hc]
    exact (Point.closed_of_behind? hpassed).2
  | streaming written sends faults hp hc =>
    rw [hc]
    exact (Point.closed_of_isStreaming hp).2
  | ending d parted hp hd hparted hc =>
    rw [hc]
    cases hd <;> exact hparted

/-- The transport was closed as often as it said that it is connected. -/
theorem Fits.closes_eq (h : Fits line c p) : c.closes = c.parted.count true := by
  cases h with
  | ascending passed hp hpassed hc => simp [hc, ascent, none]
  | streaming written sends faults hp hc => simp [hc, stream, ascent, none]
  | ending d parted hp hd hparted hc =>
    cases hd <;> simp [hc, append_eq, part, stream, ascent, none]

/-- Whether a session streams, or something shows that it has streamed. -/
def Streams (c : Course) (p : Point) : Prop :=
  p.isStreaming = true ∨ c.sends ≠ [] ∨ c.written ≠ [] ∨ c.lost ≠ []

theorem Fits.passed_of_streams (h : Fits line c p) (hstreams : Streams c p) :
    c.passed = Stage.all := by
  cases h with
  | ascending passed hp hpassed hc => simp [Streams, hc, ascent, none, hp] at hstreams
  | streaming written sends faults hp hc => rw [hc]; rfl
  | ending d parted hp hd hparted hc =>
    have hidle := Point.isStreaming_of_isEnding hp
    cases hd with
    | left written sends faults => rw [hc]; rfl
    | unwritten written subscriptions sends faults => rw [hc]; rfl
    | _ => simp [Streams, hc, append_eq, part, ascent, none, hidle] at hstreams

/-- A stage that failed was the last one, nothing was sent, and there is one line about it. -/
theorem Fits.of_failed (h : Fits line c p) {stage : Stage} {error : FeedError}
    (hfailed : (stage, error) ∈ c.failed) :
    p.isEnding = true ∧ c.begun = c.passed ++ [stage] ∧ c.sends = [] ∧
      c.faults = [line stage error] := by
  cases h with
  | ascending passed hp hpassed hc => simp [hc, ascent, none] at hfailed
  | streaming written sends faults hp hc => simp [hc, stream, ascent, none] at hfailed
  | ending d parted hp hd hparted hc =>
    refine ⟨hp, ?_⟩
    cases hd with
    | failed passed stage' error' h =>
      obtain ⟨rfl, rfl⟩ : stage = stage' ∧ error = error' := by
        simpa [hc, append_eq, part, ascent, none] using hfailed
      simp [hc, append_eq, part, ascent, none]
    | _ => simp [hc, append_eq, part, stream, ascent, none] at hfailed

end Course

/-! ## Phases -/

theorem phases_milestones (effects : List Effect) : phases (milestones effects) = phases effects := by
  rw [phases, milestones, List.filterMap_filter]
  refine List.filterMap_congr fun e _ => ?_
  cases e with
  | write f => exact ite_self none
  | _ => rfl

theorem phases_flatMap {α : Type} (f : α → List Effect) (as : List α) :
    phases (as.flatMap f) = as.flatMap fun a => phases (f a) := by
  induction as with
  | nil => rfl
  | cons a as ih => rw [List.flatMap_cons, phases_append, ih, List.flatMap_cons]

theorem phases_flatMap_of_eq {α : Type} {f : α → List Effect} {phase : α → Phase}
    (h : ∀ a, phases (f a) = [phase a]) (as : List α) : phases (as.flatMap f) = as.map phase := by
  rw [phases_flatMap, List.map_eq_flatMap]
  exact congrArg as.flatMap (funext h)

/-- The phases of a course. -/
theorem Course.Fits.phases_eq {line : Stage → FeedError → LogLine} {c : Course} {p : Point}
    (h : c.Fits line p) :
    phases c.milestones =
      (c.begun ++ p.announced).map Stage.phase ++
        c.written.flatMap (fun _ => [.subscribing, .streaming]) ++
        (c.lost ++ p.outstanding).map (fun _ => .subscribing) ++ c.parted.map (fun _ => .closing) ++
        phases p.closed := by
  have hfarewell (isOpen : Bool) : phases (farewell isOpen) = [.closing] := by cases isOpen <;> rfl
  have hannounced : phases (p.announced.map Stage.announcement) = p.announced.map Stage.phase := by
    rw [List.map_eq_flatMap, phases_flatMap_of_eq (fun _ => rfl)]
  rw [h.milestones_eq, phases_append, phases_append, phases_append, phases_append, phases_append,
    phases_flatMap_of_eq (fun _ => rfl) c.begun, hannounced, phases_flatMap round,
    phases_flatMap_of_eq (fun _ => rfl) (c.lost ++ p.outstanding),
    phases_flatMap_of_eq hfarewell c.parted, ← List.map_append]
  rfl

/-! ## What a passage needs -/

namespace Passage

variable {view : View} {s : Session} {p p' : Point} {signal : Signal} {effects : List Effect}

/-- A task streams only if it did before, or if it is connected and nobody has asked for a close. -/
theorem isStreaming (h : Passage view s p signal p' effects) (hp' : p'.isStreaming = true) :
    p.isStreaming = true ∨
      p = .connected ∧ signal = .go ∧ s.closing = false ∧ s.period ≠ 0 := by
  cases h with
  | start hc hperiod => exact Or.inr ⟨rfl, rfl, hc, hperiod⟩
  | request _ => exact Or.inl rfl
  | spare _ => exact Or.inl rfl
  | written _ => exact Or.inl rfl
  | attend _ _ _ _ hp _ _ _ _ _ => exact Or.inl hp
  | stay _ _ _ _ => exact Or.inl hp'
  | _ => cases hp'

/-- A task hands frames to the transport only as it streams. -/
theorem isStreaming_of_sends (h : Passage view s p signal p' effects) (hsends : sends effects ≠ []) :
    p.isStreaming = true := by
  cases h with
  | request _ => rfl
  | spare _ => rfl
  | written _ => rfl
  | unwritten _ _ => rfl
  | attend _ _ _ _ hp _ _ _ _ _ => exact hp
  | leave _ _ _ hp _ _ => exact hp
  | finish r warnings _ =>
    rw [sends_append, sends_logs] at hsends
    exact absurd rfl hsends
  | _ => exact absurd rfl hsends

/-- Once somebody has asked for a close, no stage begins and none becomes due but the one that is. -/
theorem beginnings_of_closing (h : Passage view s p signal p' effects) (hc : s.closing = true) :
    beginnings effects ++ p'.due <+: p.due := by
  cases h with
  | clear stage hopen => cases hc.symm.trans hopen
  | attend _ _ _ _ _ _ hp' _ _ hsilent =>
    rw [Course.beginnings_of_silent hsilent, Point.due_of_isStreaming hp']
    exact List.nil_prefix
  | leave _ _ _ _ _ hsilent =>
    rw [Course.beginnings_of_silent hsilent]
    exact List.nil_prefix
  | finish r warnings _ =>
    rw [beginnings, List.filterMap_append, ← beginnings,
      Course.beginnings_of_silent (milestones_logs warnings)]
    exact List.nil_prefix
  | stay _ _ _ _ => exact List.prefix_refl _
  | enter stage => exact List.prefix_refl _
  | begin stage => exact List.prefix_refl _
  | _ => exact List.nil_prefix

theorem breaks (h : Passage view s p signal .broken effects) : p = .broken ∨ s.period = 0 := by
  cases h with
  | breakDown _ hperiod => exact Or.inr hperiod
  | attend _ _ _ _ _ _ hp' _ _ _ => cases hp'
  | stay _ _ _ _ => exact Or.inl rfl

theorem of_broken (h : Passage view s .broken signal p' effects) : p' = .broken := by
  cases h with
  | attend _ _ _ _ hp _ _ _ _ _ => cases hp
  | leave _ _ _ hp _ _ => cases hp
  | stay _ _ _ _ => rfl

end Passage

namespace Scene

/-- Once somebody has asked for a close no stage begins but the one that is due. -/
theorem begun_of_closing {sc : Scene} (hc : sc.session.closing = true) (moves : List Move) :
    (sc.course moves).begun ++ (sc.play moves).place.due <+: sc.place.due := by
  induction moves generalizing sc with
  | nil => exact List.prefix_refl _
  | cons m ms ih =>
    have hrest := ih ((follows_move sc m).closing hc)
    have hfirst : (sc.course [m]).begun ++ (sc.move m).place.due <+: sc.place.due := by
      rcases sc.move_cases m with ⟨hnone, hplace⟩ | ⟨task, view, signal, -, -, hcourse, hpassage⟩
      · rw [hnone, hplace]
        exact List.prefix_refl _
      · rw [hcourse]
        exact hpassage.beginnings_of_closing hc
    have happend := course_append sc [m] ms
    rw [List.singleton_append] at happend
    rw [happend, play_cons]
    show (sc.course [m]).begun ++ ((sc.move m).course ms).begun ++ _ <+: _
    rw [List.append_assoc]
    exact ((List.prefix_append_right_inj _).mpr hrest).trans hfirst

/-- The connection was made, nobody had asked for a close, and the heart beats. -/
def HasStreamed (sc : Scene) (moves : List Move) : Prop :=
  ∃ before view after, moves = before ++ .step view .go :: after ∧
    (sc.play before).point? = some .connected ∧ (sc.play before).session.closing = false ∧
    (sc.play before).session.period ≠ 0

theorem HasStreamed.append {sc : Scene} {moves : List Move} (h : sc.HasStreamed moves)
    (more : List Move) : sc.HasStreamed (moves ++ more) := by
  obtain ⟨before, view, after, rfl, hpoint⟩ := h
  exact ⟨before, view, after ++ more, by simp, hpoint⟩

/-- A session streams after a step if it did before, or if the step is the first one to do so. -/
theorem streams_of_step {c : Course} {view : View} {s : Session} {p p' : Point} {signal : Signal}
    {effects : List Effect} (hpassage : Passage view s p signal p' effects)
    (h : (c ++ Course.of p view signal effects).Streams p') :
    c.Streams p ∨ p = .connected ∧ signal = .go ∧ s.closing = false ∧ s.period ≠ 0 := by
  by_cases hp : p.isStreaming = true
  · exact Or.inl (Or.inl hp)
  have hout := Point.outstanding_of_not_isStreaming (eq_false_of_ne_true hp)
  have hsends : sends effects = [] := by
    by_contra hne
    exact hp (hpassage.isStreaming_of_sends hne)
  obtain ⟨hwritten, hlost⟩ := Point.writes_of_outstanding hout signal
  simp only [Course.Streams, Course.append_eq, Course.of, hsends, hwritten, hlost,
    List.append_nil] at h
  rcases h with hp' | hbefore
  · exact (hpassage.isStreaming hp').imp_left Or.inl
  · exact Or.inl (Or.inr hbefore)

/-- What a session does on a connection needs one that was made while nobody had asked for a close. -/
theorem hasStreamed_play (id : Nat) (settings : StreamConfig) (moves : List Move)
    (h : ((start id settings).course moves).Streams ((start id settings).play moves).place) :
    (start id settings).HasStreamed moves := by
  induction moves using List.reverseRecOn with
  | nil => simp [Course.Streams, course_nil, Course.none, place, point?, start, Point.isStreaming] at h
  | append_singleton moves m ih =>
    rw [course_append, play_append, play_cons, play_nil] at h
    rcases ((start id settings).play moves).move_cases m with
      ⟨hnone, hplace⟩ | ⟨task, view, signal, -, rfl, hcourse, hpassage⟩
    · rw [hnone, hplace, Course.append_none] at h
      exact (ih h).append [m]
    · rw [hcourse] at h
      rcases streams_of_step hpassage h with hstreams | ⟨hp, rfl, hclosing, hperiod⟩
      · exact (ih hstreams).append _
      · exact ⟨moves, view, [], rfl, point?_of_place hp (by simp), hclosing, hperiod⟩

/-- A task breaks down only if its heart does not beat. -/
theorem broken_play (id : Nat) (settings : StreamConfig) (moves : List Move)
    (h : ((start id settings).play moves).place = .broken) : settings.heartbeatMs = 0 := by
  induction moves using List.reverseRecOn with
  | nil => cases h
  | append_singleton moves m ih =>
    rw [play_append, play_cons, play_nil] at h
    rcases ((start id settings).play moves).move_cases m with
      ⟨-, hplace⟩ | ⟨task, view, signal, -, -, -, hpassage⟩
    · exact ih (hplace.symm.trans h)
    · rw [h] at hpassage
      rcases hpassage.breaks with hp | hperiod
      · exact ih hp
      · rw [Session.period, (follows_play _ moves).settings_eq] at hperiod
        exact (Nat.mul_eq_zero.mp hperiod).resolve_right (by decide)

theorem closing_of_close (sc : Scene) (moves : List Move) :
    (sc.play (.call .close :: moves)).session.closing = true := by
  refine (follows_play (sc.move (.call .close)) moves).closing ?_
  show sc.session.close.closing = true
  unfold Session.close
  split_ifs with h
  · exact h
  · rfl

/-- No stage begins after a close was asked for, but the one that was due then. -/
theorem begun_of_close (sc : Scene) (before after : List Move) :
    let moves := before ++ .call .close :: after
    (sc.course before).begun <+: (sc.course moves).begun ∧
      (sc.course moves).begun ++ (sc.play moves).place.announced <+:
        (sc.course before).begun ++ (sc.play before).place.due := by
  intro moves
  obtain ⟨hclose, hplace⟩ := course_call (sc.play before) .close
  have hsplit := course_append (sc.play before) [.call .close] after
  rw [List.singleton_append, hclose] at hsplit
  have hbegun : (sc.course moves).begun = (sc.course before).begun ++
      (((sc.play before).move (.call .close)).course after).begun := by
    rw [course_append, hsplit]
    rfl
  have hafter := begun_of_closing (closing_of_close (sc.play before) []) after
  have hdue := (List.prefix_append_right_inj (sc.course before).begun).mpr hafter
  rw [← List.append_assoc] at hdue
  rw [hbegun]
  refine ⟨List.prefix_append _ _, ?_⟩
  rw [← hplace]
  refine List.IsPrefix.trans ?_ hdue
  rw [play_append, play_cons]
  exact (List.prefix_append_right_inj _).mpr (Point.announced_prefix_due _)

/-- A close that was asked for before the last stage succeeded keeps the session from streaming. -/
theorem sends_of_close {id : Nat} {settings : StreamConfig} {before after : List Move}
    (h : .upgrade ∉ ((start id settings).course before).passed) :
    ((start id settings).course (before ++ .call .close :: after)).sends = [] := by
  by_contra hsends
  obtain ⟨first, view, rest, heq, hpoint, hclosing, -⟩ :=
    hasStreamed_play id settings _ (Or.inr (Or.inl hsends))
  -- the connection was made either after the close or before it
  rcases List.append_eq_append_iff.mp heq with ⟨more, rfl, hmore⟩ | ⟨more, rfl, -⟩
  · cases more with
    | nil => cases hmore
    | cons m more =>
      obtain ⟨rfl, -⟩ := List.cons_eq_cons.mp hmore
      rw [play_append, closing_of_close] at hclosing
      cases hclosing
  · have hplace : ((start id settings).play first).place = .connected := by rw [place, hpoint]; rfl
    have hfits := course_fits id settings first
    rw [hplace] at hfits
    have hcourse := hfits.eq_ascent rfl rfl
    refine h ?_
    rw [course_append, hcourse]
    exact List.mem_append_left _ (by decide)

/-- **A session walks the graph of its states.** -/
theorem walks_state_graph (id : Nat) (settings : StreamConfig) (moves : List Move) :
    let run := start id settings
    let sc := run.play moves
    let c := run.course moves
    -- the phases, and all that others see
    phases (run.effectsOf moves) =
      (c.begun ++ sc.place.announced).map Stage.phase ++
        c.written.flatMap (fun _ => [.subscribing, .streaming]) ++
        (c.lost ++ sc.place.outstanding).map (fun _ => .subscribing) ++
        c.parted.map (fun _ => .closing) ++ phases sc.place.closed ∧
    c.milestones =
      c.begun.flatMap Stage.approach ++ sc.place.announced.map Stage.announcement ++
        c.written.flatMap round ++ (c.lost ++ sc.place.outstanding).flatMap attempt ++
        c.parted.flatMap farewell ++ sc.place.closed ∧
    sc.session.phase = phaseAfter .created (run.effectsOf moves) ∧
    sc.place.HasParted c.parted ∧
    -- a request that is not written is the last one
    (c.lost ++ sc.place.outstanding).length ≤ 1 ∧ (c.lost ≠ [] → sc.place.isEnding = true) ∧
    -- the stages, each after the one before has succeeded
    c.begun ++ sc.place.announced <+: Stage.all ∧
    c.begun = c.passed ++ sc.place.stage ++ c.failed.map Prod.fst ∧
    -- requests need all of them, and nobody who has asked for a close
    (c.Streams sc.place → c.passed = Stage.all ∧ run.HasStreamed moves) ∧
    (sc.place = .broken →
      settings.heartbeatMs = 0 ∧ c.milestones = Stage.all.flatMap Stage.approach) ∧
    -- after a close no stage begins but the one for which none had been seen
    (∀ before after, moves = before ++ .call .close :: after →
      (run.course before).begun <+: c.begun ∧
        c.begun ++ sc.place.announced <+: (run.course before).begun ++ (run.play before).place.due ∧
        (.upgrade ∉ (run.course before).passed → c.sends = [])) ∧
    -- a stage that fails is the last thing that happens, and one line tells of it
    ∀ stage error, (stage, error) ∈ c.failed →
      sc.place.isEnding = true ∧ c.begun = c.passed ++ [stage] ∧ c.sends = [] ∧
        c.faults = [sc.session.stageLine stage error] ∧
        ((∃ reason, Task.failure stage.label error = .timeout reason) ↔
          ∃ reason, error = .timeout reason) := by
  intro run sc c
  have hfits := course_fits id settings moves
  have hline : sc.session.stageLine = (Session.new id settings).stageLine := by
    funext stage error
    rw [Session.stageLine, Session.title, (follows_play (start id settings) moves).id_eq]
    rfl
  refine ⟨?_, hfits.milestones_eq, (follows_play run moves).phase_eq, hfits.hasParted,
    hfits.lost_le.1, hfits.lost_le.2, hfits.begun_eq.1, hfits.begun_eq.2, fun h => ?_, fun h => ?_,
    ?_, fun stage error h => ?_⟩
  · rw [← phases_milestones]
    exact hfits.phases_eq
  · exact ⟨hfits.passed_of_streams h, hasStreamed_play id settings moves h⟩
  · refine ⟨broken_play id settings moves h, ?_⟩
    rw [h] at hfits
    exact congrArg Course.milestones (hfits.eq_ascent rfl rfl)
  · rintro before after rfl
    obtain ⟨hbegun, hdue⟩ := begun_of_close run before after
    exact ⟨hbegun, hdue, sends_of_close⟩
  · obtain ⟨hending, hbegun, hsends, hfaults⟩ := hfits.of_failed h
    refine ⟨hending, hbegun, hsends, ?_, ?_⟩
    · rw [hline]
      exact hfaults
    · cases error <;> simp [Task.failure]

theorem broken_move {sc : Scene} (h : sc.place = .broken) (m : Move) :
    (sc.move m).place = .broken := by
  rcases sc.move_cases m with ⟨-, hplace⟩ | ⟨task, view, signal, -, -, -, hpassage⟩
  · exact hplace.trans h
  · rw [h] at hpassage
    exact hpassage.of_broken

/-- A task that has broken down stays so, whatever happens later, also a close: the stages are all that
the session has ever shown. -/
theorem phases_of_broken {id : Nat} {settings : StreamConfig} {moves : List Move}
    (h : ((start id settings).play moves).place = .broken) (later : List Move) :
    ((start id settings).play (moves ++ later)).place = .broken ∧
      phases ((start id settings).effectsOf (moves ++ later)) = Stage.all.map Stage.phase := by
  have hplace : ((start id settings).play (moves ++ later)).place = .broken := by
    rw [play_append]
    exact foldl_invariant (I := fun sc : Scene => sc.place = .broken)
      (fun _ m h => broken_move h m) h later
  refine ⟨hplace, ?_⟩
  have hfits := course_fits id settings (moves ++ later)
  rw [hplace] at hfits
  have hascent : phases (Course.ascent Stage.all [] []).milestones = Stage.all.map Stage.phase := rfl
  have hcourse := congrArg (fun c : Course => phases c.milestones) (hfits.eq_ascent rfl rfl)
  exact (phases_milestones _).symm.trans (hcourse.trans hascent)

/-- Two sessions do not keep to a graph in which every connection that stands is requested on, and in
which no stage begins once a close is asked for. The heart of the first one does not beat: the task
breaks down on the connection, though nobody has asked for a close, and does not come to its end. The
second one is closed between the look for a close and the start of a stage, before anything is
announced: this stage begins, the stage after it does not. -/
theorem strays_from_strict_graph :
    (let run := start 1 { StreamConfig.default with heartbeatMs := 0 }
     let moves := opening [.tickers "A"]
     (run.course moves).passed = Stage.all ∧ (run.play moves).session.closing = false ∧
      ∀ later, (run.play (moves ++ later)).place = .broken ∧
        phases (run.effectsOf (moves ++ later)) = Stage.all.map Stage.phase) ∧
    (let run := start 1 .default
     let before := [.begin ⟨"localhost", 8443, "/ws/v5/public"⟩ [.tickers "A"], go, go]
     let moves := before ++ [.call .close]
     (run.course before).begun = [] ∧ phases (run.effectsOf before) = [] ∧
      (run.play moves).session.closing = true ∧
      (run.course (moves ++ [go, go])).begun = [.resolve] ∧
      (run.course (moves ++ [go, go, done, go])).begun = [.resolve] ∧
      (run.play (moves ++ [go, go, done, go])).place.isEnding = true) := by
  refine ⟨⟨by decide +kernel, by decide +kernel, phases_of_broken ?_⟩, by decide +kernel⟩
  exact Point.eq_broken (by decide +kernel) (by decide +kernel)

end Scene

end MarketFeed
