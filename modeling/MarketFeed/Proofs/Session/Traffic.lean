import MarketFeed.Proofs.Session.Delivery
import MarketFeed.Proofs.Session.Errand
import MarketFeed.Proofs.Session.Passage
import MarketFeed.Proofs.Trace

/-!
# Traffic

What a session hands to its transport is requests, pongs and pings. `Task.sends_step` says where each
of them comes from: a request from the book, a pong from a ping that is taken, a ping from a tick of
the heartbeat that finds the transport connected. Main fact: along a run the pongs and the pings are
put together of just these two sequences, and what brings them forth touches nothing else
(`besides_requests_answers_and_beats`).
-/

namespace MarketFeed

open Trace

/-! ## What is handed to the transport -/

def Frame.isText : Frame → Bool
  | .text _ => true
  | _ => false

/-- The pong that answers a ping. -/
def Frame.answer? : Frame → Option Frame
  | .ping payload => some (.pong payload)
  | _ => none

/-- The ping of a tick: there is one if the transport is connected. -/
def View.beat? (view : View) : Option Frame := if view.isOpen then some (.ping []) else none

/-- What among effects is handed to the transport besides requests. -/
def signs (effects : List Effect) : List Frame := (sends effects).filter fun f => !f.isText

@[simp] theorem signs_append (es es' : List Effect) : signs (es ++ es') = signs es ++ signs es' := by
  simp [signs]

/-- The text that is handed to the transport is the requests. -/
theorem filter_sends (effects : List Effect) :
    (sends effects).filter Frame.isText = requests effects := by
  induction effects with
  | nil => rfl
  | cons e es ih =>
    have hcons : ∀ es', sends (e :: es') = sends [e] ++ sends es' := fun es' => sends_append [e] es'
    rw [hcons, List.filter_append, ih]
    cases e with
    | write f => cases f <;> rfl
    | _ => rfl

theorem filter_requests (batches : List (List Subscription)) :
    ((batches.map Frame.subscribing).filter fun f => !f.isText) = [] := by
  rw [List.filter_eq_nil_iff]
  intro f hf
  obtain ⟨batch, -, rfl⟩ := List.mem_map.mp hf
  simp [Frame.subscribing, Frame.isText]

theorem filter_answers (frames : List Frame) :
    ((frames.filterMap Frame.answer?).filter fun f => !f.isText) =
      frames.filterMap Frame.answer? := by
  refine List.filter_eq_self.mpr fun f hf => ?_
  obtain ⟨heard, -, hanswer⟩ := List.mem_filterMap.mp hf
  cases heard <;> cases hanswer
  rfl

theorem filter_beats (views : List View) :
    ((views.filterMap View.beat?).filter fun f => !f.isText) = views.filterMap View.beat? := by
  refine List.filter_eq_self.mpr fun f hf => ?_
  obtain ⟨view, -, hbeat⟩ := List.mem_filterMap.mp hf
  unfold View.beat? at hbeat
  split_ifs at hbeat
  cases hbeat
  rfl

namespace Task

/-- What a task sees at a tick of the heartbeat that it takes. -/
def ticks (view : View) (t : Task) (signal : Signal) : List View :=
  match t.point, signal with
  | .idle, .tick => if t.deadline ≤ view.now then [view] else []
  | _, _ => []

/-- What a step hands to the transport, by where it comes from. -/
def handed (view : View) (s : Session) (t : Task) (signal : Signal) : List Frame :=
  (drawn s.book (t.bookOp? signal)).map Frame.subscribing ++
    ((t.heard signal).filterMap Frame.answer? ++ (t.ticks view signal).filterMap View.beat?)

variable (view : View) (s : Session) (t : Task)

theorem ticks_of_ne {signal : Signal} (h : signal ≠ .tick) : t.ticks view signal = [] := by
  unfold ticks
  split
  · exact absurd rfl h
  · rfl

/-- Nothing is handed over but where a task goes on by itself, ticks, or takes a frame. -/
theorem handed_of_ne {signal : Signal} (hgo : signal ≠ .go) (htick : signal ≠ .tick)
    (hin : ∀ i, t.point = .idle → signal ≠ .incoming i) : handed view s t signal = [] := by
  have hheard : t.heard signal = [] := by
    unfold heard
    split
    · rename_i hp
      exact absurd rfl (hin _ hp)
    · rfl
  rw [handed, bookOp?_of_ne_idle hgo hin, hheard, ticks_of_ne view t htick]
  rfl

theorem sends_proceed : sends (proceed view s t).effects = handed view s t .go := by
  have hgo : handed view s t .go = (drawn s.book (t.bookOp? .go)).map Frame.subscribing := by
    rw [handed, heard_of_ne (by simp), ticks_of_ne view t (by simp)]
    exact List.append_nil _
  rw [hgo]
  unfold proceed bookOp?
  cases t.point with
  | flushing =>
    simp only [Book.take, drawn, Book.batch]
    cases hw : s.book.pending with
    | nil => rfl
    | cons sub rest => rfl
  | before stage =>
    dsimp only
    split_ifs <;> rfl
  | connected =>
    dsimp only
    split_ifs <;> rfl
  | retiring =>
    dsimp only
    split <;> rfl
  | parting =>
    dsimp only
    split_ifs <;> rfl
  | _ => rfl

theorem sends_takeMessage (m : Except MessageFault (Option Message)) :
    sends (takeMessage s t m).effects = [] := by
  rcases m with fault | _ | ack | event
  · rw [takeMessage]
    split_ifs <;> rfl
  · rfl
  · cases ack <;> rfl
  · rfl

theorem sends_takeFrame (f : Frame) :
    sends (takeFrame view s t f).effects = f.answer?.toList := by
  cases f with
  | text text => exact sends_takeMessage s t _
  | binary bytes => exact sends_takeMessage s t _
  | _ => rfl

theorem drawn_frameOp? (b : Book) (f : Frame) : drawn b (frameOp? f) = [] := by
  rcases frameOp?_cases f with h | ⟨sub, h⟩ | ⟨sub, h⟩ <;> rw [h] <;> rfl

theorem handed_incoming (hp : t.point = .idle) (f : Frame) :
    handed view s t (.incoming (.frame f)) = f.answer?.toList := by
  have hop : t.bookOp? (.incoming (.frame f)) = frameOp? f := by simp only [bookOp?, hp]
  have hheard : t.heard (.incoming (.frame f)) = [f] := by simp only [heard, hp]
  rw [handed, hop, drawn_frameOp?, hheard, ticks_of_ne view t (by simp)]
  cases hf : f.answer? <;> simp [hf]

theorem sends_beat :
    sends (beat view s t).effects = view.beat?.toList := by
  have hwarn : ∀ (c : Prop) [Decidable c] (line : LogLine),
      sends (if c then [Effect.log line] else []) = [] := by
    intro c _ line
    split_ifs <;> rfl
  unfold beat View.beat?
  dsimp only
  split_ifs <;> rfl

theorem sends_tick : sends (t.step view s .tick).effects = handed view s t .tick := by
  have hbook : t.bookOp? .tick = none := bookOp?_of_ne_idle (by simp) (by simp)
  rw [handed, hbook, heard_of_ne (by simp)]
  cases hp : t.point with
  | idle =>
    simp only [step, ticks, hp]
    split_ifs
    · rw [sends_beat]
      cases hv : view.beat? <;> simp [drawn, hv]
    · rfl
  | _ =>
    simp only [step, ticks, hp]
    rfl

/-- A step hands to the transport the request that it takes out of the book, the pong to the ping
that it takes, the ping of the tick that it takes, and nothing else. -/
theorem sends_step (signal : Signal) :
    sends (t.step view s signal).effects = handed view s t signal := by
  by_cases htick : signal = .tick
  · rw [htick]
    exact sends_tick view s t
  -- Whatever is not a tick goes on by itself, takes a frame, or hands over nothing.
  have hnone : ∀ {n : Turn}, signal ≠ .go → (∀ i, t.point = .idle → signal ≠ .incoming i) →
      sends n.effects = [] → sends n.effects = handed view s t signal := by
    intro n hgo hin hn
    rw [hn, handed_of_ne view s t hgo htick hin]
  apply step_cases view s t signal (P := fun n => sends n.effects = handed view s t signal)
  case stage =>
    rintro stage r - rfl
    refine hnone (by simp) (by simp) ?_
    cases r with
    | ok _ => cases stage <;> rfl
    | error error => rfl
  case write =>
    rintro w r - rfl
    refine hnone (by simp) (by simp) ?_
    cases w <;> cases r <;> rfl
  case close =>
    rintro r - rfl
    refine hnone (by simp) (by simp) ?_
    cases r <;> rfl
  case delivery =>
    rintro event panicked - rfl
    refine hnone (by simp) (by simp) ?_
    cases panicked <;> rfl
  case closeAsked =>
    rintro - rfl
    exact hnone (by simp) (by simp) rfl
  case tick => exact fun _ h => absurd h htick
  case wake =>
    rintro - rfl
    exact hnone (by simp) (by simp) rfl
  case incoming =>
    rintro i hp rfl
    cases i with
    | frame f =>
      rw [handed_incoming view s t hp]
      exact sends_takeFrame view s t f
    | failed error =>
      rw [handed, heard_of_ne (by simp), ticks_of_ne view t (by simp)]
      simp only [bookOp?, hp]
      rfl
    | ended =>
      rw [handed, heard_of_ne (by simp), ticks_of_ne view t (by simp)]
      simp only [bookOp?, hp]
      rfl
  case go =>
    rintro rfl
    exact sends_proceed view s t
  case stay =>
    intro hgo _ hin
    exact hnone (n := ⟨s, t, []⟩) hgo hin rfl

end Task

namespace Scene

/-- What the task sees at a tick of the heartbeat that it takes in a move. -/
def ticks (sc : Scene) : Move → List View
  | .step view signal => (sc.task?.map (·.ticks view signal)).getD []
  | _ => []

/-- The frames that the task takes in a run. -/
def heardOf (sc : Scene) (moves : List Move) : List Frame := collect move heard sc moves

/-- What the task sees at the ticks of a run. -/
def ticksOf (sc : Scene) (moves : List Move) : List View := collect move ticks sc moves

/-- Besides requests a move hands over the pong to a ping that the task takes and the ping of a tick
that it takes. -/
theorem signs_effects (sc : Scene) (m : Move) :
    signs (sc.effects m) =
      (sc.heard m).filterMap Frame.answer? ++ (sc.ticks m).filterMap View.beat? := by
  cases m with
  | call c =>
    have hlogs : sends (sc.effects (.call c)) = [] := sends_logs _
    rw [signs, hlogs]
    rfl
  | begin endpoint subscriptions =>
    have hlogs : sends (sc.effects (.begin endpoint subscriptions)) = [] := by
      show sends (sc.beginTask endpoint subscriptions).2 = []
      unfold beginTask
      split
      · exact sends_logs _
      · rfl
    rw [signs, hlogs]
    rfl
  | step view signal =>
    cases ht : sc.task? with
    | none =>
      have heffects : sc.effects (.step view signal) = [] := by
        show (sc.stepTask view signal).2 = []
        rw [stepTask, ht]
      rw [heffects, heard, ticks, ht]
      rfl
    | some task =>
      rw [signs, effects_step ht, Task.sends_step, Task.handed, List.filter_append, filter_requests,
        List.filter_append, filter_answers, filter_beats, List.nil_append, heard, ticks, ht]
      rfl

/-- Along a run the pongs and the pings that are handed over keep the order of what brings them
forth. -/
theorem interleaving_signs (sc : Scene) (moves : List Move) :
    Interleaving ((sc.heardOf moves).filterMap Frame.answer?)
      ((sc.ticksOf moves).filterMap View.beat?) (signs (sc.effectsOf moves)) := by
  induction moves generalizing sc with
  | nil => exact .nil
  | cons m ms ih =>
    rw [heardOf, ticksOf, effectsOf, collect_cons, collect_cons, collect_cons,
      List.filterMap_append, List.filterMap_append, signs_append, signs_effects]
    exact (Interleaving.of_append _ _).append (ih (sc.move m))

end Scene

/-! ## What brings forth a pong or a ping -/

/-- What a task hears of the connection alone. -/
def Signal.isUpkeep : Signal → Bool
  | .tick => true
  | .incoming (.frame (.ping _)) | .incoming (.frame (.pong _)) | .incoming (.frame (.raw _)) => true
  | _ => false

/-- What callers ask in a move. -/
def Move.call? : Move → Option Call
  | .call c => some c
  | _ => none

/-- Whether what the task has asked of the transport fails in a move. -/
def Move.fails : Move → Bool
  | .step _ (.outcome (.error _)) => true
  | _ => false

/-- A turn that leaves a session as it is, and either goes on waiting or writes one frame that is no
request. -/
def Task.Upkeep (s : Session) (n : Turn) : Prop :=
  n.session = s ∧
    (n.task.point = .idle ∧ sends n.effects = [] ∨
      ∃ w, n.task.point = .writing w ∧ w.frame.isText = false ∧ sends n.effects = [w.frame])

theorem Task.upkeep_beat (view : View) (s : Session) {t : Task} (hp : t.point = .idle) :
    Upkeep s (beat view s t) := by
  rw [Upkeep, sends_beat]
  cases hopen : view.isOpen with
  | true =>
    refine ⟨by simp [beat, hopen], Or.inr ⟨.ping, by simp [beat, hopen, goTo], rfl, ?_⟩⟩
    simp [View.beat?, hopen, Write.frame]
  | false =>
    refine ⟨by simp [beat, hopen], Or.inl ⟨by simp [beat, hopen, hp], ?_⟩⟩
    simp [View.beat?, hopen]

/-- Whether the last ping is expired or not, upkeep is no more than this. -/
theorem Task.upkeep_step (view : View) (s : Session) {t : Task} {signal : Signal}
    (hp : t.point = .idle) (h : signal.isUpkeep = true) : Upkeep s (t.step view s signal) := by
  unfold Signal.isUpkeep at h
  split at h
  · simp only [step, hp]
    split_ifs
    · exact upkeep_beat view s hp
    · exact ⟨rfl, Or.inl ⟨hp, rfl⟩⟩
  · rename_i payload
    simp only [step, hp]
    exact ⟨rfl, Or.inr ⟨.pong payload, rfl, rfl, rfl⟩⟩
  · simp only [step, hp]
    exact ⟨rfl, Or.inl ⟨hp, rfl⟩⟩
  · simp only [step, hp]
    exact ⟨rfl, Or.inl ⟨hp, rfl⟩⟩
  · cases h

/-- The write of a frame that is no request ends by itself, and touches nothing. -/
theorem Task.step_of_writing (view : View) (s : Session) {t : Task} {w : Write}
    (hp : t.point = .writing w) (hw : w.frame.isText = false) (r : Except FeedError Unit) :
    (t.step view s (.outcome r)).session = s ∧ sends (t.step view s (.outcome r)).effects = [] ∧
      (t.step view s (.outcome r)).task.point =
        if (Move.step view (.outcome r)).fails then .ending else .idle := by
  simp only [step, hp]
  cases w with
  | request subscriptions => cases hw
  | ping => cases r <;> exact ⟨rfl, rfl, rfl⟩
  | pong payload => cases r <;> exact ⟨rfl, rfl, rfl⟩

namespace Scene

/-- What comes of some moves in which a task has nothing to do but a write: callers alone change the
session, nothing else is written, and the end begins only when the write fails. -/
def OnlyWrites (sc : Scene) (ms : List Move) : Prop :=
  (sc.play ms).session = (sc.session.obeyAll (ms.filterMap Move.call?)).1 ∧
    sends (sc.effectsOf ms) = [] ∧
    ((sc.play ms).point? = sc.point? ∧ (∀ m ∈ ms, m.fails = false) ∨
      (sc.play ms).point? = some .idle ∧ (∀ m ∈ ms, m.fails = false) ∨
      (sc.play ms).point? = some .ending ∧ ∃ m ∈ ms, m.fails = true)

theorem onlyWrites_nil (sc : Scene) : sc.OnlyWrites [] := ⟨rfl, rfl, Or.inl ⟨rfl, nofun⟩⟩

theorem Errand.eq_nil {sc : Scene} {ms : List Move} (h : sc.Errand ms) (hb : sc.isBusy = false) :
    ms = [] := by
  cases ms with
  | nil => rfl
  | cons m ms => rw [h.1] at hb; cases hb

/-- What comes between two steps of a task that is at work. -/
theorem onlyWrites_cons {sc : Scene} {m : Move} {ms : List Move}
    (hsession : (sc.move m).session = (sc.session.obeyAll (Option.toList m.call?)).1)
    (hsends : sends (sc.effects m) = []) (hpoint : (sc.move m).point? = sc.point?)
    (hm : m.fails = false) (h : (sc.move m).OnlyWrites ms) : sc.OnlyWrites (m :: ms) := by
  obtain ⟨hs, hes, hends⟩ := h
  refine ⟨?_, ?_, ?_⟩
  · rw [play_cons, hs, hsession]
    cases hc : m.call? with
    | none => rw [List.filterMap_cons_none hc]; rfl
    | some c => rw [List.filterMap_cons_some hc]; rfl
  · rw [effectsOf, collect_cons, sends_append, hsends]
    exact hes
  · simpa [hpoint, hm] using hends

/-- A write that is done ends an errand. -/
theorem onlyWrites_outcome {sc : Scene} {w : Write} {ms : List Move}
    (hp : sc.point? = some (.writing w)) (hw : w.frame.isText = false) (view : View)
    (r : Except FeedError Unit) (h : (sc.move (.step view (.outcome r))).Errand ms) :
    sc.OnlyWrites (.step view (.outcome r) :: ms) := by
  obtain ⟨task, ht, hpoint⟩ := Option.map_eq_some_iff.mp hp
  obtain ⟨hsession, hsends, hnext⟩ := Task.step_of_writing view sc.session hpoint hw r
  have hpoint' : (sc.move (.step view (.outcome r))).point? =
      some (if (Move.step view (.outcome r)).fails then .ending else .idle) := by
    rw [move_step ht, ← hnext]
    rfl
  have hms : ms = [] := h.eq_nil (by rw [isBusy, hpoint']; cases r <;> rfl)
  subst hms
  refine ⟨?_, ?_, ?_⟩
  · rw [play_cons, move_step ht]
    exact hsession
  · rw [effectsOf_singleton, effects_step ht]
    exact hsends
  · rw [play_cons, play_nil, hpoint']
    cases r with
    | ok _ => exact Or.inr (Or.inl ⟨rfl, by simp [Move.fails]⟩)
    | error error => exact Or.inr (Or.inr ⟨rfl, by simp [Move.fails]⟩)

theorem Errand.onlyWrites {sc : Scene} {w : Write} {ms : List Move} (h : sc.Errand ms)
    (hp : sc.point? = some (.writing w)) (hw : w.frame.isText = false) : sc.OnlyWrites ms := by
  induction ms generalizing sc with
  | nil => exact onlyWrites_nil sc
  | cons m ms ih =>
    obtain ⟨task, ht, hpoint⟩ := Option.map_eq_some_iff.mp hp
    -- A move that is no outcome of the write leaves the task where it is.
    have hstays : sc.move m = sc → sc.effects m = [] → m.call? = none → m.fails = false →
        sc.OnlyWrites (m :: ms) := by
      intro hmove heffects hcall hfails
      refine onlyWrites_cons ?_ (by rw [heffects]; rfl) (by rw [hmove]) hfails ?_
      · rw [hmove, hcall]
        rfl
      · exact ih h.2 (by rw [hmove]; exact hp)
    cases m with
    | call c => exact onlyWrites_cons rfl (sends_logs _) rfl rfl (ih h.2 hp)
    | begin endpoint subscriptions =>
      refine hstays (move_begin ht endpoint subscriptions) ?_ rfl rfl
      show (sc.beginTask endpoint subscriptions).2 = []
      rw [beginTask_of_isSome (by simp [ht])]
    | step view signal =>
      cases signal with
      | outcome r => exact onlyWrites_outcome hp hw view r h.2
      | _ =>
        have hstep : ∀ signal, task.point.takes signal = false →
            task.step view sc.session signal = ⟨sc.session, task, []⟩ := fun signal =>
          Task.step_of_not_takes view sc.session (by rw [hpoint]; rfl)
        refine hstays ?_ ?_ rfl rfl
        · rw [move_step ht, hstep _ (by rw [hpoint]; rfl), ← ht]
        · rw [effects_step ht, hstep _ (by rw [hpoint]; rfl)]

/-! ## The main fact -/

/-- **Besides requests a session sends the answers to pings and the pings of its heartbeat, and what
brings these forth touches nothing else.** This holds wherever callers, transport and clock have led a
session, whether its writes have succeeded or not:

* the text that has been handed to the transport is requests; what else has been handed over is put
  together of one pong for each ping that the task has taken, with that ping's payload and in the
  order of the pings, and of one empty ping for each tick that has found the transport connected;
* no other frame, no data, no acknowledgement and no call brings forth a pong or a ping;
* a ping, a pong, a raw frame or a tick, expired or not, leaves the session as it is, and at most one
  frame is written, which is no request; until that is done callers alone change the session,
  nothing else is written, and the task goes on waiting unless the write fails. -/
theorem besides_requests_answers_and_beats (id : Nat) (settings : StreamConfig)
    (moves : List Move) :
    let run := start id settings
    let sc := run.play moves
    (∃ batches : List (List Subscription),
      (sends (run.effectsOf moves)).filter Frame.isText = batches.map Frame.subscribing) ∧
    Interleaving ((run.heardOf moves).filterMap Frame.answer?)
      ((run.ticksOf moves).filterMap View.beat?)
      ((sends (run.effectsOf moves)).filter fun f => !f.isText) ∧
    (∀ m, (sends (sc.effects m)).filter (fun f => !f.isText) =
      (sc.heard m).filterMap Frame.answer? ++ (sc.ticks m).filterMap View.beat?) ∧
    (∀ view signal, sc.point? = some .idle → signal.isUpkeep = true →
      let m := Move.step view signal
      (sc.move m).session = sc.session ∧
      ((sc.move m).point? = some .idle ∧ sends (sc.effects m) = [] ∨
        ∃ w, (sc.move m).point? = some (.writing w) ∧ w.frame.isText = false ∧
          sends (sc.effects m) = [w.frame]) ∧
      ∀ ms, (sc.move m).Errand ms → (sc.move m).OnlyWrites ms) := by
  intro run sc
  refine ⟨⟨_, (filter_sends _).trans (run.requests_effectsOf moves)⟩, run.interleaving_signs moves,
    sc.signs_effects, ?_⟩
  intro view signal hp hupkeep m
  obtain ⟨task, ht, hpoint⟩ := Option.map_eq_some_iff.mp hp
  obtain ⟨hsession, hcases⟩ := Task.upkeep_step view sc.session hpoint hupkeep
  have hmove : (sc.move m).point? = some (task.step view sc.session signal).task.point := by
    rw [move_step ht]
    rfl
  rw [effects_step ht, hmove]
  refine ⟨by rw [move_step ht]; exact hsession, ?_, fun ms herrand => ?_⟩
  · rcases hcases with ⟨hidle, hsends⟩ | ⟨w, hw, htext, hsends⟩
    · exact Or.inl ⟨by rw [hidle], hsends⟩
    · exact Or.inr ⟨w, by rw [hw], htext, hsends⟩
  · rcases hcases with ⟨hidle, -⟩ | ⟨w, hw, htext, -⟩
    · rw [herrand.eq_nil (by rw [isBusy, hmove, hidle]; rfl)]
      exact onlyWrites_nil _
    · exact herrand.onlyWrites (by rw [hmove, hw]) htext

/-- A ping is answered: the session is as before, one frame is written, and the task waits again. -/
theorem pinged_tickers_answered :
    let sc := (start 1 .default).play (opening [.tickers "A"])
    let pinged := sc.move (hear (.ping [7]))
    sc.point? = some .idle ∧ pinged.Errand [done] ∧
      pinged.session = sc.session ∧
      sends (sc.effects (hear (.ping [7]))) = [.pong [7]] ∧
      (pinged.play [done]).session = sc.session ∧ (pinged.play [done]).point? = some .idle := by
  intro sc pinged
  have hp : sc.point? = some .idle := rfl
  have herrand : pinged.Errand [done] := ⟨by decide +kernel, trivial⟩
  have hpong : pinged.point? = some (.writing (.pong [7])) := rfl
  obtain ⟨-, -, -, hupkeep⟩ :=
    besides_requests_answers_and_beats 1 .default (opening [.tickers "A"])
  obtain ⟨hsession, hwritten, honly⟩ :=
    hupkeep ⟨0, true⟩ (.incoming (.frame (.ping [7]))) hp rfl
  obtain ⟨hafter, -, hends⟩ := honly [done] herrand
  have hdone : (pinged.play [done]).point? = some .idle := rfl
  refine ⟨hp, herrand, hsession, ?_, hafter.trans hsession, hdone⟩
  rcases hwritten with ⟨hidle, -⟩ | ⟨w, hw, -, hsends⟩
  · exact nomatch hpong.symm.trans hidle
  · obtain rfl : Write.pong [7] = w := Point.writing.inj (Option.some.inj (hpong.symm.trans hw))
    exact hsends

end Scene

end MarketFeed
