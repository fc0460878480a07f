import MarketFeed.Proofs.Session.Reading
import MarketFeed.Proofs.Session.Waiting

/-!
# Idle retirement

A session that has nothing confirmed and nothing waiting stops. The task looks in two steps, first
whether anything waits and then whether the book may retire, and callers may stage in between. Main
fact: the task stops exactly when nothing is confirmed and nothing waits at the second step, and no
staged subscription is lost by that (`retires_exactly_when_idle`).
-/

namespace MarketFeed

open Trace

/-- What a task may hear of that has nothing to do with what is confirmed. -/
def Signal.isAside : Signal → Bool
  | .tick | .wake => true
  | .incoming (.frame (.ping _)) | .incoming (.frame (.pong _)) | .incoming (.frame (.raw _)) => true
  | _ => false

/-- Where a task may come from something aside, without looking whether the book may retire. -/
def Point.isAside : Point → Bool
  | .idle | .writing _ | .waking | .flushing | .ending => true
  | _ => false

theorem Session.subscribe_of_retired {s : Session} (h : s.book.accepting = false)
    (sub : Subscription) : s.subscribe sub = (s, [], false) := by
  have hclosed := (Book.outcome_eq_closed_iff s.book sub).mpr h
  unfold subscribe
  rw [Book.stage_eq, hclosed]

namespace Task

theorem step_of_aside (view : View) (s : Session) {t : Task} {signal : Signal}
    (hp : t.point = .idle) (h : signal.isAside = true) :
    (t.step view s signal).session.book = s.book ∧
      (t.step view s signal).task.point.isAside = true := by
  unfold Signal.isAside at h
  split at h
  · simp only [step, hp]
    unfold beat
    split_ifs <;> simp [goTo, Point.isAside, hp]
  · simp only [step, hp]
    split_ifs <;> simp [goTo, Point.isAside, hp]
  · simp [step, hp, takeIncoming, takeFrame, goTo, Point.isAside]
  · simp [step, hp, takeIncoming, takeFrame, Point.isAside]
  · simp [step, hp, takeIncoming, takeFrame, Point.isAside]
  · cases h

end Task

theorem Work.aside {b b' : Book} {p p' : Point} {signal : Signal} (h : Work b p signal b' p')
    (hp : p.isAside = true) : b'.accepting = b.accepting ∧ p'.isAside = true := by
  cases h <;> first | exact ⟨rfl, rfl⟩ | cases hp

namespace Scene

/-- The task does not stop for being idle in any of some moves. -/
def StaysOn (sc : Scene) (moves : List Move) : Prop :=
  ∀ before m after, moves = before ++ m :: after → ¬ (sc.play before).StopsIdle m

theorem not_isDrained_of_retiring {sc : Scene} (h : sc.point? = some .retiring) :
    sc.isDrained = false := by
  obtain ⟨task, ht, hp⟩ := Option.map_eq_some_iff.mp h
  rw [isDrained, ht]
  simp [hp, Point.isDrained]

/-- What waits is in the next request. As long as there is none the task does not stop for being idle,
and what waits goes on waiting, unless the book has retired for another reason. -/
theorem request_or_staysOn {sc : Scene} (hopen : sc.Open) (hsound : sc.session.book.Sound)
    {s : Subscription} (hs : s ∈ sc.session.book.pending) (later : List Move) :
    (∃ batch rest, requests (sc.effectsOf later) = (batch :: rest).map Frame.subscribing ∧
        s ∈ batch) ∨
      requests (sc.effectsOf later) = [] ∧ sc.StaysOn later ∧
        (s ∈ (sc.play later).session.book.pending ∨ (sc.play later).isDrained = true) := by
  rcases next_request hsound hs later with hrequest | ⟨hnone, hwaits⟩
  · exact Or.inl hrequest
  refine Or.inr ⟨hnone, ?_, hwaits⟩
  rintro before m after rfl hstops
  obtain ⟨hlooks, -, hnil⟩ := ((hopen.play before).stopsIdle_iff m).mp hstops
  rw [effectsOf_append, requests_append, List.append_eq_nil_iff] at hnone
  rcases next_request hsound hs before with ⟨batch, rest, hrequests, -⟩ | ⟨-, hwaits | hdrained⟩
  · rw [hnone.1] at hrequests
    cases hrequests
  · rw [hnil] at hwaits
    cases hwaits
  · rw [not_isDrained_of_retiring hlooks.1] at hdrained
    cases hdrained

/-! ## What a task that has stopped leaves behind -/

/-- A task that stops for being idle has requested all that was ever staged. -/
theorem StopsIdle.all_requested {id : Nat} {settings : StreamConfig} {moves : List Move} {m : Move}
    (h : ((start id settings).play moves).StopsIdle m) :
    ∃ batches : List (List Subscription),
      requests ((start id settings).effectsOf moves) = batches.map Frame.subscribing ∧
      batches.flatten = (start id settings).stagedOf moves := by
  obtain ⟨hlooks, -, hnil⟩ := ((open_play id settings moves).stopsIdle_iff m).mp h
  have hretire : .retire ∉ (start id settings).opsOf moves := by
    intro hmem
    have hdrained := isDrained_of_retire_mem_opsOf hmem
    rw [not_isDrained_of_retiring hlooks.1] at hdrained
    cases hdrained
  have hflow := Book.flatten_batches_append_pending (start id settings).session.book
    ((start id settings).opsOf moves) hretire
  rw [← book_play, hnil, List.append_nil] at hflow
  exact ⟨_, requests_effectsOf _ moves, hflow⟩

/-- Once the task has stopped for being idle, the session refuses all subscriptions and records none. -/
theorem StopsIdle.subscribe_eq {sc : Scene} {m : Move} (h : sc.StopsIdle m) (later : List Move)
    (s : Subscription) :
    ((sc.move m).play later).session.subscribe s =
      (((sc.move m).play later).session, [], false) :=
  Session.subscribe_of_retired
    (foldl_invariant (I := fun sc : Scene => sc.session.book.accepting = false)
      (fun _ m h => accepting_move h m) (by rw [h.retires.2.2]) later) s

/-! ## What leads to a look at the book, and what does not -/

/-- What can be read leads to work that is over after five steps at most. -/
theorem reading_of_readable {sc : Scene} (hp : sc.point? = some .idle) {f : Frame}
    (hf : f.isReadable = true) (view : View) :
    (sc.move (.step view (.incoming (.frame f)))).Reading ∧
      (sc.move (.step view (.incoming (.frame f)))).left ≤ 5 := by
  obtain ⟨task, ht, hpoint⟩ := Option.map_eq_some_iff.mp hp
  have hp' : (sc.move (.step view (.incoming (.frame f)))).point? =
      some (task.step view sc.session (.incoming (.frame f))).task.point := by
    rw [move_step ht]
    rfl
  rw [left, hp']
  rcases Task.point_step_of_readable view sc.session hpoint hf with hnext | ⟨event, hnext⟩
  · rw [hnext] at hp' ⊢
    exact ⟨⟨_, hp', trivial⟩, by decide⟩
  · rw [hnext] at hp' ⊢
    exact ⟨⟨_, hp', trivial⟩, Nat.le_refl 5⟩

/-- Something aside leaves the book as it is. -/
theorem move_of_aside {sc : Scene} (hp : sc.point? = some .idle) {signal : Signal}
    (h : signal.isAside = true) (view : View) :
    (sc.move (.step view signal)).session.book = sc.session.book ∧
      ∃ p, (sc.move (.step view signal)).point? = some p ∧ p.isAside = true := by
  obtain ⟨task, ht, hpoint⟩ := Option.map_eq_some_iff.mp hp
  obtain ⟨hbook, haside⟩ := Task.step_of_aside view sc.session hpoint h
  rw [move_step ht]
  exact ⟨hbook, _, rfl, haside⟩

/-- Something aside leads to no look at the book. -/
theorem Errand.aside {sc : Scene} {ms : List Move} (h : sc.Errand ms) {p : Point}
    (hp : sc.point? = some p) (haside : p.isAside = true) :
    (∃ p', (sc.play ms).point? = some p' ∧ p'.isAside = true) ∧
      (sc.play ms).session.book.accepting = sc.session.book.accepting := by
  refine h.keeps (I := fun sc' => (∃ p', sc'.point? = some p' ∧ p'.isAside = true) ∧
    sc'.session.book.accepting = sc.session.book.accepting) ?_ ⟨⟨p, hp, haside⟩, rfl⟩
  rintro sc' m hbusy ⟨⟨p', hp', haside'⟩, ha⟩
  rw [isBusy_eq hp'] at hbusy
  rcases busy_move hp' hbusy m with ⟨view, signal, q, -, -, hq, hwork⟩ | ⟨-, hq, hbetween⟩
  · obtain ⟨ha', haside''⟩ := hwork.aside haside'
    exact ⟨⟨q, hq, haside''⟩, ha'.trans ha⟩
  · exact ⟨⟨p', hq, haside'⟩, hbetween.accepting_eq.trans ha⟩

theorem Errand.staysOn_of_aside {sc : Scene} {ms : List Move} (h : sc.Errand ms) {p : Point}
    (hp : sc.point? = some p) (haside : p.isAside = true) : sc.StaysOn ms := by
  rintro before m after rfl ⟨hretiring, -⟩
  obtain ⟨⟨p', hp', haside'⟩, -⟩ := ((errand_append sc before _).mp h).1.aside hp haside
  rw [hretiring] at hp'
  cases hp'
  cases haside'

/-! ## The main fact -/

/-- **A session retires exactly when it is idle, and no subscription that it has taken is lost by
that.** This holds wherever callers, transport and clock have led a session, and whatever they do
next:

* the task stops for being idle exactly when, at its second look, nothing is confirmed and nothing
  waits; a look that finds anything changes nothing but the place of the task;
* whatever can be read leads to such a look or to a request, in five steps of the task at most;
* when the task stops so, all that was ever staged has been requested, and the session refuses all
  that comes later and records nothing;
* what is staged before, be it between the two looks, keeps the session from stopping until it has
  been requested, and a task that waits is awake to it;
* a ping, a pong, a raw frame, a tick or a wake-up leads to no look. -/
theorem retires_exactly_when_idle (id : Nat) (settings : StreamConfig) (moves : List Move) :
    let sc := (start id settings).play moves
    (∀ m, sc.StopsIdle m ↔ sc.Looks m ∧
        sc.session.book.confirmed = [] ∧ sc.session.book.pending = []) ∧
    (∀ m, sc.Looks m → ¬ (sc.session.book.confirmed = [] ∧ sc.session.book.pending = []) →
      sc.move m = { sc with task? := sc.task?.map (·.goTo .idle) } ∧ sc.effects m = []) ∧
    (∀ view f, sc.point? = some .idle → f.isReadable = true →
      ∀ ms, (sc.move (.step view (.incoming (.frame f)))).Errand ms →
        (sc.move (.step view (.incoming (.frame f)))).attended ms ≤ 5 ∧
        (((sc.move (.step view (.incoming (.frame f)))).play ms).isBusy = false →
          ∃ before m, ms = before ++ [m] ∧
            (((sc.move (.step view (.incoming (.frame f)))).play before).Looks m ∨
              ((sc.move (.step view (.incoming (.frame f)))).play before).HearsOfRequest m))) ∧
    (∀ m, sc.StopsIdle m →
      sc.effects m = [.log (.warning s!"{sc.session.title}: no subscriptions, closing")] ∧
      (∃ batches : List (List Subscription),
        requests ((start id settings).effectsOf moves) = batches.map Frame.subscribing ∧
        batches.flatten = (start id settings).stagedOf moves) ∧
      ∀ later s, ((sc.move m).play later).session.subscribe s =
        (((sc.move m).play later).session, [], false)) ∧
    (∀ s ∈ sc.session.book.pending, ∀ later,
      (∃ batch rest, requests (sc.effectsOf later) = (batch :: rest).map Frame.subscribing ∧
        s ∈ batch) ∨
      requests (sc.effectsOf later) = [] ∧ sc.StaysOn later ∧
        (s ∈ (sc.play later).session.book.pending ∨ (sc.play later).isDrained = true)) ∧
    (sc.point? = some .idle → sc.session.book.pending ≠ [] →
      ∀ v₁ v₂ v₃ (calls calls' : List Call), ∃ batch,
        requests (sc.effectsOf ([.step v₁ .wake] ++ calls.map .call ++ [.step v₂ .go] ++
          calls'.map .call ++ [.step v₃ .go])) = [Frame.subscribing batch] ∧
        ∀ s ∈ sc.session.book.pending, s ∈ batch) ∧
    (∀ view signal, sc.point? = some .idle → signal.isAside = true →
      (sc.move (.step view signal)).session.book = sc.session.book ∧
      ∀ ms, (sc.move (.step view signal)).Errand ms →
        (sc.move (.step view signal)).StaysOn ms ∧
        ((sc.move (.step view signal)).play ms).session.book.accepting =
          sc.session.book.accepting) := by
  intro sc
  have hopen : sc.Open := open_play id settings moves
  have hsound : sc.session.book.Sound := sound_play id settings moves
  have hroused : sc.Roused := roused_play id settings moves
  refine ⟨fun m => hopen.stopsIdle_iff m, fun m hm hkeep => hopen.move_of_looks hm hkeep, ?_,
    fun m hm => ⟨hm.effects_eq, hm.all_requested, hm.subscribe_eq⟩,
    fun s hs later => request_or_staysOn hopen hsound hs later,
    fun hp hpending => request_of_wake hroused hsound hp hpending, ?_⟩
  · intro view f hp hf ms herrand
    obtain ⟨hreading, hleft⟩ := reading_of_readable hp hf view
    have hbound := herrand.attended_add_left_le
    exact ⟨by omega, herrand.ends hreading⟩
  · intro view signal hp haside
    obtain ⟨hbook, p, hp', hpaside⟩ := move_of_aside hp haside view
    refine ⟨hbook, fun ms herrand => ⟨herrand.staysOn_of_aside hp' hpaside, ?_⟩⟩
    rw [(herrand.aside hp' hpaside).2, hbook]

end Scene

end MarketFeed
