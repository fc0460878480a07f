import MarketFeed.Proofs.Session.Open

/-!
# What waits is requested

Whoever stages a subscription while the task serves the session wakes the task (`roused_play`), and a
task that has been woken requests all that waits in two more steps (`request_of_wake`). Whatever else
happens, what waits is in the next request or goes on waiting (`next_request`).
-/

namespace MarketFeed

open Trace

/-- Whether a task that stands here has requested what was staged before it began. -/
def Point.isServing : Point → Bool
  | .idle | .writing _ | .delivering _ | .settling | .retiring => true
  | _ => false

theorem Session.subscribe_eq_or_wakes (s : Session) (sub : Subscription) :
    (s.subscribe sub).1 = s ∨ (s.subscribe sub).1.wake = true := by
  unfold subscribe
  rw [Book.stage_eq]
  cases s.book.outcome sub <;> simp

theorem Book.pending_confirm (b : Book) (s : Subscription) : (b.confirm s).pending = b.pending := by
  unfold Book.confirm
  split_ifs <;> rfl

/-! ## Whoever stages wakes the task -/

namespace Task

/-- A turn after which a task that serves has nothing to request, unless it served before and nothing
that waits has changed. -/
def Rouses (s : Session) (t : Task) (n : Turn) : Prop :=
  n.task.point.isServing = true →
    n.session.book.pending = [] ∨
      t.point.isServing = true ∧ n.session.book.pending = s.book.pending ∧
        n.session.wake = s.wake

theorem waiting_takeIncoming (view : View) (s : Session) (t : Task) (i : Incoming) :
    (takeIncoming view s t i).session.book.pending = s.book.pending ∧
      (takeIncoming view s t i).session.wake = s.wake := by
  have hmessage : ∀ m, (takeMessage s t m).session.book.pending = s.book.pending ∧
      (takeMessage s t m).session.wake = s.wake := by
    rintro (fault | _ | ack | event)
    · rw [takeMessage]
      split_ifs <;> exact ⟨rfl, rfl⟩
    · exact ⟨rfl, rfl⟩
    · cases ack with
      | subscribed sub => exact ⟨s.book.pending_confirm sub, rfl⟩
      | unsubscribed sub => exact ⟨rfl, rfl⟩
      | refused code message => exact ⟨rfl, rfl⟩
    · exact ⟨rfl, rfl⟩
  cases i with
  | ended => exact ⟨rfl, rfl⟩
  | failed error => exact ⟨rfl, rfl⟩
  | frame f => cases f <;> first | exact ⟨rfl, rfl⟩ | exact hmessage _

theorem rouses_proceed (view : View) (s : Session) (t : Task) : Rouses s t (proceed view s t) := by
  unfold Rouses proceed
  cases hp : t.point with
  | flushing =>
    intro _
    left
    simp only [Book.take]
    cases s.book.pending <;> rfl
  | settling => exact fun _ => Or.inr ⟨rfl, rfl, rfl⟩
  | waking =>
    intro hn
    left
    dsimp only at hn ⊢
    split_ifs at hn with hw
    · cases hn
    · exact not_not.mp (mt (Book.hasPending_iff s.book).mpr hw)
  | retiring =>
    simp only [Book.retireIfIdle_eq]
    split_ifs
    · exact fun _ => Or.inr ⟨rfl, rfl, rfl⟩
    · exact fun hn => absurd hn Bool.false_ne_true
  | before stage =>
    dsimp only
    split_ifs <;> exact fun hn => absurd hn Bool.false_ne_true
  | connected =>
    dsimp only
    split_ifs <;> exact fun hn => absurd hn Bool.false_ne_true
  | parting =>
    dsimp only
    split_ifs <;> exact fun hn => absurd hn Bool.false_ne_true
  | idle => exact fun _ => Or.inr ⟨rfl, rfl, rfl⟩
  | writing w => exact fun _ => Or.inr ⟨rfl, rfl, rfl⟩
  | delivering event => exact fun _ => Or.inr ⟨rfl, rfl, rfl⟩
  | _ => exact fun hn => absurd hn (by simp [goTo, hp, Point.isServing])

theorem rouses_step (view : View) (s : Session) (t : Task) (signal : Signal) :
    Rouses s t (t.step view s signal) := by
  apply step_cases view s t signal
  case stage =>
    rintro stage r - - hn
    cases r with
    | ok _ => cases stage <;> cases hn
    | error error => cases hn
  case write =>
    rintro w r hp - hn
    refine Or.inr ⟨by rw [hp]; rfl, ?_⟩
    cases w <;> cases r <;> exact ⟨rfl, rfl⟩
  case close =>
    rintro r - - hn
    cases r <;> cases hn
  case delivery => exact fun event panicked hp _ _ => Or.inr ⟨by rw [hp]; rfl, rfl, rfl⟩
  case closeAsked => exact fun _ _ hn => absurd hn Bool.false_ne_true
  case tick =>
    rintro hp - -
    refine Or.inr ⟨by rw [hp]; rfl, ?_⟩
    unfold beat
    split_ifs <;> exact ⟨rfl, rfl⟩
  case wake => exact fun _ _ hn => absurd hn Bool.false_ne_true
  case incoming =>
    exact fun i hp _ _ => Or.inr ⟨by rw [hp]; rfl, waiting_takeIncoming view s t i⟩
  case go => exact fun _ => rouses_proceed view s t
  case stay => exact fun _ _ _ hn => Or.inr ⟨hn, rfl, rfl⟩

end Task

namespace Scene

/-- While a task serves the session, what waits has woken it. -/
def Roused (sc : Scene) : Prop :=
  ∀ p, sc.point? = some p → p.isServing = true → sc.session.book.pending ≠ [] →
    sc.session.wake = true

theorem Roused.move {sc : Scene} (h : sc.Roused) (m : Move) : (sc.move m).Roused := by
  cases m with
  | call c =>
    intro p hp hserving hpending
    have hold := h p hp hserving
    cases c with
    | subscribe sub =>
      show (sc.session.subscribe sub).1.wake = true
      have hnew : (sc.session.subscribe sub).1.book.pending ≠ [] := hpending
      rcases sc.session.subscribe_eq_or_wakes sub with hsame | hwakes
      · rw [hsame] at hnew ⊢
        exact hold hnew
      · exact hwakes
    | close =>
      show sc.session.close.wake = true
      have hnew : sc.session.close.book.pending ≠ [] := hpending
      rw [book_close] at hnew
      unfold Session.close
      split_ifs <;> exact hold hnew
  | begin endpoint subscriptions =>
    cases ht : sc.task? with
    | some task =>
      rw [move_begin ht]
      exact h
    | none =>
      by_cases hs : subscriptions = []
      · have hmove : sc.move (.begin endpoint subscriptions) = sc := by
          rw [hs]
          exact congrArg Prod.fst (beginTask_nil sc endpoint)
        rw [hmove]
        exact h
      · have hmove : (sc.move (.begin endpoint subscriptions)).point? = some .fresh := by
          show (sc.beginTask endpoint subscriptions).1.point? = _
          rw [beginTask_of_isNone ht endpoint hs]
          rfl
        intro p hp hserving
        rw [hmove] at hp
        cases hp
        cases hserving
  | step view signal =>
    cases ht : sc.task? with
    | none =>
      rw [move_step_of_isNone ht]
      exact h
    | some task =>
      rw [move_step ht]
      intro p hp hserving hpending
      cases hp
      rcases Task.rouses_step view sc.session task signal hserving with
        hnil | ⟨hserved, hsame, hwake⟩
      · exact absurd hnil hpending
      · rw [hsame] at hpending
        exact hwake.trans (h task.point (by rw [point?, ht]; rfl) hserved hpending)

theorem roused_play (id : Nat) (settings : StreamConfig) (moves : List Move) :
    ((start id settings).play moves).Roused :=
  foldl_invariant (I := Roused) (fun _ m h => h.move m) (fun _ hp => by cases hp) moves

/-! ## What waits is not lost -/

theorem sound_play (id : Nat) (settings : StreamConfig) (moves : List Move) :
    ((start id settings).play moves).session.book.Sound := by
  rw [book_play]
  exact foldl_invariant (I := Book.Sound) (fun _ op h => h.perform op)
    (Book.sound_new settings.capacity) _

/-- What waits is in the next request. As long as there is none it goes on waiting, unless the book
has retired for good. -/
theorem next_request {sc : Scene} (hsound : sc.session.book.Sound) {s : Subscription}
    (hs : s ∈ sc.session.book.pending) (later : List Move) :
    (∃ batch rest, requests (sc.effectsOf later) = (batch :: rest).map Frame.subscribing ∧
        s ∈ batch) ∨
      requests (sc.effectsOf later) = [] ∧
        (s ∈ (sc.play later).session.book.pending ∨ (sc.play later).isDrained = true) := by
  rw [requests_effectsOf, book_play]
  rcases Book.first_batch_of_mem_pending hsound hs (sc.opsOf later) with
    ⟨batch, rest, hbatches, hmem⟩ | ⟨hnone, hwaits | hretire⟩
  · exact Or.inl ⟨batch, rest, by rw [hbatches], hmem⟩
  · exact Or.inr ⟨by rw [hnone]; rfl, Or.inl hwaits⟩
  · exact Or.inr ⟨by rw [hnone]; rfl, Or.inr (isDrained_of_retire_mem_opsOf hretire)⟩

/-- Callers leave the task where it is and request nothing, and what waits goes on waiting. -/
theorem play_calls (sc : Scene) (calls : List Call) :
    (sc.play (calls.map .call)).point? = sc.point? ∧
      requests (sc.effectsOf (calls.map .call)) = [] ∧
      (sc.session.book.pending ≠ [] →
        (sc.play (calls.map .call)).session.book.pending ≠ []) := by
  induction calls generalizing sc with
  | nil => exact ⟨rfl, rfl, id⟩
  | cons c calls ih =>
    obtain ⟨hpoint, hrequests, hpending⟩ := ih (sc.move (.call c))
    have hquiet : requests (sc.effects (.call c)) = [] := by cases c <;> exact requests_logs _
    refine ⟨hpoint, ?_, fun hne => hpending ?_⟩
    · rw [List.map_cons, effectsOf, collect_cons, requests_append, hquiet]
      exact hrequests
    · obtain ⟨s, hs⟩ := List.exists_mem_of_ne_nil _ hne
      exact List.ne_nil_of_mem ((between_call sc c).mem_pending hs)

/-- A task that waits while something is staged notices it. -/
theorem move_wake {sc : Scene} (hroused : sc.Roused) (hp : sc.point? = some .idle)
    (hpending : sc.session.book.pending ≠ []) (view : View) :
    (sc.move (.step view .wake)).point? = some .waking ∧
      (sc.move (.step view .wake)).session.book = sc.session.book ∧
      requests (sc.effectsOf [.step view .wake]) = [] := by
  obtain ⟨task, ht, hpoint⟩ := Option.map_eq_some_iff.mp hp
  have hturn : task.step view sc.session .wake =
      ⟨{ sc.session with wake := false }, task.goTo .waking, []⟩ := by
    simp only [Task.step, hpoint]
    rw [if_pos (hroused _ hp rfl hpending)]
  have hop : task.bookOp? .wake = none := by simp [Task.bookOp?, hpoint]
  have hmove := move_step ht view .wake
  rw [hturn] at hmove
  rw [effectsOf_singleton, requests_step ht, hop, hmove]
  exact ⟨rfl, rfl, rfl⟩

theorem move_waking {sc : Scene} (hp : sc.point? = some .waking)
    (hpending : sc.session.book.pending ≠ []) (view : View) :
    (sc.move (.step view .go)).point? = some .flushing ∧
      (sc.move (.step view .go)).session.book = sc.session.book ∧
      requests (sc.effectsOf [.step view .go]) = [] := by
  obtain ⟨task, ht, hpoint⟩ := Option.map_eq_some_iff.mp hp
  obtain ⟨p', hp', hwork⟩ := point?_move_step hp .go rfl view
  have hop : task.bookOp? .go = none := by simp [Task.bookOp?, hpoint]
  rw [effectsOf_singleton, requests_step ht, hop, hp']
  generalize (sc.move (.step view .go)).session.book = b at hwork ⊢
  cases hwork with
  | flush _ => exact ⟨rfl, rfl, rfl⟩
  | stale hnil => exact absurd hnil hpending

theorem requests_flushing {sc : Scene} (hp : sc.point? = some .flushing)
    (hpending : sc.session.book.pending ≠ []) (view : View) :
    requests (sc.effectsOf [.step view .go]) = [Frame.subscribing sc.session.book.pending] := by
  obtain ⟨task, ht, hpoint⟩ := Option.map_eq_some_iff.mp hp
  have hop : task.bookOp? .go = some .take := by simp [Task.bookOp?, hpoint]
  rw [effectsOf_singleton, requests_step ht, hop, Task.drawn, Book.batch, if_neg hpending]
  rfl

/-- A task that waits while something is staged is woken and requests it two steps later, whatever
callers do in between. -/
theorem request_of_wake {sc : Scene} (hroused : sc.Roused) (hsound : sc.session.book.Sound)
    (hp : sc.point? = some .idle) (hpending : sc.session.book.pending ≠ []) (v₁ v₂ v₃ : View)
    (calls calls' : List Call) :
    ∃ batch, requests (sc.effectsOf ([.step v₁ .wake] ++ calls.map .call ++ [.step v₂ .go] ++
        calls'.map .call ++ [.step v₃ .go])) = [Frame.subscribing batch] ∧
      ∀ s ∈ sc.session.book.pending, s ∈ batch := by
  obtain ⟨hwaking, hbook, hnone⟩ := move_wake hroused hp hpending v₁
  obtain ⟨hsame, hquiet, hkept⟩ := play_calls (sc.move (.step v₁ .wake)) calls
  rw [hwaking] at hsame
  rw [hbook] at hkept
  obtain ⟨hflushing, hbook', hnone'⟩ := move_waking hsame (hkept hpending) v₂
  obtain ⟨hsame', hquiet', hkept'⟩ :=
    play_calls (((sc.move (.step v₁ .wake)).play (calls.map .call)).move (.step v₂ .go)) calls'
  rw [hflushing] at hsame'
  rw [hbook'] at hkept'
  have hlast := requests_flushing hsame' (hkept' (hkept hpending)) v₃
  have hrequest : ∃ batch, requests (sc.effectsOf ([.step v₁ .wake] ++ calls.map .call ++
      [.step v₂ .go] ++ calls'.map .call ++ [.step v₃ .go])) = [Frame.subscribing batch] := by
    refine ⟨_, Eq.trans ?_ hlast⟩
    simp only [effectsOf_append, requests_append, play_append, play_cons, play_nil, hnone, hquiet,
      hnone', hquiet', List.nil_append]
  obtain ⟨batch, hbatch⟩ := hrequest
  refine ⟨batch, hbatch, fun s hs => ?_⟩
  rcases next_request hsound hs _ with ⟨first, rest, hfirst, hmem⟩ | ⟨hempty, -⟩
  · rw [hbatch, List.map_cons] at hfirst
    rw [Frame.subscribing_injective (List.cons.inj hfirst).1]
    exact hmem
  · rw [hbatch] at hempty
    cases hempty

end Scene

end MarketFeed
