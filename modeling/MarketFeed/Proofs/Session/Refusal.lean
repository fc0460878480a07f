import MarketFeed.Proofs.Session.Idle

/-!
# Messages that change nothing

A refusal, a message of the wrong form, and a value that is no object leave what is confirmed as it
is, and the task goes back to reading. There is one exception, which is the rule of idle sessions:
the task looks at the book after every message, so one that comes while nothing is confirmed and
nothing waits ends the session, even if an answer to its last request is still to come
(`reads_on_unless_idle`).
-/

namespace MarketFeed

open Trace

/-- The text that a frame spells, if it is made of text or of bytes that spell one. -/
def Frame.spelled? : Frame → Option String
  | .text s => some s
  | .binary bytes =>
    match Utf8.decode bytes with
    | .ok s => some s
    | .error _ => none
  | _ => none

/-- A frame whose message tells the task nothing: a refusal, a message of the wrong form, or a value
that is no object. -/
def Frame.IsImmaterial (f : Frame) : Prop :=
  ∃ text, f.spelled? = some text ∧
    ((∃ code message, Message.ofText text = .ok (some (.control (.refused code message)))) ∨
      (∃ fault reason, Message.ofText text = .error fault ∧ fault.toError = .parse reason) ∨
      ∃ v, Json.parse text = some v ∧ v.isObject = false)

/-- Whether a move tells the task that a write has failed. -/
def Move.isFailure : Move → Bool
  | .step _ (.outcome (.error _)) => true
  | _ => false

theorem MessageFault.not_isFatal_of_parse {fault : MessageFault} {reason : String}
    (h : fault.toError = .parse reason) : fault.isFatal = false := by
  unfold toError at h
  split_ifs at h with hfatal
  exact Bool.not_eq_true _ ▸ hfatal

namespace Task

theorem takeFrame_of_spelled (view : View) (s : Session) (t : Task) {f : Frame} {text : String}
    (h : f.spelled? = some text) : takeFrame view s t f = takeMessage s t (Message.ofText text) := by
  cases f with
  | text s' =>
    cases h
    rfl
  | binary bytes =>
    rw [Frame.spelled?] at h
    split at h
    · rename_i s' hdecode
      cases h
      show takeMessage s t (Message.ofFrame (.binary bytes)) = _
      rw [Message.ofFrame, hdecode]
    · cases h
  | _ => cases h

/-- All that comes of an immaterial message is a line in the log, and the look at the book. -/
theorem step_of_immaterial (view : View) (s : Session) {t : Task} {f : Frame}
    (hp : t.point = .idle) (hf : f.IsImmaterial) :
    ∃ lines : List LogLine,
      t.step view s (.incoming (.frame f)) = ⟨s, t.goTo .settling, lines.map .log⟩ := by
  obtain ⟨text, htext, hmessage⟩ := hf
  have hstep : t.step view s (.incoming (.frame f)) = takeMessage s t (Message.ofText text) := by
    rw [← takeFrame_of_spelled view s t htext]
    simp only [step, hp]
    rfl
  rw [hstep]
  rcases hmessage with ⟨code, message, hm⟩ | ⟨fault, reason, hm, herror⟩ | ⟨v, hparse, hobject⟩
  · rw [hm]
    exact ⟨[_], rfl⟩
  · rw [hm, takeMessage, MessageFault.not_isFatal_of_parse herror, if_neg Bool.false_ne_true]
    exact ⟨[_], rfl⟩
  · have hm : Message.ofText text = .ok none := by
      rw [Message.ofText, hparse]
      simp [Message.ofJson, hobject]
    rw [hm]
    exact ⟨[], rfl⟩

end Task

theorem Work.confirmed_eq {b b' : Book} {p p' : Point} {signal : Signal}
    (h : Work b p signal b' p') : b'.confirmed = b.confirmed := by
  cases h <;> rfl

namespace Scene

/-- While the task is at work on what it has heard of, nothing is confirmed and nothing ended. -/
theorem Errand.confirmed_eq {sc : Scene} {ms : List Move} (h : sc.Errand ms) :
    (sc.play ms).session.book.confirmed = sc.session.book.confirmed := by
  refine h.keeps (I := fun sc' => sc'.session.book.confirmed = sc.session.book.confirmed) ?_ rfl
  intro sc' m hbusy hsame
  obtain ⟨p, hp, hb⟩ := (Option.any_eq_true _ _).mp hbusy
  rcases busy_move hp hb m with ⟨_, _, _, -, -, -, hwork⟩ | ⟨-, -, hbetween⟩
  · exact hwork.confirmed_eq.trans hsame
  · exact hbetween.confirmed_eq.trans hsame

theorem move_of_immaterial {sc : Scene} (hp : sc.point? = some .idle) {f : Frame}
    (hf : f.IsImmaterial) (view : View) :
    (sc.move (.step view (.incoming (.frame f)))).session = sc.session ∧
      (sc.move (.step view (.incoming (.frame f)))).point? = some .settling := by
  obtain ⟨task, ht, hpoint⟩ := Option.map_eq_some_iff.mp hp
  obtain ⟨lines, hstep⟩ := Task.step_of_immaterial view sc.session hpoint hf
  rw [move_step ht, hstep]
  exact ⟨rfl, rfl⟩

/-- What the last move of an errand leads to, unless a write has failed. -/
theorem Open.point?_of_last {sc : Scene} (hopen : sc.Open) {m : Move}
    (hm : sc.Looks m ∨ sc.HearsOfRequest m) (hfailure : m.isFailure = false) :
    (sc.StopsIdle m ∧ (sc.move m).point? = some .ending) ∨
      ¬ sc.StopsIdle m ∧ (sc.move m).point? = some .idle := by
  rcases hm with hlooks | hhears
  · by_cases hidle : sc.session.book.confirmed = [] ∧ sc.session.book.pending = []
    · have hstops := (hopen.stopsIdle_iff m).mpr ⟨hlooks, hidle⟩
      exact Or.inl ⟨hstops, hstops.2⟩
    · refine Or.inr ⟨fun hstops => hidle ((hopen.stopsIdle_iff m).mp hstops).2, ?_⟩
      obtain ⟨task, ht, -⟩ := Option.map_eq_some_iff.mp hlooks.1
      rw [(hopen.move_of_looks hlooks hidle).1, point?, ht]
      rfl
  · obtain ⟨batch, view, r, hp, rfl⟩ := id hhears
    refine Or.inr ⟨fun hstops => ?_, ?_⟩
    · have hp' := hstops.1
      rw [hp] at hp'
      cases hp'
    · rw [hhears.point?_move]
      cases r with
      | ok _ => rfl
      | error _ => cases hfailure

/-- **A message that changes nothing ends a session only if that is idle.** A refusal, a message of
the wrong form or a value that is no object leaves what is confirmed as it is, during all that follows
on it, which is over in four steps of the task at most. Unless a write fails, the task then waits for
the next frame, or it has stopped because at its look nothing was confirmed and nothing waited. -/
theorem reads_on_unless_idle {id : Nat} {settings : StreamConfig} {moves : List Move}
    (hp : ((start id settings).play moves).point? = some .idle) {f : Frame} (hf : f.IsImmaterial)
    (view : View) {ms : List Move}
    (h : (((start id settings).play moves).move (.step view (.incoming (.frame f)))).Errand ms) :
    let sc := (start id settings).play moves
    let heard := sc.move (.step view (.incoming (.frame f)))
    (heard.play ms).session.book.confirmed = sc.session.book.confirmed ∧
      heard.attended ms ≤ 4 ∧
      ((heard.play ms).isBusy = false → (∀ m ∈ ms, m.isFailure = false) →
        ∃ before m, ms = before ++ [m] ∧
          (((heard.play before).Looks m ∧ sc.session.book.confirmed = [] ∧
              (heard.play before).session.book.pending = []) ∧
            (heard.play ms).point? = some .ending ∨
          ¬ ((heard.play before).Looks m ∧ sc.session.book.confirmed = [] ∧
              (heard.play before).session.book.pending = []) ∧
            (heard.play ms).point? = some .idle)) := by
  intro sc heard
  obtain ⟨hsession, hsettling⟩ := move_of_immaterial hp hf view
  have hconfirmed : heard.session.book.confirmed = sc.session.book.confirmed :=
    congrArg (fun s : Session => s.book.confirmed) hsession
  refine ⟨h.confirmed_eq.trans hconfirmed, ?_, fun hover hfailures => ?_⟩
  · have hbound : heard.attended ms + (heard.play ms).left ≤ heard.left := h.attended_add_left_le
    have hleft : heard.left = 4 := by
      rw [left, hsettling]
      rfl
    omega
  · obtain ⟨before, m, rfl, hlast⟩ := h.ends ⟨_, hsettling, trivial⟩ hover
    have herrand := ((errand_append heard before [m]).mp h).1
    have hopen : (heard.play before).Open :=
      ((open_play id settings moves).move (.step view (.incoming (.frame f)))).play before
    have hstops := hopen.stopsIdle_iff m
    rw [herrand.confirmed_eq, hconfirmed] at hstops
    have hend : heard.play (before ++ [m]) = (heard.play before).move m := play_append ..
    refine ⟨before, m, rfl, ?_⟩
    rw [hend, ← hstops]
    exact hopen.point?_of_last hlast (hfailures m (by simp))

/-- A refusal, as the exchange sends it. -/
def refusal : Frame := .text (Json.obj [("event", .str "error"), ("code", .str "60018")]).text

theorem isImmaterial_refusal : refusal.IsImmaterial :=
  ⟨_, rfl, Or.inl ⟨some "60018", none, rfl⟩⟩

/-- One of two subscriptions is confirmed, and the other one refused: the task reads on. -/
theorem reads_on_beside_confirmed :
    let sc := (start 1 .default).play
      (opening [.tickers "A", .tickers "B"] ++ [hear (confirmation (.tickers "A")), go, go])
    let heard := sc.move (hear refusal)
    sc.point? = some .idle ∧ refusal.IsImmaterial ∧ heard.Errand [go, go] ∧
      (heard.play [go, go]).session.book.confirmed = [(Subscription.tickers "A").canonical] ∧
      (heard.play [go, go]).point? = some .idle := by
  intro sc heard
  have hp : sc.point? = some .idle := rfl
  have herrand : heard.Errand [go, go] := ⟨by decide +kernel, by decide +kernel, trivial⟩
  have hover : (heard.play [go, go]).isBusy = false := by decide +kernel
  have hconfirmed : sc.session.book.confirmed = [(Subscription.tickers "A").canonical] := by
    decide +kernel
  obtain ⟨hsame, -, hends⟩ := reads_on_unless_idle hp isImmaterial_refusal ⟨0, true⟩ herrand
  obtain ⟨before, m, -, ⟨⟨-, hnil, -⟩, -⟩ | ⟨-, hidle⟩⟩ := hends hover (by decide)
  · rw [hconfirmed] at hnil
    cases hnil
  · exact ⟨hp, isImmaterial_refusal, herrand, hsame.trans hconfirmed, hidle⟩

/-- Two subscriptions have been requested and neither has been answered: the refusal of one ends the
session, though no write has failed. -/
theorem refusal_ends_unanswered :
    let sc := (start 1 .default).play (opening [.tickers "A", .tickers "B"])
    let heard := sc.move (hear refusal)
    sc.point? = some .idle ∧ sc.session.phase = .streaming ∧
      requests ((start 1 .default).effectsOf (opening [.tickers "A", .tickers "B"])) =
        [Frame.subscribing [.tickers "A", .tickers "B"]] ∧
      refusal.IsImmaterial ∧ heard.Errand [go, go] ∧
      (∀ m ∈ [go, go], m.isFailure = false) ∧ (heard.play [go, go]).point? = some .ending := by
  intro sc heard
  have hp : sc.point? = some .idle := rfl
  have hphase : sc.session.phase = .streaming := by decide +kernel
  have hrequests : requests ((start 1 .default).effectsOf (opening [.tickers "A", .tickers "B"])) =
      [Frame.subscribing [.tickers "A", .tickers "B"]] := by decide +kernel
  have herrand : heard.Errand [go, go] := ⟨by decide +kernel, by decide +kernel, trivial⟩
  have hends : (heard.play [go, go]).point? = some .ending := rfl
  exact ⟨hp, hphase, hrequests, isImmaterial_refusal, herrand, by decide, hends⟩

end Scene

end MarketFeed
