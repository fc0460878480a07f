import Mathlib.Data.List.Basic
import MarketFeed.Proofs.Session.Delivery
import MarketFeed.Proofs.Session.Lasting
import MarketFeed.Session.Rehearsal

/-!
# A receiver that panics

Two runs of a session to which the same happens, but in one of them the receiver of data panics on
some events. Every move leads to the same scene in both (`move_receiving`), and the effects of the
second run are those of the first one with a line put in for each panic
(`interleaving_receivingFrom`).
-/

namespace MarketFeed

open Trace

/-- The line that reports a panic of the receiver on an event. -/
def Session.panicLine (s : Session) (event : DataEvent) : LogLine :=
  .error s!"{s.title}: data callback panicked on {event.channel}:{event.instId}"

/-- The same effect, unless it is a line of the log. -/
def Effect.shown? : Effect → Option Effect
  | .log _ => none
  | e => some e

/-- All that others see of effects beside the log: phases, stages, frames, deliveries and closes. -/
def shown (effects : List Effect) : List Effect := effects.filterMap Effect.shown?

/-- The lines among effects. -/
def lines (effects : List Effect) : List LogLine := effects.filterMap Effect.line?

/-! ## The event in hand -/

/-- The event that the receiver is busy with. -/
def Point.inHand : Point → List DataEvent
  | .delivering event => [event]
  | _ => []

namespace Task

/-- The event that the receiver is done with, as a task hears of it. -/
def handled (t : Task) : Signal → List DataEvent
  | .delivered _ => t.point.inHand
  | _ => []

theorem inHand_takeMessage (s : Session) (t : Task) (m : Except MessageFault (Option Message)) :
    (takeMessage s t m).task.point.inHand = deliveries (takeMessage s t m).effects := by
  rcases m with fault | _ | ack | event
  · simp only [takeMessage]
    split_ifs <;> rfl
  · rfl
  · rfl
  · rfl

theorem inHand_takeIncoming (view : View) (s : Session) (t : Task) (i : Incoming)
    (hp : t.point.inHand = []) :
    (takeIncoming view s t i).task.point.inHand = deliveries (takeIncoming view s t i).effects := by
  cases i with
  | ended => rfl
  | failed error => rfl
  | frame f =>
    cases f with
    | text text => exact inHand_takeMessage s t _
    | binary bytes => exact inHand_takeMessage s t _
    | ping payload => rfl
    | pong payload => exact hp
    | close reason => rfl
    | raw payload => exact hp

theorem inHand_proceed (view : View) (s : Session) (t : Task) (hp : t.point.inHand = []) :
    (proceed view s t).task.point.inHand = [] := by
  unfold proceed
  cases h : t.point with
  | delivering event =>
    rw [h] at hp
    cases hp
  | before stage =>
    dsimp only
    split_ifs <;> rfl
  | connected =>
    dsimp only
    split_ifs <;> rfl
  | flushing =>
    dsimp only
    split <;> rfl
  | settling =>
    dsimp only [goTo]
    split_ifs <;> rfl
  | waking =>
    dsimp only [goTo]
    split_ifs <;> rfl
  | retiring =>
    dsimp only
    split <;> rfl
  | parting =>
    dsimp only
    split_ifs <;> rfl
  | _ => simp only [goTo, h]; rfl

theorem inHand_beat (view : View) (s : Session) (t : Task) (hp : t.point.inHand = []) :
    (beat view s t).task.point.inHand = [] := by
  have hpoint : (beat view s t).task.point = if view.isOpen then .writing .ping else t.point := by
    unfold beat
    dsimp only
    cases view.isOpen <;> rfl
  rw [hpoint]
  split_ifs
  · rfl
  · exact hp

theorem handled_of_inHand {t : Task} (hp : t.point.inHand = []) (signal : Signal) :
    t.handled signal = [] := by
  cases signal with
  | delivered panicked => exact hp
  | _ => rfl

/-- A task that hands an event to the receiver stays with it until the receiver is done. -/
theorem inHand_step (view : View) (s : Session) (t : Task) (signal : Signal) :
    t.point.inHand ++ deliveries (t.step view s signal).effects =
      t.handled signal ++ (t.step view s signal).task.point.inHand := by
  rw [deliveries_step]
  by_cases hp : t.point.inHand = []
  · rw [hp, handled_of_inHand hp, List.nil_append, List.nil_append]
    symm
    apply step_cases view s t signal
      (P := fun n => n.task.point.inHand = (t.heard signal).filterMap Frame.event?)
    case stage =>
      rintro stage r - rfl
      rw [heard_of_ne (by simp)]
      cases r with
      | ok _ => cases stage <;> rfl
      | error error => rfl
    case write =>
      rintro w r - rfl
      rw [heard_of_ne (by simp)]
      cases w <;> cases r <;> rfl
    case close =>
      rintro r - rfl
      rw [heard_of_ne (by simp)]
      cases r <;> rfl
    case delivery =>
      rintro event panicked - rfl
      rw [heard_of_ne (by simp)]
      rfl
    case closeAsked =>
      rintro - rfl
      rw [heard_of_ne (by simp)]
      rfl
    case tick =>
      rintro - rfl
      rw [inHand_beat view s t hp, heard_of_ne (by simp)]
      rfl
    case wake =>
      rintro - rfl
      rw [heard_of_ne (by simp)]
      rfl
    case incoming =>
      rintro i hidle rfl
      rw [inHand_takeIncoming view s t i hp, deliveries_takeIncoming]
      cases i with
      | frame f =>
        simp only [heard, hidle]
        cases hf : f.event? <;> simp [hf]
      | failed error => rw [heard_of_ne (by simp)]; rfl
      | ended => rw [heard_of_ne (by simp)]; rfl
    case go =>
      rintro rfl
      rw [inHand_proceed view s t hp, heard_of_ne (by simp)]
      rfl
    case stay =>
      intro hgo hwrite hin
      have hheard : t.heard signal = [] := by
        unfold heard
        split
        · rename_i hidle
          exact absurd rfl (hin _ hidle)
        · rfl
      rw [hp, hheard]
      rfl
  · obtain ⟨event, hpoint⟩ : ∃ event, t.point = .delivering event := by
      cases h : t.point with
      | delivering event => exact ⟨event, rfl⟩
      | _ => simp [h, Point.inHand] at hp
    have hheard : t.heard signal = [] := by
      unfold heard
      rw [hpoint]
    rw [hheard]
    cases signal with
    | delivered panicked =>
      simp only [handled, step, hpoint]
      rfl
    | go =>
      simp only [step, proceed, hpoint]
      rfl
    | _ =>
      simp only [step, hpoint]
      rfl

/-- Whatever becomes of the receiver, the task goes on in the same way; a panic is logged. -/
theorem step_delivered (view : View) (s : Session) (t : Task) (panicked : Bool) :
    t.step view s (.delivered panicked) =
      { t.step view s (.delivered false) with
        effects := (t.step view s (.delivered false)).effects ++
          (if panicked then t.handled (.delivered false) else []).map fun event =>
            .log (s.panicLine event) } := by
  cases hp : t.point with
  | delivering event =>
    simp only [step, handled, hp, Point.inHand, afterDelivery]
    cases panicked <;> rfl
  | _ =>
    simp only [step, handled, hp, Point.inHand, ite_self]
    rfl

theorem handled_cases (t : Task) (signal : Signal) :
    t.handled signal = [] ∨ ∃ event, t.handled signal = [event] := by
  have hhand : t.point.inHand = [] ∨ ∃ event, t.point.inHand = [event] := by
    cases t.point with
    | delivering event => exact Or.inr ⟨event, rfl⟩
    | _ => exact Or.inl rfl
  cases signal with
  | delivered panicked => exact hhand
  | _ => exact Or.inl rfl

end Task

/-- The same move; if the receiver comes to its end in it, it panics or does not. -/
def Move.receiving (panics : Bool) : Move → Move
  | .step view (.delivered _) => .step view (.delivered panics)
  | m => m

namespace Scene

/-- The event that the receiver is busy with. -/
def inHand (sc : Scene) : List DataEvent := (sc.task?.map (·.point.inHand)).getD []

/-- The event that the receiver is done with in a move. -/
def handled (sc : Scene) : Move → List DataEvent
  | .step _ signal => (sc.task?.map (·.handled signal)).getD []
  | _ => []

/-- The events that the receiver is done with in a run, in order. -/
def handledOf (sc : Scene) (moves : List Move) : List DataEvent := collect move handled sc moves

/-- The same moves, but the receiver panics on some events. The events are numbered from `n` on. -/
def receivingFrom (panics : Nat → Bool) : Nat → Scene → List Move → List Move
  | _, _, [] => []
  | n, sc, m :: ms =>
    m.receiving (panics n) ::
      receivingFrom panics (n + (sc.handled m).length) (sc.move m) ms

theorem inHand_of_task {sc : Scene} {task : Task} (h : sc.task? = some task) :
    sc.inHand = task.point.inHand := by
  rw [inHand, h]
  rfl

theorem handled_step {sc : Scene} {task : Task} (h : sc.task? = some task) (view : View)
    (signal : Signal) : sc.handled (.step view signal) = task.handled signal := by
  rw [handled, h]
  rfl

theorem handled_step_of_isNone {sc : Scene} (h : sc.task? = none) (view : View)
    (signal : Signal) : sc.handled (.step view signal) = [] := by
  rw [handled, h]
  rfl

/-! ## One move -/

/-- What the receiver is handed it keeps until it is done. -/
theorem inHand_move (sc : Scene) (m : Move) :
    sc.inHand ++ deliveries (sc.effects m) = sc.handled m ++ (sc.move m).inHand := by
  cases m with
  | call c =>
    have hsilent : deliveries (sc.effects (.call c)) = [] := deliveries_logs _
    rw [hsilent, List.append_nil]
    rfl
  | begin endpoint subscriptions =>
    show sc.inHand ++ deliveries (sc.beginTask endpoint subscriptions).2 =
      (sc.beginTask endpoint subscriptions).1.inHand
    cases ht : sc.task? with
    | some task =>
      rw [beginTask_of_isSome (by simp [ht])]
      exact List.append_nil _
    | none =>
      have hnone : sc.inHand = [] := by
        rw [inHand, ht]
        rfl
      by_cases hs : subscriptions = []
      · rw [hs, beginTask_nil]
        exact List.append_nil _
      · rw [beginTask_of_isNone ht endpoint hs, hnone, deliveries_logs]
        rfl
  | step view signal =>
    cases ht : sc.task? with
    | none =>
      rw [handled_step_of_isNone ht, move_step_of_isNone ht]
      show sc.inHand ++ deliveries (sc.stepTask view signal).2 = sc.inHand
      rw [stepTask, ht]
      exact List.append_nil _
    | some task =>
      rw [move_step ht, effects_step ht, handled_step ht, inHand_of_task ht]
      exact Task.inHand_step view sc.session task signal

theorem handled_receiving (sc : Scene) (m : Move) (panics : Bool) :
    sc.handled (m.receiving panics) = sc.handled m := by
  cases m with
  | step view signal => cases signal <;> rfl
  | _ => rfl

/-- Whether the receiver panics or not, a move leads to the same scene. -/
theorem move_receiving (sc : Scene) (m : Move) (panics : Bool) :
    sc.move (m.receiving panics) = sc.move m := by
  cases m with
  | step view signal =>
    cases signal with
    | delivered panicked =>
      cases ht : sc.task? with
      | none =>
        show sc.move (.step view (.delivered panics)) = _
        rw [move_step_of_isNone ht, move_step_of_isNone ht]
      | some task =>
        show sc.move (.step view (.delivered panics)) = _
        rw [move_step ht, move_step ht, Task.step_delivered view sc.session task panics,
          Task.step_delivered view sc.session task panicked]
    | _ => rfl
  | _ => rfl

/-- Where the receiver panics a line is logged, after all else that others see of the move. -/
theorem effects_receiving (sc : Scene) (m : Move) (panics : Bool) :
    sc.effects (m.receiving panics) = sc.effects (m.receiving false) ++
      (if panics then sc.handled m else []).map fun event =>
        .log (sc.session.panicLine event) := by
  cases panics with
  | false => exact (List.append_nil _).symm
  | true =>
    have hquiet : sc.handled m = [] → m.receiving true = m.receiving false →
        sc.effects (m.receiving true) = sc.effects (m.receiving false) ++
          (if true then sc.handled m else []).map fun event =>
            .log (sc.session.panicLine event) := by
      intro hhandled hsame
      rw [hhandled, hsame]
      exact (List.append_nil _).symm
    cases m with
    | step view signal =>
      cases ht : sc.task? with
      | none =>
        have heffects : ∀ signal, sc.effects (.step view signal) = [] := by
          intro signal
          show (sc.stepTask view signal).2 = []
          rw [stepTask, ht]
        rw [handled_step_of_isNone ht]
        cases signal <;> simp only [Move.receiving, heffects] <;> rfl
      | some task =>
        cases signal with
        | delivered panicked =>
          show sc.effects (.step view (.delivered true)) =
            sc.effects (.step view (.delivered false)) ++ _
          rw [effects_step ht, effects_step ht, handled_step ht,
            Task.step_delivered view sc.session task true]
          rfl
        | _ => exact hquiet (handled_step ht view _) rfl
    | _ => exact hquiet rfl rfl

/-! ## Two runs -/

theorem play_take_receivingFrom (panics : Nat → Bool) (n : Nat) (sc : Scene) (moves : List Move)
    (k : Nat) : sc.play ((sc.receivingFrom panics n moves).take k) = sc.play (moves.take k) := by
  induction moves generalizing n sc k with
  | nil => rfl
  | cons m ms ih =>
    cases k with
    | zero => rfl
    | succ k =>
      rw [receivingFrom, List.take_succ_cons, List.take_succ_cons, play_cons, play_cons,
        move_receiving, ih]

theorem play_take_receiving (panics : Bool) (sc : Scene) (moves : List Move) (k : Nat) :
    sc.play ((moves.map (Move.receiving panics)).take k) = sc.play (moves.take k) := by
  induction moves generalizing sc k with
  | nil => rfl
  | cons m ms ih =>
    cases k with
    | zero => rfl
    | succ k =>
      rw [List.map_cons, List.take_succ_cons, List.take_succ_cons, play_cons, play_cons,
        move_receiving, ih]

theorem handledOf_receiving (panics : Bool) (sc : Scene) (moves : List Move) :
    sc.handledOf (moves.map (Move.receiving panics)) = sc.handledOf moves := by
  induction moves generalizing sc with
  | nil => rfl
  | cons m ms ih =>
    rw [List.map_cons, handledOf, handledOf, collect_cons, collect_cons, handled_receiving,
      move_receiving]
    exact congrArg (sc.handled m ++ ·) (ih (sc.move m))

/-- What the receiver is handed in a run it is done with, or still busy with in the end. -/
theorem deliveries_effectsOf (sc : Scene) (moves : List Move) :
    sc.inHand ++ deliveries (sc.effectsOf moves) =
      sc.handledOf moves ++ (sc.play moves).inHand := by
  have hconserved := collect_conserve inHand inHand_move sc moves
  rwa [show collect move (fun sc m => deliveries (sc.effects m)) sc moves =
    deliveries (sc.effectsOf moves) from collect_filterMap _ _ _ _] at hconserved

/-- The events on which the receiver panics, of some that are numbered from `n` on. -/
def panickedFrom (panics : Nat → Bool) (n : Nat) (events : List DataEvent) : List DataEvent :=
  ((events.zipIdx n).filter fun e => panics e.2).map (·.1)

theorem panickedFrom_append (panics : Nat → Bool) (n : Nat) (events more : List DataEvent) :
    panickedFrom panics n (events ++ more) =
      panickedFrom panics n events ++ panickedFrom panics (n + events.length) more := by
  simp only [panickedFrom, List.zipIdx_append, List.filter_append, List.map_append]

theorem panickedFrom_handled (panics : Nat → Bool) (n : Nat) (sc : Scene) (m : Move) :
    panickedFrom panics n (sc.handled m) = if panics n then sc.handled m else [] := by
  have hcases : sc.handled m = [] ∨ ∃ event, sc.handled m = [event] := by
    cases m with
    | step view signal =>
      cases ht : sc.task? with
      | none => exact Or.inl (handled_step_of_isNone ht view signal)
      | some task =>
        rw [handled_step ht]
        exact Task.handled_cases task signal
    | _ => exact Or.inl rfl
  rcases hcases with hnone | ⟨event, hone⟩
  · rw [hnone]
    exact (ite_self _).symm
  · rw [hone]
    cases hp : panics n <;> simp [panickedFrom, hp]

/-- The effects of a run in which the receiver panics on some events are those of the run in which it
does not, with a line for each panic. -/
theorem interleaving_receivingFrom (panics : Nat → Bool) (n : Nat) (sc : Scene)
    (moves : List Move) :
    Interleaving (sc.effectsOf (moves.map (Move.receiving false)))
      ((panickedFrom panics n (sc.handledOf moves)).map fun event =>
        .log (sc.session.panicLine event))
      (sc.effectsOf (sc.receivingFrom panics n moves)) := by
  induction moves generalizing n sc with
  | nil => exact .nil
  | cons m ms ih =>
    have hline : (sc.move m).session.panicLine = sc.session.panicLine := by
      funext event
      rw [Session.panicLine, Session.title, (follows_move sc m).id_eq]
      rfl
    have hfirst : Interleaving (sc.effects (m.receiving false))
        ((panickedFrom panics n (sc.handled m)).map fun event =>
          Effect.log (sc.session.panicLine event)) (sc.effects (m.receiving (panics n))) := by
      rw [effects_receiving sc m (panics n), panickedFrom_handled]
      have hsplit := (Interleaving.of_left (sc.effects (m.receiving false))).append
        (Interleaving.of_right ((if panics n then sc.handled m else []).map fun event =>
          Effect.log (sc.session.panicLine event)))
      rwa [List.append_nil, List.nil_append] at hsplit
    have hrest := ih (n + (sc.handled m).length) (sc.move m)
    rw [hline] at hrest
    have hall := hfirst.append hrest
    rw [← List.map_append, ← panickedFrom_append] at hall
    rw [receivingFrom, List.map_cons, effectsOf, effectsOf, collect_cons, collect_cons,
      move_receiving, move_receiving]
    exact hall

/-- **Panics of the receiver are only logged.** Let the same happen to a session in two runs, but let
the receiver return from every event in the one, and panic on some in the other. After every move the
scenes are the same, and all that others see is the same beside the log. There each panic adds one line,
which names the channel and the instrument of the event. -/
theorem panics_only_logged (id : Nat) (settings : StreamConfig) (panics : Nat → Bool)
    (moves : List Move) :
    let sc := start id settings
    let calm := moves.map (Move.receiving false)
    let wild := sc.receivingFrom panics 0 moves
    (∀ k, sc.play (wild.take k) = sc.play (calm.take k)) ∧
    shown (sc.effectsOf wild) = shown (sc.effectsOf calm) ∧
    Interleaving (lines (sc.effectsOf calm))
      ((panickedFrom panics 0 (sc.handledOf calm)).map (Session.new id settings).panicLine)
      (lines (sc.effectsOf wild)) ∧
    deliveries (sc.effectsOf wild) = sc.handledOf calm ++ (sc.play calm).inHand := by
  intro sc calm wild
  have hscenes : ∀ k, sc.play (wild.take k) = sc.play (calm.take k) := by
    intro k
    rw [play_take_receivingFrom, play_take_receiving]
  have heffects := interleaving_receivingFrom panics 0 sc moves
  rw [← handledOf_receiving false] at heffects
  have hsilent : ∀ {α : Type} (f : Effect → Option α), (∀ line, f (.log line) = none) →
      (sc.effectsOf wild).filterMap f = (sc.effectsOf calm).filterMap f := by
    intro α f hf
    refine heffects.filterMap_eq_left ?_
    rw [List.filterMap_map, List.filterMap_eq_nil_iff]
    exact fun event _ => hf _
  refine ⟨hscenes, hsilent _ fun line => rfl, ?_, ?_⟩
  · have hlines := heffects.filterMap Effect.line?
    rw [List.filterMap_map] at hlines
    simp only [Function.comp_def, Effect.line?, List.filterMap_eq_map'] at hlines
    exact hlines
  · rw [deliveries, hsilent _ fun line => rfl]
    exact deliveries_effectsOf sc calm

end Scene

end MarketFeed
