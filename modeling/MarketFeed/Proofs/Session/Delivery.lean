import MarketFeed.Proofs.Session.Scene

/-!
# From the wire to the receiver

What a task delivers is the data in the frames that it takes, and each as often as it comes
(`deliveries_effects`). A task takes frames only where it waits.
-/

namespace MarketFeed

/-- The data that a frame holds, if it holds any. -/
def Frame.event? (f : Frame) : Option DataEvent :=
  match Message.ofFrame f with
  | .ok (some (.data event)) => some event
  | _ => none

theorem Frame.event?_eq_some_iff (f : Frame) (event : DataEvent) :
    f.event? = some event ↔ Message.ofFrame f = .ok (some (.data event)) := by
  unfold event?
  constructor
  · intro h
    split at h
    · rename_i heq
      cases h
      exact heq
    · cases h
  · intro h
    rw [h]

def Effect.delivered? : Effect → Option DataEvent
  | .deliver event => some event
  | _ => none

/-- The data among effects. -/
def deliveries (effects : List Effect) : List DataEvent := effects.filterMap Effect.delivered?

@[simp] theorem deliveries_append (es es' : List Effect) :
    deliveries (es ++ es') = deliveries es ++ deliveries es' := List.filterMap_append

@[simp] theorem deliveries_logs (lines : List LogLine) : deliveries (lines.map .log) = [] := by
  induction lines with
  | nil => rfl
  | cons l ls ih => exact ih

namespace Task

/-- The frame that a task takes on a signal. -/
def heard (t : Task) (signal : Signal) : List Frame :=
  match t.point, signal with
  | .idle, .incoming (.frame f) => [f]
  | _, _ => []

theorem heard_of_ne {t : Task} {signal : Signal} (h : ∀ f, signal ≠ .incoming (.frame f)) :
    t.heard signal = [] := by
  unfold heard
  split
  · exact absurd rfl (h _)
  · rfl

theorem deliveries_takeMessage (s : Session) (t : Task) (m : Except MessageFault (Option Message)) :
    deliveries (takeMessage s t m).effects = match m with
      | .ok (some (.data event)) => [event]
      | _ => [] := by
  rcases m with fault | _ | ack | event
  · simp only [takeMessage]
    split_ifs <;> rfl
  · rfl
  · rfl
  · rfl

theorem deliveries_takeIncoming (view : View) (s : Session) (t : Task) (i : Incoming) :
    deliveries (takeIncoming view s t i).effects = match i with
      | .frame f => f.event?.toList
      | _ => [] := by
  cases i with
  | ended => rfl
  | failed error => rfl
  | frame f =>
    have hmessage : deliveries (takeMessage s t (Message.ofFrame f)).effects = f.event?.toList := by
      rw [deliveries_takeMessage, Frame.event?]
      split <;> rfl
    cases f <;> first | rfl | exact hmessage

theorem deliveries_proceed (view : View) (s : Session) (t : Task) :
    deliveries (proceed view s t).effects = [] := by
  unfold proceed
  cases t.point with
  | before stage =>
    dsimp only
    split_ifs <;> rfl
  | connected =>
    dsimp only
    split_ifs <;> rfl
  | flushing =>
    dsimp only
    split <;> rfl
  | retiring =>
    dsimp only
    split <;> rfl
  | parting =>
    dsimp only
    split_ifs <;> rfl
  | _ => rfl

/-- A task delivers the data in what it takes, and nothing else. -/
theorem deliveries_step (view : View) (s : Session) (t : Task) (signal : Signal) :
    deliveries (t.step view s signal).effects = (t.heard signal).filterMap Frame.event? := by
  apply step_cases view s t signal (P := fun n => deliveries n.effects = _)
  case stage =>
    rintro stage r - rfl
    rw [heard_of_ne (by simp)]
    cases r with
    | ok _ => cases stage <;> rfl
    | error error => rfl
  case write =>
    rintro w r - rfl
    rw [heard_of_ne (by simp)]
    cases w <;> cases r <;> rfl
  case close =>
    rintro r - rfl
    rw [heard_of_ne (by simp)]
    cases r <;> rfl
  case delivery =>
    rintro event panicked - rfl
    rw [heard_of_ne (by simp)]
    cases panicked <;> rfl
  case closeAsked =>
    rintro - rfl
    rw [heard_of_ne (by simp)]
    rfl
  case tick =>
    rintro - rfl
    rw [heard_of_ne (by simp)]
    unfold beat
    split_ifs <;> rfl
  case wake =>
    rintro - rfl
    rw [heard_of_ne (by simp)]
    rfl
  case incoming =>
    rintro i hp rfl
    rw [deliveries_takeIncoming]
    cases i with
    | frame f =>
      simp only [heard, hp]
      cases hf : f.event? <;> simp [hf]
    | failed error => rw [heard_of_ne (by simp)]; rfl
    | ended => rw [heard_of_ne (by simp)]; rfl
  case go =>
    rintro rfl
    rw [deliveries_proceed, heard_of_ne (by simp)]
    rfl
  case stay =>
    intro hgo hwrite hin
    have hheard : t.heard signal = [] := by
      unfold heard
      split
      · rename_i hp
        exact absurd rfl (hin _ hp)
      · rfl
    rw [hheard]
    rfl

end Task

namespace Scene

/-- The frame that the task takes in a move. -/
def heard (sc : Scene) : Move → List Frame
  | .step _ signal => (sc.task?.map (·.heard signal)).getD []
  | _ => []

theorem deliveries_effects (sc : Scene) (m : Move) :
    deliveries (sc.effects m) = (sc.heard m).filterMap Frame.event? := by
  cases m with
  | call c => cases c <;> exact deliveries_logs _
  | begin endpoint subscriptions =>
    show deliveries (sc.beginTask endpoint subscriptions).2 = []
    unfold beginTask
    split
    · exact deliveries_logs _
    · rfl
  | step view signal =>
    show deliveries (sc.stepTask view signal).2 = _
    unfold stepTask heard
    cases sc.task? with
    | none => rfl
    | some task => exact Task.deliveries_step view sc.session task signal

end Scene

end MarketFeed
