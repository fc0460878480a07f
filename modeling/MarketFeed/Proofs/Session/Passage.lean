import MarketFeed.Proofs.Session.Requests

/-!
# Passages

All that a step of a task may be, as seen from outside: where it leads, on which signal, under which
condition, and what others see of it (`Task.passage_step`). The connection is made stage by stage,
then the task streams, and from everywhere there it may come to its end. What a step does within
streaming, beside the writing of requests, is not told apart.
-/

namespace MarketFeed

/-! ## What others see -/

/-- Whether an effect tells how far a session has come. -/
def Effect.isMilestone : Effect → Bool
  | .enter _ | .begin _ | .write (.text _) | .close => true
  | _ => false

/-- What tells among effects how far a session has come. -/
def milestones (effects : List Effect) : List Effect := effects.filter Effect.isMilestone

@[simp] theorem milestones_append (es es' : List Effect) :
    milestones (es ++ es') = milestones es ++ milestones es' := List.filter_append ..

@[simp] theorem milestones_logs (lines : List LogLine) : milestones (lines.map .log) = [] := by
  induction lines with
  | nil => rfl
  | cons l ls ih => exact ih

def Effect.sent? : Effect → Option Frame
  | .write f => some f
  | _ => none

/-- The frames among effects that are handed to the transport. -/
def sends (effects : List Effect) : List Frame := effects.filterMap Effect.sent?

@[simp] theorem sends_append (es es' : List Effect) :
    sends (es ++ es') = sends es ++ sends es' := List.filterMap_append

@[simp] theorem sends_logs (lines : List LogLine) : sends (lines.map .log) = [] := by
  induction lines with
  | nil => rfl
  | cons l ls ih => exact ih

/-- The line that an effect logs as an error. -/
def Effect.fault? : Effect → Option LogLine
  | .log line => if line.severity = .error then some line else none
  | _ => none

/-- The lines among effects that are logged as errors. -/
def faults (effects : List Effect) : List LogLine := effects.filterMap Effect.fault?

@[simp] theorem faults_append (es es' : List Effect) :
    faults (es ++ es') = faults es ++ faults es' := List.filterMap_append

theorem faults_logs {lines : List LogLine} (h : ∀ line ∈ lines, line.severity ≠ .error) :
    faults (lines.map .log) = [] := by
  rw [faults, List.filterMap_map, List.filterMap_eq_nil_iff]
  intro line hline
  exact if_neg (h line hline)

/-! ## Points -/

/-- The stages before a stage. -/
def Stage.earlier : Stage → List Stage
  | .resolve => []
  | .connect => [.resolve]
  | .tls => [.resolve, .connect]
  | .upgrade => [.resolve, .connect, .tls]

namespace Point

/-- Whether the connection stands, and the end has not begun. -/
def isStreaming : Point → Bool
  | .flushing | .writing _ | .idle | .delivering _ | .settling | .retiring | .waking => true
  | _ => false

/-- Whether a task streams here, and no request is next or on its way. -/
def isCalm : Point → Bool
  | .flushing | .writing (.request _) => false
  | p => p.isStreaming

theorem isCalm_eq_true_iff (p : Point) :
    p.isCalm = true ↔ p.isStreaming = true ∧ p.outstanding = [] ∧ p ≠ .flushing := by
  cases p with
  | writing w => cases w <;> simp [isCalm, isStreaming, outstanding]
  | _ => simp [isCalm, isStreaming, outstanding]

/-- The stages that have succeeded when a task stands here, unless the end has begun. -/
def behind? : Point → Option (List Stage)
  | .fresh => some []
  | .before stage | .cleared stage | .entered stage | .during stage => some stage.earlier
  | .ending | .draining | .parting | .closing | .finished => none
  | _ => some [.resolve, .connect, .tls, .upgrade]

/-- The stage that is on its way. -/
def stage : Point → List Stage
  | .during stage => [stage]
  | _ => []

/-- The stage that the phase tells of, and that has not begun. -/
def announced : Point → List Stage
  | .entered stage => [stage]
  | _ => []

/-- The stage that is to begin, whoever asks for a close. -/
def due : Point → List Stage
  | .cleared stage | .entered stage => [stage]
  | _ => []

end Point

/-- The line that reports a failed stage. -/
def Session.stageLine (s : Session) (stage : Stage) (error : FeedError) : LogLine :=
  .error s!"{s.title}: {(Task.failure stage.label error).message}"

def Session.closedLine (s : Session) : LogLine := .info s!"{s.title} closed"

/-- A step of a task: from a point, on a signal, to a point, with these effects. -/
inductive Passage (view : View) (s : Session) : Point → Signal → Point → List Effect → Prop
  | setOut (endpoint : Endpoint) :
    Passage view s .fresh .go (.before .resolve)
      [.log (.info s!"{s.title} connecting to {endpoint.host}:{endpoint.port}")]
  | turnBack (stage : Stage) (h : s.closing = true) : Passage view s (.before stage) .go .ending []
  | clear (stage : Stage) (h : s.closing = false) :
    Passage view s (.before stage) .go (.cleared stage) []
  | enter (stage : Stage) :
    Passage view s (.cleared stage) .go (.entered stage) [.enter stage.phase]
  | begin (stage : Stage) : Passage view s (.entered stage) .go (.during stage) [.begin stage]
  | pass (stage next : Stage) (h : stage.next? = some next) :
    Passage view s (.during stage) (.outcome (.ok ())) (.before next) []
  | arrive (stage : Stage) (h : stage.next? = none) :
    Passage view s (.during stage) (.outcome (.ok ())) .connected []
  | fail (stage : Stage) (error : FeedError) :
    Passage view s (.during stage) (.outcome (.error error)) .ending
      [.log (s.stageLine stage error)]
  | giveUp (h : s.closing = true) : Passage view s .connected .go .ending []
  | breakDown (h : s.closing = false) (hp : s.period = 0) :
    Passage view s .connected .go .broken []
  | start (h : s.closing = false) (hp : s.period ≠ 0) :
    Passage view s .connected .go .flushing []
  | request (h : s.book.pending ≠ []) :
    Passage view s .flushing .go (.writing (.request s.book.pending))
      [.enter .subscribing, .write (.subscribing s.book.pending)]
  | spare (h : s.book.pending = []) : Passage view s .flushing .go .idle [.enter .streaming]
  | written (subscriptions : List Subscription) :
    Passage view s (.writing (.request subscriptions)) (.outcome (.ok ())) .idle [.enter .streaming]
  | unwritten (subscriptions : List Subscription) (error : FeedError) :
    Passage view s (.writing (.request subscriptions)) (.outcome (.error error)) .ending
      [.log (.error s!"{s.title}: {(Task.failure Task.requestLabel error).message}")]
  /-- Something else, after which the task streams on. -/
  | attend (p : Point) (signal : Signal) (p' : Point) (effects : List Effect)
    (hp : p.isStreaming = true) (hout : p.outstanding = [])
    (hp' : p'.isStreaming = true) (hout' : p'.outstanding = [])
    (hflush : p' = .flushing → p = .waking ∧ s.book.pending ≠ [])
    (hsilent : milestones effects = []) : Passage view s p signal p' effects
  /-- Something else, after which the task comes to its end. -/
  | leave (p : Point) (signal : Signal) (effects : List Effect)
    (hp : p.isStreaming = true) (hout : p.outstanding = [])
    (hsilent : milestones effects = []) : Passage view s p signal .ending effects
  | drain : Passage view s .ending .go .draining []
  | part : Passage view s .draining .go .parting []
  | close (h : view.isOpen = true) : Passage view s .parting .go .closing [.enter .closing, .close]
  | skip (h : view.isOpen = false) :
    Passage view s .parting .go .finished
      [.enter .closing, .enter .closed, .log s.closedLine]
  | finish (r : Except FeedError Unit) (warnings : List LogLine)
    (h : ∀ line ∈ warnings, line.severity ≠ .error) :
    Passage view s .closing (.outcome r) .finished
      (warnings.map .log ++ [.enter .closed, .log s.closedLine])
  | stay (p : Point) (signal : Signal)
    (h : ∀ r, signal = .outcome r → p.stage = [] ∧ p.outstanding = [])
    (hgo : signal = .go → p ≠ .flushing ∧ p ≠ .parting) : Passage view s p signal p []

/-- Something else, after which no request is next. -/
theorem Passage.goOn {view : View} {s : Session} {p p' : Point} {signal : Signal}
    {effects : List Effect} (hp : p.isStreaming = true) (hout : p.outstanding = [])
    (hp' : p'.isCalm = true) (hsilent : milestones effects = []) :
    Passage view s p signal p' effects := by
  obtain ⟨hstreams, hout', hflush⟩ := p'.isCalm_eq_true_iff.mp hp'
  exact .attend p signal p' effects hp hout hstreams hout' (fun h => absurd h hflush) hsilent

namespace Task

variable (view : View) (s : Session) (t : Task)

theorem stays {t : Task} {p : Point} {signal : Signal} (hp : t.point = p)
    (h : ∀ r, signal = .outcome r → p.stage = [] ∧ p.outstanding = [])
    (hgo : signal = .go → p ≠ .flushing ∧ p ≠ .parting) : Passage view s p signal t.point [] := by
  rw [hp]
  exact .stay p signal h hgo

theorem passage_afterStage (stage : Stage) (r : Except FeedError Unit) :
    Passage view s (.during stage) (.outcome r) (afterStage s t stage r).task.point
      (afterStage s t stage r).effects := by
  cases r with
  | error error => exact .fail stage error
  | ok _ =>
    unfold afterStage
    dsimp only
    cases h : stage.next? with
    | some next => exact .pass stage next h
    | none => exact .arrive stage h

theorem passage_afterWrite (w : Write) (r : Except FeedError Unit) :
    Passage view s (.writing w) (.outcome r) (afterWrite view s t w r).task.point
      (afterWrite view s t w r).effects := by
  cases w with
  | request subscriptions =>
    cases r with
    | ok _ => exact .written subscriptions
    | error error => exact .unwritten subscriptions error
  | ping =>
    cases r with
    | ok _ => exact .goOn rfl rfl rfl rfl
    | error error => exact .leave _ _ _ rfl rfl rfl
  | pong payload =>
    cases r with
    | ok _ => exact .goOn rfl rfl rfl rfl
    | error error => exact .leave _ _ _ rfl rfl rfl

theorem passage_afterClose (r : Except FeedError Unit) :
    Passage view s .closing (.outcome r) (afterClose s t r).task.point
      (afterClose s t r).effects := by
  cases r with
  | ok _ => exact .finish (.ok ()) [] (by simp)
  | error error =>
    exact .finish (.error error) [.warning s!"{s.title}: close failed: {error.message}"]
      (by simp [LogLine.warning])

theorem passage_beat (hp : t.point = .idle) :
    Passage view s .idle .tick (beat view s t).task.point (beat view s t).effects := by
  have hwarn : ∀ (c : Prop) [Decidable c] (line : LogLine),
      milestones (if c then [Effect.log line] else []) = [] := by
    intro c _ line
    split_ifs <;> rfl
  unfold beat
  cases view.isOpen with
  | true =>
    refine .goOn rfl rfl rfl ?_
    simp only [if_true, milestones_append, hwarn]
    rfl
  | false =>
    refine .goOn rfl rfl ?_ ?_
    · simp [hp, Point.isCalm, Point.isStreaming]
    · simp only [Bool.false_eq_true, if_false, hwarn]

theorem passage_takeMessage (signal : Signal) (m : Except MessageFault (Option Message)) :
    Passage view s .idle signal (takeMessage s t m).task.point (takeMessage s t m).effects := by
  rcases m with fault | _ | ack | event
  · rw [takeMessage]
    split_ifs
    · exact .leave _ _ _ rfl rfl rfl
    · exact .goOn rfl rfl rfl rfl
  · exact .goOn rfl rfl rfl rfl
  · cases ack <;> exact .goOn rfl rfl rfl rfl
  · exact .goOn rfl rfl rfl rfl

theorem passage_takeIncoming (hp : t.point = .idle) (i : Incoming) :
    Passage view s .idle (.incoming i) (takeIncoming view s t i).task.point
      (takeIncoming view s t i).effects := by
  cases i with
  | ended => exact .leave _ _ _ rfl rfl rfl
  | failed error => exact .leave _ _ _ rfl rfl rfl
  | frame f =>
    cases f with
    | ping payload => exact .goOn rfl rfl rfl rfl
    | close reason => exact .leave _ _ _ rfl rfl rfl
    | pong payload => exact stays view s hp (by simp) (by simp)
    | raw payload => exact stays view s hp (by simp) (by simp)
    | text text => exact passage_takeMessage view s t _ _
    | binary bytes => exact passage_takeMessage view s t _ _

theorem passage_proceed :
    Passage view s t.point .go (proceed view s t).task.point (proceed view s t).effects := by
  unfold proceed
  cases hp : t.point with
  | fresh => exact .setOut t.endpoint
  | before stage =>
    dsimp only
    split_ifs with hc
    · exact .turnBack stage hc
    · exact .clear stage (eq_false_of_ne_true hc)
  | cleared stage => exact .enter stage
  | entered stage => exact .begin stage
  | connected =>
    dsimp only
    split_ifs with hc hperiod
    · exact .giveUp hc
    · exact .breakDown (eq_false_of_ne_true hc) hperiod
    · exact .start (eq_false_of_ne_true hc) hperiod
  | flushing =>
    simp only [Book.take]
    cases hw : s.book.pending with
    | nil => exact .spare hw
    | cons sub rest =>
      have hrequest : Passage view s .flushing .go (.writing (.request s.book.pending))
          [.enter .subscribing, .write (.subscribing s.book.pending)] := .request (by simp [hw])
      rw [hw] at hrequest
      exact hrequest
  | settling =>
    dsimp only
    split_ifs
    · exact .goOn rfl rfl rfl rfl
    · exact .goOn rfl rfl rfl rfl
  | waking =>
    dsimp only
    split_ifs with hw
    · exact .attend _ _ _ _ rfl rfl rfl rfl (fun _ => ⟨rfl, by simpa [Book.hasPending] using hw⟩) rfl
    · exact .goOn rfl rfl rfl rfl
  | retiring =>
    dsimp only
    split
    · exact .leave _ _ _ rfl rfl rfl
    · exact .goOn rfl rfl rfl rfl
  | ending => exact .drain
  | draining => exact .part
  | parting =>
    dsimp only
    split_ifs with hopen
    · exact .close hopen
    · exact .skip (eq_false_of_ne_true hopen)
  | _ => exact stays view s hp (by simp) (by simp)

/-- Every step of a task is a passage. -/
theorem passage_step (signal : Signal) :
    Passage view s t.point signal (t.step view s signal).task.point
      (t.step view s signal).effects := by
  cases signal with
  | go =>
    have hgo : t.step view s .go = proceed view s t := by
      unfold step
      split <;> first | rfl | simp_all
    rw [hgo]
    exact passage_proceed view s t
  | outcome r =>
    simp only [step]
    cases hp : t.point with
    | during stage => exact passage_afterStage view s t stage r
    | writing w => exact passage_afterWrite view s t w r
    | closing => exact passage_afterClose view s t r
    | _ => exact stays view s hp (fun _ _ => ⟨rfl, rfl⟩) (by simp)
  | delivered panicked =>
    simp only [step]
    cases hp : t.point with
    | delivering event =>
      refine .goOn rfl rfl rfl ?_
      cases panicked <;> rfl
    | _ => exact stays view s hp (by simp) (by simp)
  | closeAsked =>
    simp only [step]
    cases hp : t.point with
    | idle =>
      dsimp only
      split_ifs
      · exact .leave _ _ _ rfl rfl rfl
      · exact stays view s hp (by simp) (by simp)
    | _ => exact stays view s hp (by simp) (by simp)
  | tick =>
    simp only [step]
    cases hp : t.point with
    | idle =>
      dsimp only
      split_ifs
      · exact passage_beat view s t hp
      · exact stays view s hp (by simp) (by simp)
    | _ => exact stays view s hp (by simp) (by simp)
  | wake =>
    simp only [step]
    cases hp : t.point with
    | idle =>
      dsimp only
      split_ifs
      · exact .goOn rfl rfl rfl rfl
      · exact stays view s hp (by simp) (by simp)
    | _ => exact stays view s hp (by simp) (by simp)
  | incoming i =>
    simp only [step]
    cases hp : t.point with
    | idle => exact passage_takeIncoming view s t hp i
    | _ => exact stays view s hp (by simp) (by simp)

end Task

end MarketFeed
