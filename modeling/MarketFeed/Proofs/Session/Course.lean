import MarketFeed.Proofs.Session.Lasting

/-!
# The course of a session

What a run leaves behind in the eyes of others, and what it tells of where the task stands. A session
makes its connection stage by stage, then writes its requests round by round, and there are four ways
in which it comes to its end (`Course.Over`). Main fact: every run fits one of these, at every moment
(`course_fits`).
-/

namespace MarketFeed

open Trace

def Stage.all : List Stage := [.resolve, .connect, .tls, .upgrade]

/-- What others see as a stage is announced. -/
def Stage.announcement (stage : Stage) : Effect := .enter stage.phase

/-- What others see as a stage begins. -/
def Stage.approach (stage : Stage) : List Effect := [stage.announcement, .begin stage]

/-- What others see as a request is handed to the transport. -/
def attempt (subscriptions : List Subscription) : List Effect :=
  [.enter .subscribing, .write (.subscribing subscriptions)]

/-- What others see of a request that is written. -/
def round (subscriptions : List Subscription) : List Effect :=
  attempt subscriptions ++ [.enter .streaming]

/-- What others see as the end looks at the connection. -/
def farewell (isOpen : Bool) : List Effect :=
  .enter .closing :: if isOpen then [.close] else []

/-! ## Traces -/

def Effect.begun? : Effect → Option Stage
  | .begin stage => some stage
  | _ => none

/-- The stages among effects that begin. -/
def beginnings (effects : List Effect) : List Stage := effects.filterMap Effect.begun?

def Effect.isClose : Effect → Bool
  | .close => true
  | _ => false

/-- How often among effects the transport is closed. -/
def closes (effects : List Effect) : Nat := effects.countP Effect.isClose

namespace Point

/-- The stage that a signal says has succeeded. -/
def passed : Point → Signal → List Stage
  | .during stage, .outcome (.ok _) => [stage]
  | _, _ => []

/-- The stage that a signal says has failed, and why. -/
def failed : Point → Signal → List (Stage × FeedError)
  | .during stage, .outcome (.error error) => [(stage, error)]
  | _, _ => []

/-- The request that a signal says has been written. -/
def written (p : Point) : Signal → List (List Subscription)
  | .outcome (.ok _) => p.outstanding
  | _ => []

/-- The request that a signal says has not been written. -/
def lost (p : Point) : Signal → List (List Subscription)
  | .outcome (.error _) => p.outstanding
  | _ => []

theorem writes_of_outstanding {p : Point} (h : p.outstanding = []) (signal : Signal) :
    p.written signal = [] ∧ p.lost signal = [] := by
  constructor
  · unfold written
    split
    · exact h
    · rfl
  · unfold lost
    split
    · exact h
    · rfl

/-- What the transport says of the connection as the end looks at it. -/
def parted : Point → View → Signal → List Bool
  | .parting, view, .go => [view.isOpen]
  | _, _, _ => []

/-- What has been said of the connection when a task stands here. -/
def HasParted : Point → List Bool → Prop
  | .closing, parted => parted = [true]
  | .finished, parted => ∃ isOpen, parted = [isOpen]
  | _, parted => parted = []

/-- What others see last. -/
def closed : Point → List Effect
  | .finished => [.enter .closed]
  | _ => []

theorem isStreaming_of_isEnding {p : Point} (h : p.isEnding = true) : p.isStreaming = false := by
  cases p <;> first | rfl | cases h

theorem behind?_of_isEnding {p : Point} (h : p.isEnding = true) : p.behind? = none := by
  cases p <;> first | rfl | cases h

theorem behind?_prefix {p : Point} {passed : List Stage} (h : p.behind? = some passed) :
    passed ++ (p.stage ++ p.announced) <+: Stage.all := by
  cases p with
  | before stage => cases stage <;> cases h <;> decide
  | cleared stage => cases stage <;> cases h <;> decide
  | entered stage => cases stage <;> cases h <;> decide
  | during stage => cases stage <;> cases h <;> decide
  | _ => cases h <;> exact ⟨_, rfl⟩

theorem announced_prefix_due (p : Point) : p.announced <+: p.due := by
  cases p <;> first | exact List.prefix_refl _ | exact List.nil_prefix

theorem stage_of_isStreaming {p : Point} (h : p.isStreaming = true) :
    p.stage = [] ∧ p.announced = [] := by
  cases p <;> first | exact ⟨rfl, rfl⟩ | cases h

end Point

/-- What a run leaves behind. -/
structure Course where
  milestones : List Effect
  /-- The frames that the transport was given. -/
  sends : List Frame
  /-- What was logged as an error. -/
  faults : List LogLine
  /-- The stages that were begun. -/
  begun : List Stage
  /-- The stages that succeeded. -/
  passed : List Stage
  failed : List (Stage × FeedError)
  /-- The requests that were written. -/
  written : List (List Subscription)
  /-- The requests whose writing failed. -/
  lost : List (List Subscription)
  /-- What the transport said of the connection at the end. -/
  parted : List Bool
  /-- How often the transport was closed. -/
  closes : Nat

namespace Course

def append (c d : Course) : Course :=
  ⟨c.milestones ++ d.milestones, c.sends ++ d.sends, c.faults ++ d.faults, c.begun ++ d.begun,
    c.passed ++ d.passed, c.failed ++ d.failed, c.written ++ d.written, c.lost ++ d.lost,
    c.parted ++ d.parted, c.closes + d.closes⟩

instance : Append Course := ⟨append⟩

def none : Course := ⟨[], [], [], [], [], [], [], [], [], 0⟩

theorem append_eq (c d : Course) :
    c ++ d =
      ⟨c.milestones ++ d.milestones, c.sends ++ d.sends, c.faults ++ d.faults, c.begun ++ d.begun,
        c.passed ++ d.passed, c.failed ++ d.failed, c.written ++ d.written, c.lost ++ d.lost,
        c.parted ++ d.parted, c.closes + d.closes⟩ := rfl

theorem append_none (c : Course) : c ++ none = c := by simp [append_eq, none]

theorem append_assoc (c d e : Course) : c ++ d ++ e = c ++ (d ++ e) := by
  simp [append_eq, Nat.add_assoc]

/-- What a step leaves behind. -/
def of (p : Point) (view : View) (signal : Signal) (effects : List Effect) : Course :=
  ⟨MarketFeed.milestones effects, MarketFeed.sends effects, MarketFeed.faults effects,
    beginnings effects, p.passed signal, p.failed signal, p.written signal, p.lost signal,
    p.parted view signal, MarketFeed.closes effects⟩

/-- Some stages have succeeded, others have begun, and others are announced. -/
def ascent (passed begun announced : List Stage) : Course :=
  { none with
    milestones := (passed ++ begun).flatMap Stage.approach ++ announced.map Stage.announcement
    begun := passed ++ begun
    passed }

/-- Some requests have been written, and others are on their way. -/
def stream (written outstanding : List (List Subscription)) (sends : List Frame)
    (faults : List LogLine) : Course :=
  { ascent Stage.all [] [] with
    milestones := Stage.all.flatMap Stage.approach ++ written.flatMap round ++
      outstanding.flatMap attempt
    written, sends, faults }

/-- The end has looked at the connection. -/
def part (parted : List Bool) (closed : List Effect) : Course :=
  { none with milestones := parted.flatMap farewell ++ closed, parted, closes := parted.count true }

variable (line : Stage → FeedError → LogLine)

/-- The four ways in which a session comes to its end. -/
inductive Over : Course → Prop
  /-- Somebody asked for a close before the task streams. -/
  | turnedBack (passed : List Stage) (h : passed <+: Stage.all) : Over (ascent passed [] [])
  | failed (passed : List Stage) (stage : Stage) (error : FeedError)
    (h : passed ++ [stage] <+: Stage.all) :
    Over { ascent passed [stage] [] with failed := [(stage, error)], faults := [line stage error] }
  /-- The task streamed and had written all its requests. -/
  | left (written : List (List Subscription)) (sends : List Frame) (faults : List LogLine) :
    Over (stream written [] sends faults)
  | unwritten (written : List (List Subscription)) (subscriptions : List Subscription)
    (sends : List Frame) (faults : List LogLine) :
    Over { stream written [subscriptions] sends faults with lost := [subscriptions] }

/-- What a run may have left behind when its task stands at a point. -/
inductive Fits (c : Course) (p : Point) : Prop
  | ascending (passed : List Stage) (hp : p.isStreaming = false) (hpassed : p.behind? = some passed)
    (hc : c = ascent passed p.stage p.announced)
  | streaming (written : List (List Subscription)) (sends : List Frame) (faults : List LogLine)
    (hp : p.isStreaming = true) (hc : c = stream written p.outstanding sends faults)
  | ending (d : Course) (parted : List Bool) (hp : p.isEnding = true) (hd : Over line d)
    (hparted : p.HasParted parted) (hc : c = d ++ part parted p.closed)

variable {line}

theorem Fits.eq_ascent {c : Course} {p : Point} {passed : List Stage} (h : Fits line c p)
    (hp : p.isStreaming = false) (hpassed : p.behind? = some passed) :
    c = ascent passed p.stage p.announced := by
  cases h with
  | ascending passed' _ hpassed' hc =>
    cases hpassed.symm.trans hpassed'
    exact hc
  | streaming _ _ _ hp' _ => cases hp.symm.trans hp'
  | ending _ _ hp' _ _ _ => cases hpassed.symm.trans (Point.behind?_of_isEnding hp')

theorem Fits.eq_stream {c : Course} {p : Point} (h : Fits line c p) (hp : p.isStreaming = true) :
    ∃ written sends faults, c = stream written p.outstanding sends faults := by
  cases h with
  | ascending _ hp' _ _ => cases hp.symm.trans hp'
  | streaming written sends faults _ hc => exact ⟨written, sends, faults, hc⟩
  | ending _ _ hp' _ _ _ => cases hp.symm.trans (Point.isStreaming_of_isEnding hp')

theorem Fits.eq_part {c : Course} {p : Point} (h : Fits line c p) (hp : p.isEnding = true) :
    ∃ d parted, Over line d ∧ p.HasParted parted ∧ c = d ++ part parted p.closed := by
  cases h with
  | ascending _ _ hpassed _ => cases (Point.behind?_of_isEnding hp).symm.trans hpassed
  | streaming _ _ _ hp' _ => cases (Point.isStreaming_of_isEnding hp).symm.trans hp'
  | ending d parted _ hd hparted hc => exact ⟨d, parted, hd, hparted, hc⟩

theorem beginnings_of_silent {effects : List Effect} (h : MarketFeed.milestones effects = []) :
    beginnings effects = [] := by
  rw [beginnings, List.filterMap_eq_nil_iff]
  intro e he
  cases e with
  | begin stage => exact absurd rfl (List.filter_eq_nil_iff.mp h _ he)
  | _ => rfl

theorem closes_of_silent {effects : List Effect} (h : MarketFeed.milestones effects = []) :
    MarketFeed.closes effects = 0 := by
  rw [MarketFeed.closes, List.countP_eq_zero]
  intro e he hclose
  cases e with
  | close => exact absurd rfl (List.filter_eq_nil_iff.mp h _ he)
  | _ => cases hclose

/-- What a step of a streaming task leaves behind in which nobody sees a milestone. -/
theorem of_silent {p : Point} (view : View) (signal : Signal) {effects : List Effect}
    (hp : p.isStreaming = true) (hout : p.outstanding = [])
    (hsilent : MarketFeed.milestones effects = []) :
    of p view signal effects =
      { none with sends := MarketFeed.sends effects, faults := MarketFeed.faults effects } := by
  have hoffs : p.passed signal = [] ∧ p.failed signal = [] ∧ p.parted view signal = [] := by
    cases p <;> first | exact ⟨rfl, rfl, rfl⟩ | cases hp
  obtain ⟨hwritten, hlost⟩ := Point.writes_of_outstanding hout signal
  rw [of, hsilent, beginnings_of_silent hsilent, closes_of_silent hsilent, hoffs.1, hoffs.2.1,
    hoffs.2.2, hwritten, hlost]
  rfl

/-- Lines that report no error leave nothing behind. -/
theorem of_logs_append {lines : List LogLine} (h : ∀ line ∈ lines, line.severity ≠ .error)
    (p : Point) (view : View) (signal : Signal) (effects : List Effect) :
    of p view signal (lines.map .log ++ effects) = of p view signal effects := by
  have hsilent : MarketFeed.milestones (lines.map .log) = [] := milestones_logs lines
  simp only [of, milestones_append, sends_append, faults_append, hsilent, sends_logs, faults_logs h,
    beginnings, MarketFeed.closes, List.filterMap_append, List.countP_append, List.nil_append]
  have hbegun := beginnings_of_silent hsilent
  have hcloses := closes_of_silent hsilent
  rw [beginnings] at hbegun
  rw [MarketFeed.closes] at hcloses
  rw [hbegun, hcloses, List.nil_append, Nat.zero_add]

/-- A step that is none leaves nothing behind. -/
theorem of_stay {p : Point} (view : View) {signal : Signal}
    (h : ∀ r, signal = .outcome r → p.stage = [] ∧ p.outstanding = [])
    (hgo : signal = .go → p ≠ .flushing ∧ p ≠ .parting) : of p view signal [] = none := by
  have hparted : p.parted view signal = [] := by
    unfold Point.parted
    split
    · exact absurd rfl (hgo rfl).2
    · rfl
  have houtcome : p.passed signal = [] ∧ p.failed signal = [] ∧ p.written signal = [] ∧
      p.lost signal = [] := by
    cases signal with
    | outcome r =>
      obtain ⟨hstage, hout⟩ := h r rfl
      cases r <;> cases p <;>
        first | exact ⟨rfl, rfl, hout, rfl⟩ | exact ⟨rfl, rfl, rfl, hout⟩ | cases hstage
    | _ => cases p <;> exact ⟨rfl, rfl, rfl, rfl⟩
  rw [of, hparted, houtcome.1, houtcome.2.1, houtcome.2.2.1, houtcome.2.2.2]
  rfl

/-- A step fits the course that its passage goes on from. -/
theorem Fits.passage {view : View} {s : Session} {c : Course} {p p' : Point} {signal : Signal}
    {effects : List Effect} (hc : Fits s.stageLine c p) (h : Passage view s p signal p' effects)
    (hflush : p = .flushing → s.book.pending ≠ []) :
    Fits s.stageLine (c ++ of p view signal effects) p' := by
  cases h with
  | setOut endpoint =>
    obtain rfl := hc.eq_ascent rfl rfl
    exact .ascending [] rfl rfl rfl
  | turnBack stage _ =>
    cases stage <;> obtain rfl := hc.eq_ascent rfl rfl <;>
      exact .ending _ [] rfl (.turnedBack _ (by decide)) rfl rfl
  | clear stage _ =>
    cases stage <;> obtain rfl := hc.eq_ascent rfl rfl <;> exact .ascending _ rfl rfl rfl
  | enter stage =>
    cases stage <;> obtain rfl := hc.eq_ascent rfl rfl <;> exact .ascending _ rfl rfl rfl
  | begin stage =>
    cases stage <;> obtain rfl := hc.eq_ascent rfl rfl <;> exact .ascending _ rfl rfl rfl
  | pass stage next hnext =>
    cases stage <;> cases hnext <;> obtain rfl := hc.eq_ascent rfl rfl <;>
      exact .ascending _ rfl rfl rfl
  | arrive stage hnext =>
    cases stage <;> cases hnext
    obtain rfl := hc.eq_ascent rfl rfl
    exact .ascending _ rfl rfl rfl
  | fail stage error =>
    obtain ⟨passed, hpassed⟩ : ∃ passed, (Point.during stage).behind? = some passed := by
      cases stage <;> exact ⟨_, rfl⟩
    obtain rfl := hc.eq_ascent rfl hpassed
    refine .ending _ [] rfl (.failed passed stage error (Point.behind?_prefix hpassed)) rfl ?_
    have hof : of (.during stage) view (.outcome (.error error)) [.log (s.stageLine stage error)] =
        { none with failed := [(stage, error)], faults := [s.stageLine stage error] } := rfl
    simp [hof, append_eq, ascent, part, none, Point.stage, Point.announced, Point.closed]
  | giveUp _ =>
    obtain rfl := hc.eq_ascent rfl rfl
    exact .ending _ [] rfl (.turnedBack _ (by decide)) rfl rfl
  | breakDown _ _ =>
    obtain rfl := hc.eq_ascent rfl rfl
    exact .ascending _ rfl rfl rfl
  | start _ _ =>
    obtain rfl := hc.eq_ascent rfl rfl
    exact .streaming [] [] [] rfl rfl
  | request _ =>
    obtain ⟨written, sends, faults, rfl⟩ := hc.eq_stream rfl
    refine .streaming written (sends ++ [.subscribing s.book.pending]) faults rfl ?_
    have hof : of .flushing view .go
        [.enter .subscribing, .write (.subscribing s.book.pending)] =
        { none with milestones := attempt s.book.pending, sends := [.subscribing s.book.pending] } :=
      rfl
    simp [hof, append_eq, stream, ascent, none, Point.outstanding]
  | spare hw => exact absurd hw (hflush rfl)
  | written subscriptions =>
    obtain ⟨written, sends, faults, rfl⟩ := hc.eq_stream rfl
    refine .streaming (written ++ [subscriptions]) sends faults rfl ?_
    have hof : of (.writing (.request subscriptions)) view (.outcome (.ok ()))
        [.enter .streaming] =
        { none with milestones := [.enter .streaming], written := [subscriptions] } := rfl
    simp [hof, append_eq, stream, ascent, none, Point.outstanding, round]
  | unwritten subscriptions error =>
    obtain ⟨written, sends, faults, rfl⟩ := hc.eq_stream rfl
    generalize hline :
      LogLine.error s!"{s.title}: {(Task.failure Task.requestLabel error).message}" = line
    refine .ending _ [] rfl (.unwritten written subscriptions sends (faults ++ [line])) rfl ?_
    have hof : of (.writing (.request subscriptions)) view (.outcome (.error error)) [.log line] =
        { none with faults := [line], lost := [subscriptions] } := by
      subst hline
      rfl
    simp [hof, append_eq, stream, ascent, part, none, Point.outstanding, Point.closed]
  | attend _ _ _ _ hp hout hp' hout' _ hsilent =>
    obtain ⟨written, sends, faults, rfl⟩ := hc.eq_stream hp
    rw [of_silent view signal hp hout hsilent]
    refine .streaming written (sends ++ MarketFeed.sends effects)
      (faults ++ MarketFeed.faults effects) hp' ?_
    simp [append_eq, stream, ascent, none, hout, hout']
  | leave _ _ _ hp hout hsilent =>
    obtain ⟨written, sends, faults, rfl⟩ := hc.eq_stream hp
    rw [of_silent view signal hp hout hsilent]
    refine .ending _ [] rfl (.left written (sends ++ MarketFeed.sends effects)
      (faults ++ MarketFeed.faults effects)) rfl ?_
    simp [append_eq, stream, ascent, part, none, hout, Point.closed]
  | drain =>
    obtain ⟨d, parted, hd, rfl, rfl⟩ := hc.eq_part rfl
    rw [append_assoc]
    exact .ending d [] rfl hd rfl rfl
  | part =>
    obtain ⟨d, parted, hd, rfl, rfl⟩ := hc.eq_part rfl
    rw [append_assoc]
    exact .ending d [] rfl hd rfl rfl
  | close hopen =>
    obtain ⟨d, parted, hd, rfl, rfl⟩ := hc.eq_part rfl
    rw [append_assoc]
    refine .ending d [true] rfl hd rfl ?_
    have hof : of .parting view .go [.enter .closing, .close] =
        { none with milestones := [.enter .closing, .close], parted := [view.isOpen], closes := 1 } :=
      rfl
    simp [hof, hopen, append_eq, part, none, farewell, Point.closed]
  | skip hopen =>
    obtain ⟨d, parted, hd, rfl, rfl⟩ := hc.eq_part rfl
    rw [append_assoc]
    refine .ending d [false] rfl hd ⟨false, rfl⟩ ?_
    have hof : of .parting view .go [.enter .closing, .enter .closed, .log s.closedLine] =
        { none with milestones := [.enter .closing, .enter .closed], parted := [view.isOpen] } := rfl
    simp [hof, hopen, append_eq, part, none, farewell, Point.closed]
  | finish r warnings h =>
    obtain ⟨d, parted, hd, rfl, rfl⟩ := hc.eq_part rfl
    rw [append_assoc]
    refine .ending d [true] rfl hd ⟨true, rfl⟩ ?_
    have hof : of .closing view (.outcome r)
        (warnings.map .log ++ [.enter .closed, .log s.closedLine]) =
        { none with milestones := [.enter .closed] } := by
      have hlast : of .closing view (.outcome r) [.enter .closed, .log s.closedLine] =
          { none with milestones := [.enter .closed] } := by cases r <;> rfl
      rw [of_logs_append h, hlast]
    simp [hof, append_eq, part, none, farewell, Point.closed]
  | stay _ _ h hgo =>
    rw [of_stay view h hgo, append_none]
    exact hc

end Course

/-! ## Runs -/

namespace Scene

/-- Where the task stands; it has not set out before it begins. -/
def place (sc : Scene) : Point := sc.point?.getD .fresh

/-- What a move tells by where the task stands, if it is a step of the task. -/
def told {α : Type} (f : Point → View → Signal → List α) (sc : Scene) : Move → List α
  | .step view signal => (sc.point?.map fun p => f p view signal).getD []
  | _ => []

/-- What a run leaves behind. -/
def course (sc : Scene) (moves : List Move) : Course where
  milestones := milestones (sc.effectsOf moves)
  sends := sends (sc.effectsOf moves)
  faults := faults (sc.effectsOf moves)
  begun := beginnings (sc.effectsOf moves)
  passed := collect move (told fun p _ => p.passed) sc moves
  failed := collect move (told fun p _ => p.failed) sc moves
  written := sc.writtenOf moves
  lost := collect move (told fun p _ => p.lost) sc moves
  parted := collect move (told Point.parted) sc moves
  closes := closes (sc.effectsOf moves)

theorem course_append (sc : Scene) (ms ms' : List Move) :
    sc.course (ms ++ ms') = sc.course ms ++ (sc.play ms).course ms' := by
  simp only [course, Course.append_eq, effectsOf_append, milestones_append, sends_append,
    faults_append, beginnings, closes, List.filterMap_append, List.countP_append, writtenOf,
    collect_append, play]

theorem course_nil (sc : Scene) : sc.course [] = .none := rfl

theorem place_eq {sc : Scene} {task : Task} (ht : sc.task? = some task) : sc.place = task.point := by
  rw [place, point?, ht]
  rfl

/-- A step of the task leaves behind what its passage does. -/
theorem course_step {sc : Scene} {task : Task} (ht : sc.task? = some task) (view : View)
    (signal : Signal) :
    sc.course [.step view signal] =
      .of task.point view signal (task.step view sc.session signal).effects := by
  have hpoint : sc.point? = some task.point := by rw [point?, ht]; rfl
  have hwritten : sc.written (.step view signal) = task.point.written signal := by
    rw [written, ht]
    rfl
  simp only [course, effectsOf_singleton, effects_step ht, writtenOf, collect_cons, collect_nil,
    List.append_nil, told, hpoint, hwritten, Option.map_some, Option.getD_some]
  rfl

theorem severity_stageAll (s : Session) (subscriptions : List Subscription) :
    ∀ line ∈ (s.stageAll subscriptions).2, line.severity ≠ .error := by
  induction subscriptions generalizing s with
  | nil => simp [Session.stageAll]
  | cons sub rest ih =>
    have hrest := ih { s with book := (s.book.stage sub).1 }
    show ∀ line ∈ if (s.book.stage sub).2 = .queueFull then Session.fullLine sub :: _ else _, _
    split_ifs
    · rw [List.forall_mem_cons]
      exact ⟨by simp [Session.fullLine, LogLine.warning], hrest⟩
    · exact hrest

theorem severity_call (s : Session) (c : Call) :
    ∀ line ∈ (s.obey c).2, line.severity ≠ .error := by
  cases c with
  | subscribe sub =>
    show ∀ line ∈ (s.subscribe sub).2.1, line.severity ≠ .error
    unfold Session.subscribe
    split <;> simp [Session.fullLine, LogLine.warning]
  | close => simp [Session.obey]

/-- What nobody sees but in lines that report no error leaves nothing behind. -/
theorem course_of_logs {sc : Scene} {m : Move} {lines : List LogLine}
    (hm : ∀ view signal, m ≠ .step view signal) (heffects : sc.effects m = lines.map .log)
    (h : ∀ line ∈ lines, line.severity ≠ .error) : sc.course [m] = .none := by
  have htold : ∀ {α : Type} (f : Point → View → Signal → List α), sc.told f m = [] := by
    intro α f
    cases m with
    | step view signal => exact absurd rfl (hm view signal)
    | _ => rfl
  have hwritten : sc.written m = [] := by
    cases m with
    | step view signal => exact absurd rfl (hm view signal)
    | _ => rfl
  simp only [course, effectsOf_singleton, heffects, milestones_logs, sends_logs, faults_logs h,
    Course.beginnings_of_silent (milestones_logs lines),
    Course.closes_of_silent (milestones_logs lines), writtenOf, collect_cons, collect_nil, htold,
    hwritten, List.append_nil]
  rfl

/-- A move of anybody else leaves the task where it is, and nothing behind. -/
theorem course_call (sc : Scene) (c : Call) :
    sc.course [.call c] = .none ∧ (sc.move (.call c)).place = sc.place :=
  ⟨course_of_logs nofun rfl (severity_call sc.session c), rfl⟩

theorem course_begin (sc : Scene) (endpoint : Endpoint) (subscriptions : List Subscription) :
    sc.course [.begin endpoint subscriptions] = .none ∧
      (sc.move (.begin endpoint subscriptions)).place = sc.place := by
  have heffects : sc.effects (.begin endpoint subscriptions) =
    (sc.beginTask endpoint subscriptions).2 := rfl
  have hmove : sc.move (.begin endpoint subscriptions) = (sc.beginTask endpoint subscriptions).1 :=
    rfl
  cases ht : sc.task? with
  | some task =>
    rw [beginTask_of_isSome (by simp [ht])] at heffects hmove
    exact ⟨course_of_logs nofun (heffects.trans List.map_nil.symm) nofun, congrArg place hmove⟩
  | none =>
    by_cases hs : subscriptions = []
    · rw [hs, beginTask_nil] at heffects hmove
      rw [hs]
      exact ⟨course_of_logs nofun (heffects.trans List.map_nil.symm) nofun, congrArg place hmove⟩
    · rw [beginTask_of_isNone ht endpoint hs] at heffects hmove
      refine ⟨course_of_logs nofun heffects (severity_stageAll sc.session subscriptions), ?_⟩
      rw [hmove, place, place, point?, point?, ht]
      rfl

theorem course_step_of_isNone {sc : Scene} (ht : sc.task? = none) (view : View) (signal : Signal) :
    sc.course [.step view signal] = .none ∧ (sc.move (.step view signal)).place = sc.place := by
  have heffects : sc.effects (.step view signal) = [] := by
    show (sc.stepTask view signal).2 = []
    rw [stepTask, ht]
  have hpoint : sc.point? = none := by rw [point?, ht]; rfl
  refine ⟨?_, by rw [move_step_of_isNone ht]⟩
  simp only [course, effectsOf_singleton, heffects, writtenOf, collect_cons, collect_nil, told,
    hpoint, written, ht]
  rfl

/-- A move leaves the task where it is and nothing behind, unless it is a step of the task. -/
theorem move_cases (sc : Scene) (m : Move) :
    sc.course [m] = .none ∧ (sc.move m).place = sc.place ∨
      ∃ task view signal, sc.task? = some task ∧ m = .step view signal ∧
        sc.course [m] = .of sc.place view signal (task.step view sc.session signal).effects ∧
        Passage view sc.session sc.place signal (sc.move m).place
          (task.step view sc.session signal).effects := by
  cases m with
  | call c => exact Or.inl (course_call sc c)
  | begin endpoint subscriptions => exact Or.inl (course_begin sc endpoint subscriptions)
  | step view signal =>
    cases ht : sc.task? with
    | none => exact Or.inl (course_step_of_isNone ht view signal)
    | some task =>
      rw [place_eq ht, move_step ht]
      exact Or.inr ⟨task, view, signal, rfl, rfl, course_step ht view signal,
        Task.passage_step view sc.session task signal⟩

theorem point?_of_place {sc : Scene} {p : Point} (h : sc.place = p) (hp : p ≠ .fresh) :
    sc.point? = some p := by
  cases hpoint : sc.point? with
  | none =>
    rw [place, hpoint] at h
    exact absurd h.symm hp
  | some p' => rw [← h, place, hpoint, Option.getD_some]

/-- Every run leaves behind what fits where its task stands. -/
theorem course_fits (id : Nat) (settings : StreamConfig) (moves : List Move) :
    Course.Fits (Session.new id settings).stageLine ((start id settings).course moves)
      ((start id settings).play moves).place := by
  induction moves using List.reverseRecOn with
  | nil => exact .ascending [] rfl rfl rfl
  | append_singleton moves m ih =>
    rw [course_append, play_append, play_cons, play_nil]
    have hladen := laden_play id settings moves
    have hid := (follows_play (start id settings) moves).id_eq
    generalize (start id settings).play moves = sc at ih hladen hid ⊢
    rcases sc.move_cases m with ⟨hnone, hplace⟩ | ⟨task, view, signal, -, -, hcourse, hpassage⟩
    · rw [hnone, hplace, Course.append_none]
      exact ih
    · have hline : sc.session.stageLine = (Session.new id settings).stageLine := by
        funext stage error
        rw [Session.stageLine, Session.title, hid]
        rfl
      rw [← hline] at ih ⊢
      rw [hcourse]
      refine ih.passage hpassage fun hp => ?_
      exact hladen.waits .flushing (point?_of_place hp (by simp)) rfl

end Scene

end MarketFeed
