import MarketFeed.Proofs.Message.Request
import MarketFeed.Proofs.Session.Scene

/-!
# From staging to the wire

A run of a session writes its requests in the order in which their subscriptions were staged: none is
lost, none is written twice, and what has not been taken yet waits in the book
(`requests_follow_staging`). This needs two stores. The book holds what was staged until it is taken,
and the task holds what it is writing until the transport is done.
-/

namespace MarketFeed

open Trace

namespace Point

/-- The request that is on its way. -/
def outstanding : Point → List (List Subscription)
  | .writing (.request subscriptions) => [subscriptions]
  | _ => []

/-- Whether the end has begun. -/
def isEnding : Point → Bool
  | .ending | .draining | .parting | .closing | .finished => true
  | _ => false

/-- Whether the end has retired the book. -/
def isDrained : Point → Bool
  | .parting | .closing | .finished => true
  | _ => false

end Point

namespace Task

/-- The request whose writing a signal says has succeeded. -/
def written (t : Task) : Signal → List (List Subscription)
  | .outcome (.ok _) => t.point.outstanding
  | _ => []

/-- What becomes of a request in a step: what was on its way or is taken out of the book now has been
written or is on its way, unless the end begins. -/
def Carries (s : Session) (t : Task) (signal : Signal) (n : Turn) : Prop :=
  t.point.outstanding ++ drawn s.book (t.bookOp? signal) =
      t.written signal ++ n.task.point.outstanding ∨
    t.written signal = [] ∧ n.task.point.isEnding

theorem written_of_outstanding {t : Task} (h : t.point.outstanding = []) (signal : Signal) :
    t.written signal = [] := by
  unfold written
  split
  · exact h
  · rfl

/-- A step in which nothing is on its way and nothing is taken out of the book. -/
theorem carries_of_quiet {s : Session} {t : Task} {signal : Signal} {n : Turn}
    (ht : t.point.outstanding = []) (hdrawn : drawn s.book (t.bookOp? signal) = [])
    (hn : n.task.point.outstanding = []) : Carries s t signal n := by
  left
  rw [ht, hdrawn, written_of_outstanding ht, hn]

theorem drawn_of_ne_go (b : Book) (t : Task) {signal : Signal} (h : signal ≠ .go) :
    drawn b (t.bookOp? signal) = [] := by
  unfold bookOp?
  split
  · exact absurd rfl h
  · exact absurd rfl h
  · exact absurd rfl h
  · rename_i f _
    rcases frameOp?_cases f with hop | ⟨s, hop⟩ | ⟨s, hop⟩ <;> rw [hop] <;> rfl
  · rfl

theorem outstanding_takeMessage (s : Session) (t : Task)
    (m : Except MessageFault (Option Message)) :
    (takeMessage s t m).task.point.outstanding = [] := by
  rcases m with fault | _ | ack | event
  · simp only [takeMessage]
    split_ifs <;> rfl
  · rfl
  · rfl
  · rfl

theorem outstanding_takeIncoming (view : View) (s : Session) (t : Task) (i : Incoming)
    (h : t.point = .idle) : (takeIncoming view s t i).task.point.outstanding = [] := by
  cases i with
  | ended => rfl
  | failed error => rfl
  | frame f =>
    cases f with
    | ping payload => rfl
    | pong payload => exact congrArg Point.outstanding h
    | close reason => rfl
    | raw payload => exact congrArg Point.outstanding h
    | text text => exact outstanding_takeMessage s t _
    | binary bytes => exact outstanding_takeMessage s t _

theorem outstanding_beat (view : View) (s : Session) (t : Task) (h : t.point = .idle) :
    (beat view s t).task.point.outstanding = [] := by
  unfold beat
  cases view.isOpen with
  | true => simp [goTo, Point.outstanding]
  | false => simp [h, Point.outstanding]

theorem carries_afterWrite (view : View) (s : Session) (t : Task) (w : Write)
    (r : Except FeedError Unit) (h : t.point = .writing w) :
    Carries s t (.outcome r) (afterWrite view s t w r) := by
  have hdrawn : drawn s.book (t.bookOp? (.outcome r)) = [] := drawn_of_ne_go s.book t (by simp)
  cases w with
  | request subscriptions =>
    cases r with
    | ok _ =>
      left
      rw [hdrawn, written]
      simp [afterWrite, goTo, Point.outstanding]
    | error error => exact Or.inr ⟨rfl, rfl⟩
  | ping =>
    refine carries_of_quiet (by rw [h]; rfl) hdrawn ?_
    cases r <;> rfl
  | pong payload =>
    refine carries_of_quiet (by rw [h]; rfl) hdrawn ?_
    cases r <;> rfl

theorem carries_proceed (view : View) (s : Session) (t : Task) :
    Carries s t .go (proceed view s t) := by
  unfold proceed
  cases h : t.point with
  | flushing =>
    simp only [Book.take]
    cases hp : s.book.pending with
    | nil => exact carries_of_quiet (by rw [h]; rfl) (by simp [bookOp?, h, drawn, Book.batch, hp]) rfl
    | cons sub rest =>
      left
      simp [bookOp?, h, drawn, Book.batch, Book.take, hp, written, goTo, Point.outstanding]
  | writing w => exact Or.inl (by simp [bookOp?, h, drawn, written])
  | before stage =>
    refine carries_of_quiet (by rw [h]; rfl) (by simp [bookOp?, h, drawn]) ?_
    dsimp only
    split_ifs <;> rfl
  | connected =>
    refine carries_of_quiet (by rw [h]; rfl) (by simp [bookOp?, h, drawn]) ?_
    dsimp only
    split_ifs <;> rfl
  | settling =>
    refine carries_of_quiet (by rw [h]; rfl) (by simp [bookOp?, h, drawn]) ?_
    dsimp only
    split_ifs <;> rfl
  | waking =>
    refine carries_of_quiet (by rw [h]; rfl) (by simp [bookOp?, h, drawn]) ?_
    dsimp only
    split_ifs <;> rfl
  | retiring =>
    refine carries_of_quiet (by rw [h]; rfl) (by simp [bookOp?, h, drawn, Book.batch]) ?_
    dsimp only
    split <;> rfl
  | parting =>
    refine carries_of_quiet (by rw [h]; rfl) (by simp [bookOp?, h, drawn]) ?_
    dsimp only
    split_ifs <;> rfl
  | _ =>
    exact carries_of_quiet (by rw [h]; rfl) (by simp [bookOp?, h, drawn, Book.batch])
      (by first | rfl | (rw [h]; rfl))

theorem carries_step (view : View) (s : Session) (t : Task) (signal : Signal) :
    Carries s t signal (t.step view s signal) := by
  apply step_cases view s t signal
  case stage =>
    rintro stage r h rfl
    refine carries_of_quiet (by rw [h]; rfl) (drawn_of_ne_go _ _ (by simp)) ?_
    cases r with
    | ok _ => cases stage <;> rfl
    | error error => rfl
  case write =>
    rintro w r h rfl
    exact carries_afterWrite view s t w r h
  case close =>
    rintro r h rfl
    refine carries_of_quiet (by rw [h]; rfl) (drawn_of_ne_go _ _ (by simp)) ?_
    cases r <;> rfl
  case delivery =>
    rintro event panicked h rfl
    exact carries_of_quiet (by rw [h]; rfl) (drawn_of_ne_go _ _ (by simp)) rfl
  case closeAsked =>
    rintro h rfl
    exact carries_of_quiet (by rw [h]; rfl) (drawn_of_ne_go _ _ (by simp)) rfl
  case tick =>
    rintro h rfl
    exact carries_of_quiet (by rw [h]; rfl) (drawn_of_ne_go _ _ (by simp))
      (outstanding_beat view s t h)
  case wake =>
    rintro h rfl
    exact carries_of_quiet (by rw [h]; rfl) (drawn_of_ne_go _ _ (by simp)) rfl
  case incoming =>
    rintro i h rfl
    exact carries_of_quiet (by rw [h]; rfl) (drawn_of_ne_go _ _ (by simp))
      (outstanding_takeIncoming view s t i h)
  case go =>
    rintro rfl
    exact carries_proceed view s t
  case stay =>
    intro hgo hwrite _
    left
    have hwritten : t.written signal = [] := by
      cases h : t.point with
      | writing w =>
        cases signal with
        | outcome r => exact absurd rfl (hwrite w r h)
        | _ => rfl
      | _ => exact written_of_outstanding (by rw [h]; rfl) signal
    rw [drawn_of_ne_go _ _ hgo, hwritten, List.append_nil, List.nil_append]

/-! ## The way of the end -/

/-- Where the end goes on from a point. -/
inductive Ends : Point → Point → Prop
  | drain : Ends .ending .draining
  | part : Ends .draining .parting
  | close : Ends .parting .closing
  | skip : Ends .parting .finished
  | finish : Ends .closing .finished

theorem Ends.isEnding {p p' : Point} (h : Ends p p') : p'.isEnding := by
  cases h <;> rfl

theorem Ends.isDrained {p p' : Point} (h : Ends p p') (hp : p.isDrained) : p'.isDrained := by
  cases h <;> first | rfl | cases hp

/-- Once the end has begun, it goes straight on. -/
theorem ends_step (view : View) (s : Session) {t : Task} (signal : Signal)
    (h : t.point.isEnding) :
    (t.step view s signal).task.point = t.point ∨
      Ends t.point (t.step view s signal).task.point := by
  apply step_cases view s t signal (P := fun n => n.task.point = t.point ∨ Ends t.point n.task.point)
  case close =>
    rintro r hp rfl
    rw [hp]
    cases r <;> exact Or.inr .finish
  case go =>
    rintro rfl
    unfold proceed
    cases hp : t.point with
    | ending => exact Or.inr .drain
    | draining => exact Or.inr .part
    | parting =>
      dsimp only
      split_ifs
      · exact Or.inr .close
      · exact Or.inr .skip
    | closing => exact Or.inl hp
    | finished => exact Or.inl hp
    | _ => simp [hp, Point.isEnding] at h
  case stay => exact fun _ _ _ => Or.inl rfl
  all_goals
    intros
    simp_all [Point.isEnding]

theorem isEnding_step (view : View) (s : Session) (t : Task) (signal : Signal)
    (h : t.point.isEnding) : (t.step view s signal).task.point.isEnding := by
  rcases ends_step view s signal h with heq | hends
  · rw [heq]
    exact h
  · exact hends.isEnding

theorem isDrained_step (view : View) (s : Session) (t : Task) (signal : Signal)
    (h : t.point.isDrained) : (t.step view s signal).task.point.isDrained := by
  have hending : t.point.isEnding := by
    cases hp : t.point <;> simp_all [Point.isDrained, Point.isEnding]
  rcases ends_step view s signal hending with heq | hends
  · rw [heq]
    exact h
  · exact hends.isDrained h

theorem isDrained_of_bookOp? (view : View) (s : Session) {t : Task} {signal : Signal}
    (h : t.bookOp? signal = some .retire) : (t.step view s signal).task.point.isDrained := by
  unfold bookOp? at h
  split at h
  · cases h
  · cases h
  · rename_i hp
    simp [step, proceed, hp, goTo, Point.isDrained]
  · rename_i f _
    rcases frameOp?_cases f with hop | ⟨s, hop⟩ | ⟨s, hop⟩ <;> rw [hop] at h <;> cases h
  · cases h

end Task

namespace Scene

/-- The request that is on its way. -/
def outstanding (sc : Scene) : List (List Subscription) :=
  match sc.task? with
  | some task => task.point.outstanding
  | none => []

/-- Whether the end of the task has begun. -/
def isEnding (sc : Scene) : Bool := sc.task?.any (·.point.isEnding)

/-- Whether the end of the task has retired the book. -/
def isDrained (sc : Scene) : Bool := sc.task?.any (·.point.isDrained)

/-- The request whose writing succeeds in a move. -/
def written (sc : Scene) : Move → List (List Subscription)
  | .step _ signal => (sc.task?.map (·.written signal)).getD []
  | _ => []

/-- The requests whose writing succeeds in a run, in order. -/
def writtenOf (sc : Scene) (moves : List Move) : List (List Subscription) :=
  collect move written sc moves

/-! ## What a move does to a point -/

/-- What every step keeps of the point of a task, every move keeps. -/
theorem any_point_move {p : Point → Bool}
    (hstep : ∀ view s (t : Task) signal, p t.point → p (t.step view s signal).task.point)
    {sc : Scene} (h : sc.task?.any (p ·.point)) (m : Move) :
    (sc.move m).task?.any (p ·.point) := by
  obtain ⟨task, ht, hp⟩ := (Option.any_eq_true _ _).mp h
  cases m with
  | call c => exact h
  | begin endpoint subscriptions =>
    show (sc.beginTask endpoint subscriptions).1.task?.any (p ·.point)
    rw [beginTask_of_isSome (by simp [ht])]
    exact h
  | step view signal =>
    show (sc.stepTask view signal).1.task?.any (p ·.point)
    unfold stepTask
    rw [ht]
    exact hstep view sc.session task signal hp

theorem isEnding_move {sc : Scene} (h : sc.isEnding) (m : Move) : (sc.move m).isEnding :=
  any_point_move Task.isEnding_step h m

theorem isDrained_move {sc : Scene} (h : sc.isDrained) (m : Move) : (sc.move m).isDrained :=
  any_point_move Task.isDrained_step h m

theorem isDrained_of_retire_mem_ops {sc : Scene} {m : Move} (h : .retire ∈ sc.ops m) :
    (sc.move m).isDrained := by
  cases m with
  | call c => cases c <;> simp [ops] at h
  | begin endpoint subscriptions =>
    unfold ops at h
    split_ifs at h <;> simp at h
  | step view signal =>
    obtain ⟨task, ht, hop⟩ := Option.bind_eq_some_iff.mp (Option.mem_toList.mp h)
    show (sc.stepTask view signal).1.isDrained
    unfold stepTask
    rw [ht]
    exact Task.isDrained_of_bookOp? view sc.session hop

/-- Unless the task has come to its end, its book has not retired for good. -/
theorem isDrained_of_retire_mem_opsOf {sc : Scene} {moves : List Move}
    (h : .retire ∈ sc.opsOf moves) : (sc.play moves).isDrained := by
  induction moves generalizing sc with
  | nil => simp [opsOf] at h
  | cons m ms ih =>
    rcases List.mem_append.mp h with h | h
    · exact foldl_invariant (I := fun sc : Scene => sc.isDrained = true) (fun _ m h => isDrained_move h m)
        (isDrained_of_retire_mem_ops h) ms
    · exact ih h

/-! ## Requests on their way -/

theorem outstanding_move (sc : Scene) (m : Move) :
    sc.outstanding ++ sc.session.book.batches (sc.ops m) =
        sc.written m ++ (sc.move m).outstanding ∨
      sc.written m = [] ∧ (sc.move m).isEnding := by
  cases m with
  | call c =>
    left
    have hbatches : sc.session.book.batches (sc.ops (.call c)) = [] := by cases c <;> rfl
    rw [hbatches, List.append_nil]
    rfl
  | begin endpoint subscriptions =>
    left
    show _ = [] ++ (sc.beginTask endpoint subscriptions).1.outstanding
    cases h : sc.task? with
    | some task =>
      rw [beginTask_of_isSome (by simp [h]), ops, h]
      exact List.append_nil _
    | none =>
      rw [ops, h, Option.isNone_none, if_pos rfl, batches_stage, List.append_nil]
      by_cases hs : subscriptions = []
      · rw [hs, beginTask_nil]
        rfl
      · rw [beginTask_of_isNone h endpoint hs, outstanding, h]
        rfl
  | step view signal =>
    cases h : sc.task? with
    | none =>
      left
      simp [move_step_of_isNone h, ops, written, h, Book.batches]
    | some task =>
      have hmove : (sc.move (.step view signal)).task? =
          some (task.step view sc.session signal).task := by
        show (sc.stepTask view signal).1.task? = _
        rw [stepTask, h]
      have hdrawn : sc.session.book.batches (sc.ops (.step view signal)) =
          Task.drawn sc.session.book (task.bookOp? signal) := by
        rw [ops, h, Option.bind_some]
        cases task.bookOp? signal with
        | none => rfl
        | some op => exact List.append_nil _
      have hwritten : sc.written (.step view signal) = task.written signal := by
        rw [written, h]
        rfl
      rw [hdrawn, hwritten, isEnding, outstanding, outstanding, h, hmove]
      exact Task.carries_step view sc.session task signal

theorem written_of_isEnding {sc : Scene} (h : sc.isEnding) (m : Move) : sc.written m = [] := by
  cases m with
  | call c => rfl
  | begin endpoint subscriptions => rfl
  | step view signal =>
    obtain ⟨task, ht, hp⟩ := (Option.any_eq_true _ _).mp h
    rw [written, ht]
    refine Task.written_of_outstanding ?_ signal
    cases hpoint : task.point <;> simp_all [Point.isEnding, Point.outstanding]

/-- What has been written is a prefix of what was requested. -/
theorem writtenOf_prefix (sc : Scene) (moves : List Move) :
    sc.writtenOf moves <+: sc.outstanding ++ sc.session.book.batches (sc.opsOf moves) := by
  rw [Book.batches, collect_opsOf]
  refine collect_prefix outstanding (I := fun _ => True) (C := fun sc => sc.isEnding = true)
    (fun _ _ _ => trivial) (fun _ m h => isEnding_move h m) (fun _ m h => written_of_isEnding h m)
    (fun sc m _ => outstanding_move sc m) trivial moves

/-- **Subscriptions reach the exchange in the order in which they were staged.** Whatever callers,
transport and clock do, what a session requests can be read in one way only as a list of batches.
A batch is not empty, holds nothing twice and is no larger than the queue. Until the end of the
session retires the book, the batches and the queue together are what was staged, in order; after
that the batches are still a prefix of it, and so are those that were written without a fault. -/
theorem requests_follow_staging (id : Nat) (settings : StreamConfig) (moves : List Move) :
    ∃! batches : List (List Subscription),
      requests ((start id settings).effectsOf moves) = batches.map Frame.subscribing ∧
      (∀ l ∈ batches, l ≠ [] ∧ l.Nodup ∧ l.length ≤ max 1 settings.capacity) ∧
      (((start id settings).play moves).isDrained = false →
        batches.flatten ++ ((start id settings).play moves).session.book.pending =
          (start id settings).stagedOf moves) ∧
      batches.flatten <+: (start id settings).stagedOf moves ∧
      (start id settings).writtenOf moves <+: batches ∧
      ((start id settings).writtenOf moves).flatten <+: (start id settings).stagedOf moves := by
  have hsound : (start id settings).session.book.Sound := Book.sound_new settings.capacity
  have hprefix := Book.flatten_batches_prefix hsound ((start id settings).opsOf moves)
  have hwritten := writtenOf_prefix (start id settings) moves
  refine ⟨(start id settings).session.book.batches ((start id settings).opsOf moves),
    ⟨requests_effectsOf _ moves, Book.mem_batches hsound _, ?_, hprefix, hwritten, ?_⟩, ?_⟩
  · intro hdrained
    rw [book_play]
    refine Book.flatten_batches_append_pending _ _ fun hretire => ?_
    rw [isDrained_of_retire_mem_opsOf hretire] at hdrained
    cases hdrained
  · obtain ⟨rest, hrest⟩ := hwritten
    refine List.IsPrefix.trans ⟨rest.flatten, ?_⟩ hprefix
    rw [← List.flatten_append, hrest]
    rfl
  · rintro batches ⟨hbatches, -⟩
    rw [requests_effectsOf] at hbatches
    exact (List.map_injective_iff.mpr Frame.subscribing_injective hbatches).symm

end Scene

end MarketFeed
