import MarketFeed.Proofs.Session.Book
import MarketFeed.Session.Task

/-!
# One step of a task

What a step does to the book is one operation at most (`step_book`), and a step writes a request only
where it takes a batch out of the book (`step_requests`). Every property of a run that is about the
book follows from these two.
-/

namespace MarketFeed

/-- The request among effects: requests are the only text that a task writes. -/
def Effect.request? : Effect → Option Frame
  | .write (.text s) => some (.text s)
  | _ => none

/-- The requests among effects. -/
def requests (effects : List Effect) : List Frame := effects.filterMap Effect.request?

@[simp] theorem requests_nil : requests [] = [] := rfl

@[simp] theorem requests_append (es es' : List Effect) :
    requests (es ++ es') = requests es ++ requests es' := List.filterMap_append

@[simp] theorem requests_logs (lines : List LogLine) : requests (lines.map .log) = [] := by
  induction lines with
  | nil => rfl
  | cons l ls ih => exact ih

/-- What a control message does to the book. -/
def Ack.bookOp? : Ack → Option Book.Op
  | .subscribed s => some (.confirm s)
  | .unsubscribed s => some (.remove s)
  | .refused _ _ => none

namespace Task

/-- What an incoming frame does to the book. -/
def frameOp? (f : Frame) : Option Book.Op :=
  match Message.ofFrame f with
  | .ok (some (.control ack)) => ack.bookOp?
  | _ => none

theorem frameOp?_cases (f : Frame) :
    frameOp? f = none ∨ (∃ s, frameOp? f = some (.confirm s)) ∨ ∃ s, frameOp? f = some (.remove s) := by
  unfold frameOp?
  split
  · rename_i ack _
    cases ack with
    | subscribed s => exact Or.inr (Or.inl ⟨s, rfl⟩)
    | unsubscribed s => exact Or.inr (Or.inr ⟨s, rfl⟩)
    | refused code message => exact Or.inl rfl
  · exact Or.inl rfl

/-- What a step does to the book. -/
def bookOp? (t : Task) (signal : Signal) : Option Book.Op :=
  match t.point, signal with
  | .flushing, .go => some .take
  | .retiring, .go => some .retireIfIdle
  | .draining, .go => some .retire
  | .idle, .incoming (.frame f) => frameOp? f
  | _, _ => none

/-- The book after an operation, if there is one. -/
def touched (b : Book) : Option Book.Op → Book
  | some op => b.perform op
  | none => b

/-- What an operation takes out of the book, if there is one. -/
def drawn (b : Book) : Option Book.Op → List (List Subscription)
  | some op => b.batch op
  | none => []

/-- A turn that does to the book what an operation does, and requests what that takes out. -/
def Does (s : Session) (op? : Option Book.Op) (n : Turn) : Prop :=
  n.session.book = touched s.book op? ∧
    requests n.effects = (drawn s.book op?).map Frame.subscribing

/-- A turn that leaves the book alone and requests nothing. -/
abbrev Quiet (s : Session) (n : Turn) : Prop := Does s none n

/-! ## The parts of a step -/

theorem quiet_leave (s : Session) (t : Task) (line : LogLine) : Quiet s (leave s t [.log line]) :=
  ⟨rfl, rfl⟩

theorem quiet_finish (s : Session) (t : Task) {effects : List Effect} (h : requests effects = []) :
    Quiet s (finish s t effects) := by
  refine ⟨rfl, ?_⟩
  rw [finish, requests_append, h]
  rfl

theorem quiet_afterStage (s : Session) (t : Task) (stage : Stage) (r : Except FeedError Unit) :
    Quiet s (afterStage s t stage r) := by
  cases r with
  | error error => exact quiet_leave s t _
  | ok _ => cases stage <;> exact ⟨rfl, rfl⟩

theorem quiet_afterWrite (view : View) (s : Session) (t : Task) (w : Write)
    (r : Except FeedError Unit) : Quiet s (afterWrite view s t w r) := by
  cases w <;> cases r <;> exact ⟨rfl, rfl⟩

theorem quiet_afterClose (s : Session) (t : Task) (r : Except FeedError Unit) :
    Quiet s (afterClose s t r) := by
  cases r <;> exact quiet_finish s t rfl

theorem quiet_afterDelivery (s : Session) (t : Task) (event : DataEvent) (panicked : Bool) :
    Quiet s (afterDelivery s t event panicked) := by
  cases panicked <;> exact ⟨rfl, rfl⟩

theorem quiet_beat (view : View) (s : Session) (t : Task) : Quiet s (beat view s t) := by
  unfold beat
  split_ifs <;> exact ⟨rfl, rfl⟩

theorem does_takeMessage (s : Session) (t : Task) (m : Except MessageFault (Option Message)) :
    Does s (match m with
      | .ok (some (.control ack)) => ack.bookOp?
      | _ => none) (takeMessage s t m) := by
  match m with
  | .ok none => exact ⟨rfl, rfl⟩
  | .ok (some (.control ack)) => cases ack <;> exact ⟨rfl, rfl⟩
  | .ok (some (.data event)) => exact ⟨rfl, rfl⟩
  | .error fault =>
    simp only [takeMessage]
    split_ifs
    · exact quiet_leave s t _
    · exact ⟨rfl, rfl⟩

theorem does_takeIncoming (view : View) (s : Session) (t : Task) (i : Incoming) :
    Does s (match i with
      | .frame f => frameOp? f
      | _ => none) (takeIncoming view s t i) := by
  match i with
  | .ended => exact quiet_leave s t _
  | .failed error => exact quiet_leave s t _
  | .frame (.ping payload) => exact ⟨rfl, rfl⟩
  | .frame (.pong payload) => exact ⟨rfl, rfl⟩
  | .frame (.close reason) => exact ⟨rfl, rfl⟩
  | .frame (.raw payload) => exact ⟨rfl, rfl⟩
  | .frame (.text text) => exact does_takeMessage s t (Message.ofFrame (.text text))
  | .frame (.binary bytes) => exact does_takeMessage s t (Message.ofFrame (.binary bytes))

theorem does_flush (s : Session) (t : Task) (view : View) (h : t.point = .flushing) :
    Does s (some .take) (proceed view s t) := by
  unfold proceed
  rw [h]
  simp only [Book.take]
  cases hp : s.book.pending with
  | nil => exact ⟨rfl, by simp [drawn, Book.batch, hp, requests, Effect.request?]⟩
  | cons sub rest =>
    refine ⟨rfl, ?_⟩
    rw [drawn, Book.batch, if_neg (by simp [hp]), Book.take, hp]
    rfl

theorem does_proceed (view : View) (s : Session) (t : Task) :
    Does s (t.bookOp? .go) (proceed view s t) := by
  by_cases hf : t.point = .flushing
  · simp only [bookOp?, hf]
    exact does_flush s t view hf
  unfold proceed bookOp?
  cases hp : t.point with
  | flushing => exact absurd hp hf
  | before stage =>
    dsimp only
    split_ifs <;> exact ⟨rfl, rfl⟩
  | connected =>
    dsimp only
    split_ifs <;> exact ⟨rfl, rfl⟩
  | retiring =>
    dsimp only
    split
    · rename_i book h
      exact ⟨congrArg Prod.fst h.symm, rfl⟩
    · rename_i book h
      exact ⟨congrArg Prod.fst h.symm, rfl⟩
  | parting =>
    dsimp only
    split_ifs
    · exact ⟨rfl, rfl⟩
    · exact quiet_finish (s.enter .closing) t rfl
  | _ => exact ⟨rfl, rfl⟩

/-! ## The step -/

/-- What a step may be: one of its parts, or nothing, if the task waits for something else. -/
theorem step_cases {P : Turn → Prop} (view : View) (s : Session) (t : Task) (signal : Signal)
    (stage : ∀ stage r, t.point = .during stage → signal = .outcome r → P (afterStage s t stage r))
    (write : ∀ w r, t.point = .writing w → signal = .outcome r → P (afterWrite view s t w r))
    (close : ∀ r, t.point = .closing → signal = .outcome r → P (afterClose s t r))
    (delivery : ∀ event panicked, t.point = .delivering event → signal = .delivered panicked →
      P (afterDelivery s t event panicked))
    (closeAsked : t.point = .idle → signal = .closeAsked →
      P (leave { s with closeAsked := false } t []))
    (tick : t.point = .idle → signal = .tick → P (beat view s t))
    (wake : t.point = .idle → signal = .wake → P ⟨{ s with wake := false }, t.goTo .waking, []⟩)
    (incoming : ∀ i, t.point = .idle → signal = .incoming i → P (takeIncoming view s t i))
    (go : signal = .go → P (proceed view s t))
    (stay : signal ≠ .go → (∀ w r, t.point = .writing w → signal ≠ .outcome r) →
      (∀ i, t.point = .idle → signal ≠ .incoming i) → P ⟨s, t, []⟩) :
    P (t.step view s signal) := by
  unfold step
  split
  · rename_i r h
    exact stage _ r h rfl
  · rename_i w r h
    exact write w r h rfl
  · rename_i r h
    exact close r h rfl
  · rename_i event panicked h
    exact delivery event panicked h rfl
  · rename_i h
    split_ifs
    · exact closeAsked h rfl
    · exact stay (by simp) (by simp) (by simp)
  · rename_i h
    split_ifs
    · exact tick h rfl
    · exact stay (by simp) (by simp) (by simp)
  · rename_i h
    split_ifs
    · exact wake h rfl
    · exact stay (by simp) (by simp) (by simp)
  · rename_i i h
    exact incoming i h rfl
  · exact go rfl
  · rename_i hgo _ hwrite _ _ _ _ _ hin
    exact stay hgo (fun w r => hwrite w r) hin

theorem bookOp?_of_ne_idle {t : Task} {signal : Signal} (hgo : signal ≠ .go)
    (hidle : ∀ i, t.point = .idle → signal ≠ .incoming i) : t.bookOp? signal = none := by
  cases signal with
  | go => exact absurd rfl hgo
  | incoming i => cases hp : t.point <;> simp_all [bookOp?]
  | _ => cases hp : t.point <;> simp [bookOp?, hp]

theorem does_step (view : View) (s : Session) (t : Task) (signal : Signal) :
    Does s (t.bookOp? signal) (t.step view s signal) := by
  have hquiet : ∀ {n : Turn}, signal ≠ .go → (∀ i, signal ≠ .incoming i) → Quiet s n →
      Does s (t.bookOp? signal) n := by
    intro n hgo hin hn
    rw [bookOp?_of_ne_idle hgo fun i _ => hin i]
    exact hn
  apply step_cases view s t signal
  case stage =>
    rintro stage r - rfl
    exact hquiet (by simp) (by simp) (quiet_afterStage s t stage r)
  case write =>
    rintro w r - rfl
    exact hquiet (by simp) (by simp) (quiet_afterWrite view s t w r)
  case close =>
    rintro r - rfl
    exact hquiet (by simp) (by simp) (quiet_afterClose s t r)
  case delivery =>
    rintro event panicked - rfl
    exact hquiet (by simp) (by simp) (quiet_afterDelivery s t event panicked)
  case closeAsked =>
    rintro - rfl
    exact hquiet (by simp) (by simp) ⟨rfl, rfl⟩
  case tick =>
    rintro - rfl
    exact hquiet (by simp) (by simp) (quiet_beat view s t)
  case wake =>
    rintro - rfl
    exact hquiet (by simp) (by simp) ⟨rfl, rfl⟩
  case incoming =>
    rintro i h rfl
    have hi := does_takeIncoming view s t i
    cases i <;> simpa only [bookOp?, h] using hi
  case go =>
    rintro rfl
    exact does_proceed view s t
  case stay =>
    intro hgo _ hin
    rw [bookOp?_of_ne_idle hgo hin]
    exact ⟨rfl, rfl⟩

/-- A step does to the book what `bookOp?` says. -/
theorem step_book (view : View) (s : Session) (t : Task) (signal : Signal) :
    (t.step view s signal).session.book = touched s.book (t.bookOp? signal) :=
  (does_step view s t signal).1

/-- A step requests what it takes out of the book, in one frame. -/
theorem step_requests (view : View) (s : Session) (t : Task) (signal : Signal) :
    requests (t.step view s signal).effects =
      (drawn s.book (t.bookOp? signal)).map Frame.subscribing :=
  (does_step view s t signal).2

end Task

end MarketFeed
