import MarketFeed.Proofs.Session.Step
import MarketFeed.Session.Run

/-!
# A session and what happens to it

A scene is a session with the task that serves it, if one has begun. Three kinds of moves change it,
in any order: a caller asks for something, a task begins, and the task makes a step, whatever it sees
and hears. What a transport or a clock may do is in the choice of the moves, so what holds after all
lists of moves holds of every run. `book_play` says that a run does to the book a list of operations.
-/

namespace MarketFeed

open Trace

/-- Something that happens to a session. -/
inductive Move
  | call (c : Call)
  | begin (endpoint : Endpoint) (subscriptions : List Subscription)
  | step (view : View) (signal : Signal)

/-- A session and the task that serves it. -/
structure Scene where
  session : Session
  task? : Option Task

namespace Scene

/-- A session that no task serves yet. -/
def start (id : Nat) (settings : StreamConfig) : Scene := ⟨.new id settings, none⟩

/-- Begin a task, unless one has begun. -/
def beginTask (sc : Scene) (endpoint : Endpoint) (subscriptions : List Subscription) :
    Scene × List Effect :=
  match sc.task?, sc.session.begin endpoint subscriptions with
  | none, .ok (session, lines, task) => (⟨session, some task⟩, lines.map .log)
  | _, _ => (sc, [])

/-- A step of the task, if there is one. -/
def stepTask (sc : Scene) (view : View) (signal : Signal) : Scene × List Effect :=
  match sc.task? with
  | some task =>
    let turn := task.step view sc.session signal
    (⟨turn.session, some turn.task⟩, turn.effects)
  | none => (sc, [])

/-- A move and what others see of it. -/
def act (sc : Scene) : Move → Scene × List Effect
  | .call c =>
    let (session, lines) := sc.session.obey c
    ({ sc with session }, lines.map .log)
  | .begin endpoint subscriptions => sc.beginTask endpoint subscriptions
  | .step view signal => sc.stepTask view signal

/-- The scene after a move. -/
def move (sc : Scene) (m : Move) : Scene := (sc.act m).1

/-- What others see of a move. -/
def effects (sc : Scene) (m : Move) : List Effect := (sc.act m).2

/-- The scene after some moves. -/
def play (sc : Scene) (moves : List Move) : Scene := moves.foldl move sc

@[simp] theorem play_nil (sc : Scene) : sc.play [] = sc := rfl

@[simp] theorem play_cons (sc : Scene) (m : Move) (ms : List Move) :
    sc.play (m :: ms) = (sc.move m).play ms := rfl

theorem play_append (sc : Scene) (ms ms' : List Move) :
    sc.play (ms ++ ms') = (sc.play ms).play ms' := List.foldl_append

/-! ## What a move does to the book -/

/-- The operations on the book that a move consists of. -/
def ops (sc : Scene) : Move → List Book.Op
  | .call (.subscribe s) => [.stage s]
  | .call .close => []
  | .begin _ subscriptions => if sc.task?.isNone then subscriptions.map .stage else []
  | .step _ signal => (sc.task?.bind (·.bookOp? signal)).toList

theorem book_subscribe (s : Session) (sub : Subscription) :
    (s.subscribe sub).1.book = (s.book.stage sub).1 := by
  unfold Session.subscribe
  rw [Book.stage_eq]
  cases h : s.book.outcome sub <;> simp

theorem book_stageAll (s : Session) (subscriptions : List Subscription) :
    (s.stageAll subscriptions).1.book = (subscriptions.map Book.Op.stage).foldl Book.perform s.book := by
  induction subscriptions generalizing s with
  | nil => rfl
  | cons sub rest ih => exact ih { s with book := (s.book.stage sub).1 }

theorem beginTask_of_isNone {sc : Scene} (h : sc.task? = none) (endpoint : Endpoint)
    {subscriptions : List Subscription} (hs : subscriptions ≠ []) :
    sc.beginTask endpoint subscriptions =
      (⟨(sc.session.stageAll subscriptions).1, some (.new endpoint)⟩,
        (sc.session.stageAll subscriptions).2.map .log) := by
  unfold beginTask Session.begin
  rw [if_neg (by simpa using hs), h]

theorem beginTask_nil (sc : Scene) (endpoint : Endpoint) : sc.beginTask endpoint [] = (sc, []) := by
  unfold beginTask Session.begin
  cases sc.task? <;> rfl

theorem beginTask_of_isSome {sc : Scene} (h : sc.task?.isSome) (endpoint : Endpoint)
    (subscriptions : List Subscription) : sc.beginTask endpoint subscriptions = (sc, []) := by
  obtain ⟨task, ht⟩ := Option.isSome_iff_exists.mp h
  unfold beginTask
  rw [ht]

theorem move_step_of_isNone {sc : Scene} (h : sc.task? = none) (view : View) (signal : Signal) :
    sc.move (.step view signal) = sc := by
  show (sc.stepTask view signal).1 = sc
  rw [stepTask, h]

/-- A move does its operations to the book. -/
theorem book_move (sc : Scene) (m : Move) :
    (sc.move m).session.book = (sc.ops m).foldl Book.perform sc.session.book := by
  cases m with
  | call c =>
    cases c with
    | subscribe s => exact book_subscribe sc.session s
    | close =>
      show (sc.session.close).book = sc.session.book
      unfold Session.close
      split_ifs <;> rfl
  | begin endpoint subscriptions =>
    show (sc.beginTask endpoint subscriptions).1.session.book = _
    cases h : sc.task? with
    | some task =>
      rw [beginTask_of_isSome (by simp [h])]
      simp [ops, h]
    | none =>
      by_cases hs : subscriptions = []
      · subst hs
        rw [beginTask_nil]
        simp [ops]
      · rw [beginTask_of_isNone h endpoint hs, ops, h]
        exact book_stageAll sc.session subscriptions
  | step view signal =>
    show (sc.stepTask view signal).1.session.book = _
    unfold stepTask ops
    cases h : sc.task? with
    | none => rfl
    | some task =>
      dsimp only
      rw [Task.step_book]
      cases hop : task.bookOp? signal <;> simp [hop, Task.touched]

/-- All operations on the book in a run. -/
def opsOf (sc : Scene) (moves : List Move) : List Book.Op := collect move ops sc moves

/-- All that others see of a run. -/
def effectsOf (sc : Scene) (moves : List Move) : List Effect := collect move effects sc moves

theorem effectsOf_append (sc : Scene) (ms ms' : List Move) :
    sc.effectsOf (ms ++ ms') = sc.effectsOf ms ++ (sc.play ms).effectsOf ms' :=
  collect_append _ _ _ _

theorem effectsOf_singleton (sc : Scene) (m : Move) : sc.effectsOf [m] = sc.effects m :=
  List.append_nil _

/-- The subscriptions that are staged in a run, in order. -/
def stagedOf (sc : Scene) (moves : List Move) : List Subscription :=
  sc.session.book.stagedBy (sc.opsOf moves)

theorem book_play (sc : Scene) (moves : List Move) :
    (sc.play moves).session.book = (sc.opsOf moves).foldl Book.perform sc.session.book := by
  induction moves generalizing sc with
  | nil => rfl
  | cons m ms ih => rw [play_cons, ih, book_move, opsOf, opsOf, collect_cons, List.foldl_append]

/-- What is noted at operations on the book, move by move. -/
theorem collect_opsOf {α : Type} (note : Book → Book.Op → List α) (sc : Scene)
    (moves : List Move) :
    collect Book.perform note sc.session.book (sc.opsOf moves) =
      collect move (fun sc m => collect Book.perform note sc.session.book (sc.ops m)) sc moves :=
  collect_bind ops (fun sc => sc.session.book) book_move note sc moves

/-! ## What a move requests -/

theorem batches_stage (b : Book) (subscriptions : List Subscription) :
    b.batches (subscriptions.map .stage) = [] := by
  induction subscriptions generalizing b with
  | nil => rfl
  | cons s rest ih => exact ih _

theorem effects_step {sc : Scene} {task : Task} (ht : sc.task? = some task) (view : View)
    (signal : Signal) :
    sc.effects (.step view signal) = (task.step view sc.session signal).effects := by
  show (sc.stepTask view signal).2 = _
  rw [stepTask, ht]

theorem requests_step {sc : Scene} {task : Task} (ht : sc.task? = some task) (view : View)
    (signal : Signal) :
    requests (sc.effects (.step view signal)) =
      (Task.drawn sc.session.book (task.bookOp? signal)).map Frame.subscribing := by
  rw [effects_step ht, Task.step_requests]

/-- A move requests what it takes out of the book. -/
theorem requests_move (sc : Scene) (m : Move) :
    requests (sc.effects m) = (sc.session.book.batches (sc.ops m)).map Frame.subscribing := by
  cases m with
  | call c => cases c <;> exact requests_logs _
  | begin endpoint subscriptions =>
    show requests (sc.beginTask endpoint subscriptions).2 = _
    cases h : sc.task? with
    | some task =>
      rw [beginTask_of_isSome (by simp [h]), ops, h]
      rfl
    | none =>
      rw [ops, h, Option.isNone_none, if_pos rfl, batches_stage]
      by_cases hs : subscriptions = []
      · rw [hs, beginTask_nil]
        rfl
      · rw [beginTask_of_isNone h endpoint hs]
        exact requests_logs _
  | step view signal =>
    cases h : sc.task? with
    | none =>
      show requests (sc.stepTask view signal).2 = _
      rw [stepTask, ops, h]
      rfl
    | some task =>
      rw [requests_step h, ops, h, Option.bind_some]
      cases task.bookOp? signal with
      | none => rfl
      | some op => simp [Task.drawn, Book.batches]

/-- A run requests what it takes out of the book. -/
theorem requests_effectsOf (sc : Scene) (moves : List Move) :
    requests (sc.effectsOf moves) =
      (sc.session.book.batches (sc.opsOf moves)).map Frame.subscribing := by
  have hmap : requests (sc.effectsOf moves) =
      collect move (fun sc m => requests (sc.effects m)) sc moves := by
    rw [effectsOf]
    induction moves generalizing sc with
    | nil => rfl
    | cons m ms ih => rw [collect_cons, requests_append, ih, collect_cons]
  rw [hmap, Book.batches, collect_opsOf, ← collect_map]
  congr 1
  funext sc m
  exact requests_move sc m

/-! ## A smooth run -/

/-- The task goes on by itself, while the connection stands. -/
def go : Move := .step ⟨0, true⟩ .go

/-- What the task has asked of the transport has been done. -/
def done : Move := .step ⟨0, true⟩ (.outcome (.ok ()))

/-- A frame comes in. -/
def hear (f : Frame) : Move := .step ⟨0, true⟩ (.incoming (.frame f))

/-- What the exchange says when it confirms a subscription. -/
def confirmation (s : Subscription) : Frame :=
  .text (Json.obj [("event", .str "subscribe"), ("arg", s.toJson)]).text

/-- A task connects without a fault, writes its first request, and waits. -/
def opening (subscriptions : List Subscription) : List Move :=
  [.begin ⟨"localhost", 8443, "/ws/v5/public"⟩ subscriptions, go] ++
    (List.replicate 4 [go, go, go, done]).flatten ++ [go, go, done]

end Scene

/-! ## What runs is a list of moves -/

namespace Scene

/-- The scene of a task in its surroundings. -/
def of {σ : Type} (here : Situation) (r : Running σ) : Scene := ⟨here.session, some r.task⟩

/-- Some moves lead from a scene to another one, with these effects. -/
def Leads (sc sc' : Scene) (effects : List Effect) : Prop :=
  ∃ moves, sc.play moves = sc' ∧ sc.effectsOf moves = effects

theorem Leads.refl (sc : Scene) : sc.Leads sc [] := ⟨[], rfl, rfl⟩

theorem Leads.trans {sc sc' sc'' : Scene} {es es' : List Effect} (h : sc.Leads sc' es)
    (h' : sc'.Leads sc'' es') : sc.Leads sc'' (es ++ es') := by
  obtain ⟨moves, rfl, rfl⟩ := h
  obtain ⟨moves', rfl, rfl⟩ := h'
  exact ⟨moves ++ moves', List.foldl_append, collect_append _ _ _ _⟩

theorem leads_obeyAll (sc : Scene) (calls : List Call) :
    sc.Leads { sc with session := (sc.session.obeyAll calls).1 }
      ((sc.session.obeyAll calls).2.map .log) := by
  induction calls generalizing sc with
  | nil => exact .refl sc
  | cons c rest ih =>
    have hc : sc.Leads { sc with session := (sc.session.obey c).1 }
        ((sc.session.obey c).2.map .log) := ⟨[.call c], rfl, List.append_nil _⟩
    have hrest := hc.trans (ih _)
    simpa [Session.obeyAll] using hrest

theorem leads_react {σ : Type} (here : Situation) (r : Running σ) :
    (of here r).Leads (of (Running.react here).1 r) ((Running.react here).2.1.map .log) := by
  unfold Running.react
  split
  · exact .refl _
  · exact .refl _
  · rename_i c _
    exact ⟨[.call c], rfl, List.append_nil _⟩

theorem leads_turn {σ : Type} (tr : Transport σ) (here : Situation) (r : Running σ) (link : σ)
    (signal : Signal) {sc : Scene} {first : List Effect} (h : sc.Leads (of here r) first) :
    sc.Leads (of (r.turn tr here link signal first).1 (r.turn tr here link signal first).2.1)
      (r.turn tr here link signal first).2.2 :=
  h.trans ⟨[.step ⟨here.now, tr.isOpen link⟩ signal], rfl, List.append_nil _⟩

/-- A step of a running task consists of moves. -/
theorem leads_next? {σ : Type} {tr : Transport σ} {here here' : Situation} {r r' : Running σ}
    {effects : List Effect} (h : r.next? tr here = some (here', r', effects)) :
    (of here r).Leads (of here' r') effects := by
  unfold Running.next? at h
  split at h
  · cases h
  · cases h
  · rename_i stage _
    cases h
    exact leads_turn tr _ r _ _ (leads_obeyAll (of here r) (r.callsAt stage))
  · cases h
    exact leads_turn tr here r _ _ (.refl _)
  · cases h
    exact leads_turn tr here r _ _ (.refl _)
  · cases h
    exact leads_turn tr _ r _ _ (leads_react here r)
  · obtain ⟨⟨signal, link⟩, -, heq⟩ := Option.map_eq_some_iff.mp h
    cases heq
    exact leads_turn tr here r _ _ (.refl _)
  · cases h
    exact leads_turn tr here r _ _ (.refl _)

/-- Whatever a transport does, what runs is a list of moves. -/
theorem leads_run {σ : Type} (tr : Transport σ) (fuel : Nat) (here : Situation) (r : Running σ) :
    (of here r).Leads (of (r.run tr fuel here).1 (r.run tr fuel here).2.1)
      (r.run tr fuel here).2.2 := by
  induction fuel generalizing here r with
  | zero => exact .refl _
  | succ fuel ih =>
    rw [Running.run]
    cases h : r.next? tr here with
    | none => exact .refl _
    | some next =>
      obtain ⟨here', r', effects⟩ := next
      exact (leads_next? h).trans (ih here' r')

end Scene

end MarketFeed
