import MarketFeed.Proofs.Feed.Delivery
import MarketFeed.Proofs.Feed.OneSession

/-!
# Runs of a feed

A call of a feed that nothing comes between is what `Feed.subscribe` does, and all else that a feed
does consists of moves of its sessions, which deliver what the feed delivers (`Feed.facade_foldl`).
So whatever is asked of a feed, and over whatever transport, no session but the current one is alive,
and a subscription never fails (`Feed.alive_is_current`).
-/

namespace MarketFeed

theorem modify_append_cons {α : Type} (before rest : List α) (a : α) (g : α → α) :
    (before ++ a :: rest).modify before.length g = before ++ g a :: rest :=
  List.modifyTailIdx_add (List.modifyHead g) 0 before (a :: rest)

namespace Facade

/-! ## A call that nothing comes between -/

/-- So many steps of the call that holds the slot. -/
def steps : Nat → Facade → Facade
  | 0, f => f
  | n + 1, f => steps n f.advance

theorem play_cons (f : Facade) (e : Event) (events : List Event) :
    f.play (e :: events) = (f.next e).play events := rfl

theorem play_replicate (f : Facade) (n : Nat) :
    f.play (List.replicate n .advance) = steps n f := by
  induction n generalizing f with
  | zero => rfl
  | succ n ih => exact ih f.advance

theorem steps_of_rest {f : Facade} (h : f.visit? = none) (n : Nat) : steps n f = f := by
  induction n with
  | zero => rfl
  | succ n ih =>
    have hadvance : f.advance = f := by
      unfold advance
      rw [h]
    rw [steps, hadvance, ih]

theorem advance_goTo (f : Facade) (v : Visit) (stand : Stand) :
    (f.goTo v stand).advance = f.advanceFrom v stand := by
  cases stand <;> rfl

/-- The facade at rest with one more session, that of a call that has returned. -/
def added (f : Facade) (sc : Scene) (r : Receipt) : Facade :=
  { f with
    sessions := f.sessions ++ [sc]
    slot? := some f.sessions.length
    visit? := none
    made := f.made + 1
    dials := f.dials + 1
    receipts := f.receipts ++ [r] }

/-- A call that is to make a session makes it. -/
theorem steps_founding (f : Facade) (v : Visit) (cause : Cause) (n : Nat) {begun : Session}
    {lines : List LogLine} {task : Task}
    (hbegin : (Session.new (f.made + 1) f.settings).begin f.endpoint [v.subscription] =
      .ok (begun, lines, task)) :
    ∃ r : Receipt, r.answer = .ok ⟨f.sessions.length, begun, lines⟩ ∧
      steps (n + 4) (f.goTo v (.founding cause)) = f.added ⟨begun, some task⟩ r := by
  have hstart : ({ f with made := f.made + 1, dials := f.dials + 1 }.start v cause
      (.new (f.made + 1) f.settings)) =
        ({ f with
          made := f.made + 1
          dials := f.dials + 1
          sessions := f.sessions ++ [⟨begun, some task⟩] } : Facade).goTo v
            (.founded cause ⟨f.sessions.length, begun, lines⟩) := by
    have hbegin : (Session.new (f.made + 1) f.settings).begin
        ({ f with made := f.made + 1, dials := f.dials + 1 } : Facade).endpoint [v.subscription] =
          .ok (begun, lines, task) := hbegin
    unfold start
    rw [hbegin]
  refine ⟨⟨v.subscription, v.found?, some f.sessions.length, f.made + 1 - v.made,
    f.dials + 1 - v.dials, some cause, .ok ⟨f.sessions.length, begun, lines⟩⟩, rfl, ?_⟩
  rw [steps, advance_goTo, advanceFrom, steps, advance_goTo, advanceFrom, steps, advance_goTo,
    advanceFrom, hstart, steps, advance_goTo, advanceFrom]
  exact steps_of_rest rfl n

/-- A call that finds a session dead makes another one, whichever part told it. -/
theorem steps_looking_dead {f : Facade} (v : Visit) {place : Nat} {session begun : Session}
    {lines : List LogLine} {task : Task} (hc : f.current? = some (place, session))
    (hdead : session.isAlive = false)
    (hbegin : (Session.new (f.made + 1) f.settings).begin f.endpoint [v.subscription] =
      .ok (begun, lines, task)) :
    ∃ r : Receipt, r.answer = .ok ⟨f.sessions.length, begun, lines⟩ ∧
      steps 8 (f.goTo v (.looking .flag)) = f.added ⟨begun, some task⟩ r := by
  have hlook : ∀ l, (f.goTo v (.looking l)).advance =
      if l.passes session then f.goTo v l.next else f.goTo v (.founding (.dead place session)) := by
    intro l
    rw [advance_goTo, advanceFrom, look, hc]
  rw [Look.isAlive_eq] at hdead
  rw [steps, hlook]
  cases hflag : Look.flag.passes session with
  | false => exact steps_founding f v _ 3 hbegin
  | true =>
    rw [if_pos rfl, Look.next, steps, hlook]
    cases hphase : Look.phase.passes session with
    | false => exact steps_founding f v _ 2 hbegin
    | true =>
      have hbook : Look.book.passes session = false := by simpa [hflag, hphase] using hdead
      rw [if_pos rfl, Look.next, steps, hlook, hbook]
      exact steps_founding f v _ 1 hbegin

/-- A call that finds a session alive comes to stage its subscription. -/
theorem steps_looking_alive {f : Facade} (v : Visit) {place : Nat} {session : Session}
    (hc : f.current? = some (place, session)) (halive : session.isAlive = true) (n : Nat) :
    steps (n + 4) (f.goTo v (.looking .flag)) = steps n (f.stage v) := by
  have hlook : ∀ l, l.passes session = true →
      (f.goTo v (.looking l)).advance = f.goTo v l.next := by
    intro l hl
    rw [advance_goTo, advanceFrom, look, hc]
    exact if_pos hl
  rw [Look.isAlive_eq, Bool.and_eq_true, Bool.and_eq_true] at halive
  obtain ⟨⟨hflag, hphase⟩, hbook⟩ := halive
  rw [steps, hlook _ hflag, Look.next, steps, hlook _ hphase, Look.next, steps, hlook _ hbook,
    Look.next, steps, advance_goTo, advanceFrom]

/-- A call that has staged its subscription returns. -/
theorem steps_kept (f : Facade) (v : Visit) (st : Staging) (n : Nat) :
    ∃ r : Receipt, r.answer = .ok st ∧ steps (n + 1) (f.goTo v (.kept st)) =
      { f with visit? := none, receipts := f.receipts ++ [r] } := by
  refine ⟨⟨v.subscription, v.found?, f.slot?, f.made - v.made, f.dials - v.dials, none, .ok st⟩,
    rfl, ?_⟩
  rw [steps, advance_goTo, advanceFrom]
  exact steps_of_rest rfl n

/-! ## Moves of one session -/

/-- A facade with other sessions. -/
def withSessions (f : Facade) (sessions : List Scene) : Facade := { f with sessions }

theorem withSessions_self {f : Facade} {sessions : List Scene} (h : f.sessions = sessions) :
    f.withSessions sessions = f := by
  rw [← h]
  rfl

theorem play_moves {f : Facade} {before after : List Scene} {sc : Scene}
    (h : f.sessions = before ++ sc :: after) (moves : List Move) :
    f.play (moves.map (.move before.length)) =
      f.withSessions (before ++ sc.play moves :: after) := by
  induction moves generalizing f sc with
  | nil =>
    rw [Scene.play_nil, withSessions_self h]
    rfl
  | cons m moves ih =>
    have hmove : (f.moveAt before.length m).sessions = before ++ sc.move m :: after := by
      show f.sessions.modify before.length (·.move m) = _
      rw [h, modify_append_cons]
    exact ih hmove

theorem deliveredOf_moves {f : Facade} {before after : List Scene} {sc : Scene}
    (h : f.sessions = before ++ sc :: after) (moves : List Move) :
    f.deliveredOf (moves.map (.move before.length)) = deliveries (sc.effectsOf moves) := by
  induction moves generalizing f sc with
  | nil => rfl
  | cons m moves ih =>
    have hmove : (f.moveAt before.length m).sessions = before ++ sc.move m :: after := by
      show f.sessions.modify before.length (·.move m) = _
      rw [h, modify_append_cons]
    have hfirst : f.delivered (.move before.length m) = deliveries (sc.effects m) := by
      rw [delivered, h, List.getElem?_append_right (Nat.le_refl _), Nat.sub_self]
      rfl
    rw [List.map_cons, deliveredOf, Trace.collect_cons, hfirst, Scene.effectsOf,
      Trace.collect_cons, deliveries_append]
    exact congrArg _ (ih hmove)

end Facade

/-! ## A feed as a facade -/

/-- A session and its latest task. -/
def LiveSession.scene {σ : Type} (l : LiveSession σ) : Scene :=
  ⟨l.session, l.runs.getLast?.map Running.task⟩

namespace Feed

variable {σ : Type}

/-- The place of the last of so many sessions. -/
def lastPlace? : Nat → Option Nat
  | 0 => none
  | n + 1 => some n

/-- A feed between two calls. -/
def facade (f : Feed σ) (receipts : List Receipt) : Facade where
  settings := f.settings
  sessions := f.sessions.map LiveSession.scene
  slot? := lastPlace? f.sessions.length
  visit? := none
  made := f.sessions.length
  dials := f.sessions.length
  receipts := receipts

theorem current_facade (f : Feed σ) (receipts : List Receipt) :
    (f.facade receipts).current? =
      f.current?.map fun session => (f.sessions.length - 1, session) := by
  unfold Facade.current? current? facade
  rcases List.eq_nil_or_concat f.sessions with h | ⟨before, l, h⟩
  · rw [h]
    rfl
  · rw [h]
    simp [lastPlace?, LiveSession.scene]

/-- A call on the current session is a move of it. -/
theorem facade_call {f : Feed σ} {session : Session} (hc : f.current? = some session) (c : Call)
    (receipts : List Receipt) :
    (f.withCurrent (session.obey c).1).facade receipts =
      (f.facade receipts).moveAt (f.sessions.length - 1) (.call c) := by
  obtain ⟨l, hl, rfl⟩ := Option.map_eq_some_iff.mp hc
  obtain ⟨before, hbefore⟩ := List.getLast?_eq_some_iff.mp hl
  unfold withCurrent
  rw [hl]
  have hmodify := modify_append_cons (before.map LiveSession.scene) [] l.scene
    (·.move (.call c))
  rw [List.length_map] at hmodify
  simp only [facade, Facade.moveAt, hbefore, List.dropLast_concat, List.map_append, List.map_cons,
    List.map_nil, List.length_append, List.length_singleton, Nat.add_sub_cancel, hmodify]
  rfl

/-- A call that takes the slot of a feed. -/
def visitor (f : Feed σ) (s : Subscription) : Visit :=
  ⟨s, lastPlace? f.sessions.length, f.sessions.length, f.sessions.length, .looking .flag⟩

/-- What a subscription has come to is what a call comes to that nothing comes between. -/
def Answers (f : Feed σ) (s : Subscription) (receipts : List Receipt)
    (result : Except FeedError (Feed σ × List LogLine)) : Prop :=
  ∃ f' lines r place session, result = .ok (f', lines) ∧ r.answer = .ok ⟨place, session, lines⟩ ∧
    (f.facade receipts).play (.enter s :: List.replicate 8 .advance) = f'.facade (receipts ++ [r])

theorem play_visitor (f : Feed σ) (s : Subscription) (receipts : List Receipt) :
    (f.facade receipts).play (.enter s :: List.replicate 8 .advance) =
      Facade.steps 8 ((f.facade receipts).goTo (f.visitor s) (.looking .flag)) := by
  have henter : (f.facade receipts).enter s =
      (f.facade receipts).goTo (f.visitor s) (.looking .flag) := rfl
  rw [Facade.play_cons, Facade.next, Facade.play_replicate, henter]

/-- A call that has made a session answers what `Feed.start` does. -/
theorem answers_start (f : Feed σ) (dial : Nat → Dial σ) (s : Subscription)
    {receipts : List Receipt} {begun : Session} {lines : List LogLine} {task : Task}
    (hbegin : (Session.new (f.sessions.length + 1) f.settings).begin f.endpoint [s] =
      .ok (begun, lines, task))
    (hsteps : ∃ r : Receipt, r.answer = .ok ⟨(f.facade receipts).sessions.length, begun, lines⟩ ∧
      Facade.steps 8 ((f.facade receipts).goTo (f.visitor s) (.looking .flag)) =
        (f.facade receipts).added ⟨begun, some task⟩ r) :
    f.Answers s receipts (f.start dial s) := by
  obtain ⟨r, hr, hsteps⟩ := hsteps
  let line := dial (f.sessions.length + 1)
  let live : LiveSession σ := ⟨⟨0, begun, none⟩, [⟨task, line.link, line.calls⟩]⟩
  refine ⟨{ f with sessions := f.sessions ++ [live] }, lines, r, _, begun, ?_, hr, ?_⟩
  · have hfresh : (LiveSession.new (f.sessions.length + 1) f.settings : LiveSession σ).session =
        .new (f.sessions.length + 1) f.settings := rfl
    unfold start
    simp only [hfresh, hbegin]
    rfl
  · rw [play_visitor, hsteps]
    simp [facade, Facade.added, lastPlace?, live, LiveSession.scene, LiveSession.session]

/-- A call that has staged with the current session answers with that session. -/
theorem answers_kept {f : Feed σ} {s : Subscription} {receipts : List Receipt}
    {session staged : Session} {lines : List LogLine} (hc : f.current? = some session)
    (hsub : session.subscribe s = (staged, lines, true))
    (hsteps : Facade.steps 8 ((f.facade receipts).goTo (f.visitor s) (.looking .flag)) =
      Facade.steps 4 (((f.facade receipts).moveAt (f.sessions.length - 1)
        (.call (.subscribe s))).goTo (f.visitor s)
          (.kept ⟨f.sessions.length - 1, staged, lines⟩))) :
    f.Answers s receipts (.ok (f.withCurrent staged, lines)) := by
  obtain ⟨r, hr, hkept⟩ := Facade.steps_kept ((f.facade receipts).moveAt
    (f.sessions.length - 1) (.call (.subscribe s))) (f.visitor s)
      ⟨f.sessions.length - 1, staged, lines⟩ 3
  have hobey : (session.obey (.subscribe s)).1 = staged := congrArg Prod.fst hsub
  refine ⟨f.withCurrent staged, lines, r, _, staged, rfl, hr, ?_⟩
  rw [play_visitor, hsteps, hkept, ← hobey, facade_call hc]
  rfl

/-- **A call that nothing comes between is `Feed.subscribe`.** It never fails. -/
theorem answers_subscribe (f : Feed σ) (dial : Nat → Dial σ) (s : Subscription)
    (receipts : List Receipt) : f.Answers s receipts (f.subscribe dial s) := by
  obtain ⟨begun, started, hbegin, -⟩ :=
    Session.begin_new (f.sessions.length + 1) f.settings f.endpoint s
  have hfounding := fun cause n =>
    Facade.steps_founding (f.facade receipts) (f.visitor s) cause n hbegin
  have hcurrent := current_facade f receipts
  unfold subscribe
  cases hc : f.current? with
  | none =>
    rw [hc] at hcurrent
    have hlook : ((f.facade receipts).goTo (f.visitor s) (.looking .flag)).advance =
        (f.facade receipts).goTo (f.visitor s) (.founding .noSession) := by
      rw [Facade.advance_goTo, Facade.advanceFrom, Facade.look, hcurrent]
      rfl
    refine answers_start f dial s hbegin ?_
    rw [Facade.steps, hlook]
    exact hfounding .noSession 3
  | some session =>
    rw [hc] at hcurrent
    dsimp only
    cases halive : session.isAlive with
    | false =>
      exact answers_start f dial s hbegin
        (Facade.steps_looking_dead (f.visitor s) hcurrent halive hbegin)
    | true =>
      have hstage := Facade.steps_looking_alive (f.visitor s) hcurrent halive 4
      unfold Facade.stage at hstage
      rw [if_pos rfl]
      rcases hsub : session.subscribe s with ⟨staged, lines, answer⟩
      have hvisitor : session.subscribe (f.visitor s).subscription = (staged, lines, answer) := hsub
      simp only [hcurrent, Option.map_some, hvisitor] at hstage
      cases answer with
      | true => exact answers_kept hc hsub hstage
      | false =>
        refine answers_start f dial s hbegin ?_
        rw [hstage]
        exact hfounding (.refused (f.sessions.length - 1) session) 0

/-! ## What runs between calls -/

/-- One task serves each session. -/
def Single (f : Feed σ) : Prop := ∀ l ∈ f.sessions, ∃ r, l.runs = [r]

theorem scene_settle (tr : Transport σ) {l : LiveSession σ} (h : ∃ r, l.runs = [r]) :
    (∃ moves, l.scene.play moves = (l.settle tr).1.scene ∧
      l.scene.effectsOf moves = (l.settle tr).2.map Prod.snd) ∧
    ∃ r, (l.settle tr).1.runs = [r] := by
  obtain ⟨r, hr⟩ := h
  obtain ⟨moves, hplay, heffects⟩ := Scene.leads_run tr (r.enough tr) l.here r
  have hscene : l.scene = Scene.of l.here r := by
    unfold LiveSession.scene
    rw [hr]
    rfl
  have hsettle : (l.settle tr).1 =
      ⟨(r.run tr (r.enough tr) l.here).1, [(r.run tr (r.enough tr) l.here).2.1]⟩ := by
    unfold LiveSession.settle
    rw [hr]
    rfl
  have htold : (l.settle tr).2.map Prod.snd = (r.run tr (r.enough tr) l.here).2.2 := by
    unfold LiveSession.settle
    rw [hr]
    simp [LiveSession.settleFrom, Function.comp_def]
  rw [hsettle, hscene, htold]
  exact ⟨⟨moves, hplay, heffects⟩, _, rfl⟩

theorem play_settleAll (tr : Transport σ) (number : Nat) {sessions : List (LiveSession σ)}
    (hs : ∀ l ∈ sessions, ∃ r, l.runs = [r]) {f : Facade} {before : List Scene}
    (h : f.sessions = before ++ sessions.map LiveSession.scene) :
    (∃ events, f.play events =
        f.withSessions (before ++ (settleAll tr number sessions).1.map LiveSession.scene) ∧
      f.deliveredOf events = deliveries ((settleAll tr number sessions).2.map Prod.snd)) ∧
    ∀ l ∈ (settleAll tr number sessions).1, ∃ r, l.runs = [r] := by
  induction sessions generalizing number f before with
  | nil =>
    exact ⟨⟨[], (Facade.withSessions_self h).symm, rfl⟩, fun l hl => absurd hl List.not_mem_nil⟩
  | cons l rest ih =>
    obtain ⟨⟨moves, hmoves, heffects⟩, hl⟩ := scene_settle tr (hs l List.mem_cons_self)
    have htold := Facade.deliveredOf_moves h moves
    rw [heffects] at htold
    have hplay := Facade.play_moves h moves
    rw [hmoves] at hplay
    have hsessions : (f.play (moves.map (.move before.length))).sessions =
        (before ++ [(l.settle tr).1.scene]) ++ rest.map LiveSession.scene := by
      rw [hplay, List.append_assoc]
      rfl
    obtain ⟨⟨events, hevents, hmore⟩, hrest⟩ := ih (number + 1)
      (fun l' hl' => hs l' (List.mem_cons_of_mem l hl')) hsessions
    refine ⟨⟨moves.map (.move before.length) ++ events, ?_, ?_⟩, fun l' hl' => ?_⟩
    · rw [Facade.play, List.foldl_append]
      refine hevents.trans ?_
      rw [hplay, List.append_assoc]
      rfl
    · rw [Facade.deliveredOf_append, htold, hmore, ← deliveries_append]
      simp [settleAll, Function.comp_def]
    · rcases List.mem_cons.mp hl' with rfl | hl'
      · exact hl
      · exact hrest l' hl'

/-! ## Everything that is asked of a feed -/

/-- What may be asked of a feed. -/
inductive Action (σ : Type)
  | run
  | subscribe (dial : Nat → Dial σ) (s : Subscription)
  | close
  | settle (tr : Transport σ)
  | changeLink (number : Nat) (change : σ → σ)

/-- The feed after an action. -/
def act (f : Feed σ) : Action σ → Feed σ
  | .run => f.run
  | .subscribe dial s =>
    match f.subscribe dial s with
    | .ok (f, _) => f
    | .error _ => f
  | .close => f.close
  | .settle tr => (f.settle tr).1
  | .changeLink number change => f.changeLink number change

/-- The data that a feed delivers in an action. -/
def told (f : Feed σ) : Action σ → List DataEvent
  | .settle tr => deliveries ((f.settle tr).2.map Prod.snd)
  | _ => []

/-- Events of the facade lead from one feed to another, with these data delivered. -/
def Leads (f f' : Feed σ) (data : List DataEvent) : Prop :=
  ∀ receipts, ∃ events receipts', (f.facade receipts).play events = f'.facade receipts' ∧
    (f.facade receipts).deliveredOf events = data

theorem Leads.refl (f : Feed σ) : f.Leads f [] := fun receipts => ⟨[], receipts, rfl, rfl⟩

theorem Leads.trans {f f' f'' : Feed σ} {data data' : List DataEvent} (h : f.Leads f' data)
    (h' : f'.Leads f'' data') : f.Leads f'' (data ++ data') := by
  intro receipts
  obtain ⟨events, receipts', hplay, hdata⟩ := h receipts
  obtain ⟨events', receipts'', hplay', hdata'⟩ := h' receipts'
  refine ⟨events ++ events', receipts'', ?_, ?_⟩
  · rw [Facade.play, List.foldl_append]
    exact (congrArg (·.play events') hplay).trans hplay'
  · rw [Facade.deliveredOf_append, hplay, hdata, hdata']

theorem facade_of_length (f f' : Feed σ) (hsettings : f'.settings = f.settings)
    (hlength : f'.sessions.length = f.sessions.length) (receipts : List Receipt) :
    f'.facade receipts =
      (f.facade receipts).withSessions (f'.sessions.map LiveSession.scene) := by
  unfold facade Facade.withSessions
  rw [hsettings, hlength]

theorem length_settleAll (tr : Transport σ) (number : Nat) (sessions : List (LiveSession σ)) :
    (settleAll tr number sessions).1.length = sessions.length := by
  induction sessions generalizing number with
  | nil => rfl
  | cons l rest ih => exact congrArg (· + 1) (ih (number + 1))

theorem single_withCurrent {f : Feed σ} (h : f.Single) (session : Session) :
    (f.withCurrent session).Single := by
  unfold withCurrent
  cases hl : f.sessions.getLast? with
  | none => exact h
  | some last =>
    intro l hmem
    rcases List.mem_append.mp hmem with hmem | hmem
    · exact h l (List.dropLast_subset _ hmem)
    · rw [List.mem_singleton.mp hmem]
      exact h last (List.mem_of_getLast? hl)

theorem single_start {f f' : Feed σ} (h : f.Single) {dial : Nat → Dial σ} {s : Subscription}
    {lines : List LogLine} (hstart : f.start dial s = .ok (f', lines)) : f'.Single := by
  unfold start at hstart
  simp only [bind, Except.bind] at hstart
  split at hstart
  · cases hstart
  · cases hstart
    intro l hmem
    rcases List.mem_append.mp hmem with hmem | hmem
    · exact h l hmem
    · rw [List.mem_singleton.mp hmem]
      exact ⟨_, rfl⟩

theorem single_subscribe {f f' : Feed σ} (h : f.Single) {dial : Nat → Dial σ} {s : Subscription}
    {lines : List LogLine} (hsub : f.subscribe dial s = .ok (f', lines)) : f'.Single := by
  unfold subscribe at hsub
  split at hsub
  · exact single_start h hsub
  · split_ifs at hsub
    · split at hsub
      · cases hsub
        exact single_withCurrent h _
      · exact single_start h hsub
    · exact single_start h hsub

theorem leads_close (f : Feed σ) : f.Leads f.close [] := by
  unfold close
  cases hc : f.current? with
  | none => exact .refl f
  | some session =>
    intro receipts
    refine ⟨[.move (f.sessions.length - 1) (.call .close)], receipts,
      (facade_call hc .close receipts).symm, ?_⟩
    rw [Facade.deliveredOf, Trace.collect_cons, Facade.delivered_call]
    rfl

theorem leads_settle (tr : Transport σ) {f : Feed σ} (h : f.Single) :
    f.Leads (f.settle tr).1 (deliveries ((f.settle tr).2.map Prod.snd)) ∧
      (f.settle tr).1.Single := by
  unfold settle
  split_ifs
  · have hsessions : ∀ receipts, (f.facade receipts).sessions =
        [] ++ f.sessions.map LiveSession.scene := fun _ => rfl
    refine ⟨fun receipts => ?_, (play_settleAll tr 1 h (hsessions [])).2⟩
    obtain ⟨events, hevents, hdata⟩ := (play_settleAll tr 1 h (hsessions receipts)).1
    refine ⟨events, receipts, hevents.trans (Eq.symm ?_), hdata⟩
    exact facade_of_length f { f with sessions := (settleAll tr 1 f.sessions).1 } rfl
      (length_settleAll tr 1 f.sessions) receipts
  · exact ⟨.refl f, h⟩

/-- A change of a link leaves the scene as it is. -/
theorem leads_changeLink {f : Feed σ} (h : f.Single) (number : Nat) (change : σ → σ) :
    f.Leads (f.changeLink number change) [] ∧ (f.changeLink number change).Single := by
  let changed (l : LiveSession σ) : LiveSession σ :=
    { l with runs := l.runs.map fun r => { r with link := change r.link } }
  have hscene : ∀ l, (changed l).scene = l.scene := by
    intro l
    show Scene.mk l.session ((l.runs.map _).getLast?.map Running.task) = l.scene
    rw [List.getLast?_map, Option.map_map]
    rfl
  have hmap : (f.sessions.modify (number - 1) changed).map LiveSession.scene =
      f.sessions.map LiveSession.scene := by
    refine List.ext_getElem? fun i => ?_
    simp only [List.getElem?_map, List.getElem?_modify]
    cases f.sessions[i]? with
    | none => rfl
    | some l =>
      simp only [Option.map_eq_map, Option.map_some]
      split_ifs
      · rw [hscene]
      · rfl
  refine ⟨fun receipts => ⟨[], receipts, ?_, rfl⟩, fun l hl => ?_⟩
  · rw [facade_of_length f (f.changeLink number change) rfl (List.length_modify _ _ _) receipts]
    exact (Facade.withSessions_self hmap.symm).symm
  · obtain ⟨i, hi⟩ := List.mem_iff_getElem?.mp hl
    have hi : (f.sessions.modify (number - 1) changed)[i]? = some l := hi
    rw [List.getElem?_modify] at hi
    obtain ⟨before, hbefore, rfl⟩ := Option.map_eq_some_iff.mp hi
    obtain ⟨r, hr⟩ := h before (List.mem_of_getElem? hbefore)
    split_ifs
    · refine ⟨{ r with link := change r.link }, ?_⟩
      show before.runs.map _ = _
      rw [hr]
      rfl
    · exact ⟨r, hr⟩

theorem leads_run (f : Feed σ) : f.Leads f.run [] := fun receipts => ⟨[], receipts, rfl, rfl⟩

theorem leads_act {f : Feed σ} (h : f.Single) (a : Action σ) :
    f.Leads (f.act a) (f.told a) ∧ (f.act a).Single := by
  cases a with
  | run => exact ⟨leads_run f, h⟩
  | subscribe dial s =>
    have hplay := answers_subscribe f dial s
    obtain ⟨f', lines, -, -, -, hsub, -, -⟩ := hplay []
    have hact : f.act (.subscribe dial s) = f' := by
      rw [act, hsub]
    rw [hact]
    refine ⟨fun receipts => ?_, single_subscribe h hsub⟩
    obtain ⟨f'', lines', r, -, -, hsub', -, hfacade⟩ := hplay receipts
    rw [hsub] at hsub'
    cases hsub'
    exact ⟨_, _, hfacade, Facade.deliveredOf_visit _ s 8⟩
  | close =>
    refine ⟨leads_close f, ?_⟩
    show f.close.Single
    unfold close
    split
    · exact single_withCurrent h _
    · exact h
  | settle tr => exact leads_settle tr h
  | changeLink number change => exact leads_changeLink h number change

/-- Every feed that comes about is a facade between two calls, which has delivered the same data. -/
theorem facade_foldl (settings : StreamConfig) (actions : List (Action σ)) :
    (new settings : Feed σ).Leads (actions.foldl act (new settings))
      (Trace.collect act told (new settings) actions) := by
  have hkept : ∀ f : Feed σ, f.Single → ∀ actions : List (Action σ),
      f.Leads (actions.foldl act f) (Trace.collect act told f actions) := by
    intro f hsingle actions
    induction actions generalizing f with
    | nil => exact .refl f
    | cons a rest ih =>
      obtain ⟨hleads, hsingle'⟩ := leads_act hsingle a
      exact hleads.trans (ih (f.act a) hsingle')
  exact hkept (new settings) (fun l hl => absurd hl List.not_mem_nil) actions

/-- **No session of a feed is alive but the current one**, whatever has been asked of the feed and
over whatever transports. -/
theorem alive_is_current (settings : StreamConfig) (actions : List (Action σ)) (i : Nat)
    (l : LiveSession σ) (hl : (actions.foldl act (new settings)).sessions[i]? = some l)
    (halive : l.session.isAlive = true) :
    (actions.foldl act (new settings)).sessions.length = i + 1 := by
  obtain ⟨events, receipts, hplay, -⟩ := facade_foldl settings actions []
  have hsound := (Facade.sound_new settings).play events
  have hplay : (Facade.new settings).play events =
      (actions.foldl act (new settings)).facade receipts := hplay
  rw [hplay] at hsound
  have hdead := (hsound.rest rfl).dead i l.scene (by rw [facade, List.getElem?_map, hl]; rfl)
  have hslot : lastPlace? (actions.foldl act (new settings)).sessions.length = some i := by
    by_contra hother
    have hfalse : l.session.isAlive = false := hdead hother
    rw [halive] at hfalse
    cases hfalse
  revert hslot
  cases (actions.foldl act (new settings)).sessions.length with
  | zero => exact nofun
  | succ n => exact fun hslot => congrArg (· + 1) (Option.some.inj hslot)

end Feed

end MarketFeed
