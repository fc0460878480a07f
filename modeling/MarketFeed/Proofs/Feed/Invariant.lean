import MarketFeed.Proofs.Feed.Visit

/-!
# What holds of a feed at all times

The invariant of a facade (`Facade.Sound`) counts what the call under way has made so far, and says
where a session may be alive (`Stand.living?`): as long as the call has not seen that the session in
the slot is dead, that is the slot; from then on it is nowhere, until the call has begun a session of
its own. Main fact: every event keeps it (`Facade.Sound.next`).
-/

namespace MarketFeed

/-! ## What a call has to show -/

/-- The subscription is confirmed, or it waits, or there was no room and that was logged. -/
def Staging.Holds (st : Staging) (s : Subscription) : Prop :=
  st.session.book.isConfirmed s = true ∨ s ∈ st.session.book.pending ∨
    st.session.book.capacity ≤ st.session.book.pending.length ∧ Session.fullLine s ∈ st.lines

/-- The slot was empty, or its session was not alive, or it refused the subscription. -/
def Cause.Valid (found? : Option Nat) (s : Subscription) : Cause → Prop
  | .noSession => found? = none
  | .dead place session =>
    found? = some place ∧ session.id = place + 1 ∧ session.isAlive = false
  | .refused place session =>
    found? = some place ∧ session.id = place + 1 ∧ (session.subscribe s).2.2 = false

/-- What holds of every call that has returned. -/
structure Receipt.Good (r : Receipt) : Prop where
  answer : ∃ st, r.answer = .ok st ∧ r.left? = some st.place ∧ st.session.id = st.place + 1 ∧
    st.Holds r.subscription
  made : r.made = if r.cause?.isSome then 1 else 0
  dials : r.dials = r.made
  kept : r.cause? = none → r.left? = r.found?
  cause : ∀ c, r.cause? = some c → c.Valid r.found? r.subscription

/-! ## Staging -/

theorem Session.subscribe_holds {s : Session} {sub : Subscription}
    (h : (s.subscribe sub).2.2 = true) (place : Nat) :
    Staging.Holds ⟨place, (s.subscribe sub).1, (s.subscribe sub).2.1⟩ sub := by
  have ha : s.book.accepting = true := by
    rw [← Bool.not_eq_false, ← s.subscribe_refuses_iff sub, h]
    decide
  have hstage := Book.stage_cases ha sub
  rw [← Scene.book_subscribe] at hstage
  rcases hstage with hc | hp | ⟨ho, hf⟩
  · exact Or.inl hc
  · exact Or.inr (Or.inl hp)
  · refine Or.inr (Or.inr ⟨hf, ?_⟩)
    have ho : s.book.outcome sub = .queueFull := by rw [Book.stage_eq] at ho; exact ho
    simp [subscribe, Book.stage_eq, ho]

/-- A new session has room for its first subscription. -/
theorem Session.begin_new (id : Nat) (settings : StreamConfig) (endpoint : Endpoint)
    (sub : Subscription) : ∃ session lines,
    (Session.new id settings).begin endpoint [sub] = .ok (session, lines, .new endpoint) ∧
      session.id = id ∧ session.phase = .created ∧ sub ∈ session.book.pending := by
  have hbegun := Scene.book_stageAll (new id settings) [sub]
  have hroom : (Book.new settings.capacity).outcome sub = .staged := by
    rw [Book.outcome_eq_staged_iff]
    exact ⟨rfl, rfl, List.not_mem_nil, Nat.lt_of_lt_of_le Nat.zero_lt_one (Nat.le_max_left _ _)⟩
  refine ⟨((new id settings).stageAll [sub]).1, _, rfl, rfl, rfl, ?_⟩
  rw [hbegun]
  simp [Book.perform, Book.stage_eq, new, hroom]

/-! ## The invariant -/

namespace Stand

/-- How many sessions a call that stands here has made. -/
def made : Stand → Nat
  | .dialling .. | .starting .. | .founded .. => 1
  | _ => 0

/-- How often it has asked for a transport. -/
def dials : Stand → Nat
  | .starting .. | .founded .. => 1
  | _ => 0

/-- How many tasks it has begun. -/
def begun : Stand → Nat
  | .founded .. => 1
  | _ => 0

/-- Where a session may be alive. -/
def living? (slot? : Option Nat) : Stand → Option Nat
  | .looking _ | .staging | .kept _ => slot?
  | .founding _ | .dialling .. | .starting .. => none
  | .founded _ st => some st.place

/-- Why the call makes a session, if it does. -/
def cause? : Stand → Option Cause
  | .founding cause | .dialling cause _ | .starting cause _ | .founded cause _ => some cause
  | _ => none

/-- The session that is made, before its task begins. -/
def fresh? : Stand → Option Session
  | .dialling _ session | .starting _ session => some session
  | _ => none

/-- What the staging has left, once it has happened. -/
def staging? : Stand → Option Staging
  | .founded _ st | .kept st => some st
  | _ => none

end Stand

theorem forall_of_none {α : Type} {o : Option α} {P : α → Prop} (h : o = none) :
    ∀ a, o = some a → P a := by
  intro a ha
  rw [h] at ha
  cases ha

namespace Facade

/-- No session is alive, but for that in a place, if one is given. -/
def DeadBut (f : Facade) (place? : Option Nat) : Prop :=
  ∀ i sc, f.sessions[i]? = some sc → place? ≠ some i → sc.session.isAlive = false

/-- What holds when no call holds the slot. -/
structure AtRest (f : Facade) : Prop where
  sessions : f.sessions.length = f.made
  dials : f.dials = f.made
  dead : f.DeadBut f.slot?

/-- What holds while a call holds the slot. -/
structure Under (f : Facade) (v : Visit) : Prop where
  found : v.found? = f.slot?
  before : v.dials = v.made
  sessions : f.sessions.length = v.made + v.stand.begun
  made : f.made = v.made + v.stand.made
  dials : f.dials = v.dials + v.stand.dials
  dead : f.DeadBut (v.stand.living? f.slot?)
  cause : ∀ c, v.stand.cause? = some c → c.Valid v.found? v.subscription
  fresh : ∀ s, v.stand.fresh? = some s → s = .new (v.made + 1) f.settings
  staging : ∀ st, v.stand.staging? = some st → v.stand.living? f.slot? = some st.place ∧
    st.place < f.sessions.length ∧ st.session.id = st.place + 1 ∧ st.Holds v.subscription

/-- What holds of a facade after all events. -/
structure Sound (f : Facade) : Prop where
  tidy : ∀ i sc, f.sessions[i]? = some sc → sc.session.id = i + 1 ∧ sc.Tidy
  slot : ∀ i, f.slot? = some i → i < f.sessions.length
  receipts : ∀ r ∈ f.receipts, r.Good
  rest : f.visit? = none → f.AtRest
  visit : ∀ v, f.visit? = some v → f.Under v

theorem sound_new (settings : StreamConfig) : (new settings).Sound where
  tidy := fun _ _ h => by simp [new] at h
  slot := fun _ h => by cases h
  receipts := fun _ h => absurd h List.not_mem_nil
  rest := fun _ => ⟨rfl, rfl, fun _ _ h => by simp [new] at h⟩
  visit := fun _ h => by cases h

/-! ## What moves of sessions keep -/

variable {f : Facade}

theorem getElem?_moveAt {place i : Nat} {m : Move} {sc' : Scene}
    (h : (f.moveAt place m).sessions[i]? = some sc') :
    ∃ sc, f.sessions[i]? = some sc ∧ (sc' = sc ∨ sc' = sc.move m) := by
  simp only [moveAt, List.getElem?_modify, Option.map_eq_map, Option.map_eq_some_iff] at h
  obtain ⟨sc, hsc, rfl⟩ := h
  refine ⟨sc, hsc, ?_⟩
  split_ifs
  · exact Or.inr rfl
  · exact Or.inl rfl

theorem Sound.tidy_moveAt (h : f.Sound) (place : Nat) (m : Move) (i : Nat) (sc : Scene)
    (hsc : (f.moveAt place m).sessions[i]? = some sc) : sc.session.id = i + 1 ∧ sc.Tidy := by
  obtain ⟨before, hbefore, rfl | rfl⟩ := getElem?_moveAt hsc
  · exact h.tidy i sc hbefore
  · obtain ⟨hid, htidy⟩ := h.tidy i before hbefore
    exact ⟨(htidy.id_move m).trans hid, htidy.move m⟩

theorem Sound.deadBut_moveAt (h : f.Sound) {place? : Option Nat} (hd : f.DeadBut place?)
    (place : Nat) (m : Move) : (f.moveAt place m).DeadBut place? := by
  intro i sc hsc hi
  obtain ⟨before, hbefore, rfl | rfl⟩ := getElem?_moveAt hsc
  · exact hd i sc hbefore hi
  · exact (h.tidy i before hbefore).2.isAlive_move_of_dead (hd i before hbefore hi) m

@[simp] theorem length_sessions_moveAt (f : Facade) (place : Nat) (m : Move) :
    (f.moveAt place m).sessions.length = f.sessions.length := List.length_modify _ _ _

theorem Sound.under_moveAt (h : f.Sound) {v : Visit} (hv : f.Under v) (place : Nat) (m : Move) :
    (f.moveAt place m).Under v where
  found := hv.found
  before := hv.before
  sessions := (length_sessions_moveAt f place m).trans hv.sessions
  made := hv.made
  dials := hv.dials
  dead := h.deadBut_moveAt hv.dead place m
  cause := hv.cause
  fresh := hv.fresh
  staging := fun st hst => by
    rw [length_sessions_moveAt]
    exact hv.staging st hst

theorem Sound.moveAt (h : f.Sound) (place : Nat) (m : Move) : (f.moveAt place m).Sound where
  tidy := h.tidy_moveAt place m
  slot := fun i hi => by
    rw [length_sessions_moveAt]
    exact h.slot i hi
  receipts := h.receipts
  rest := fun hv => by
    have hrest := h.rest hv
    exact ⟨(length_sessions_moveAt f place m).trans hrest.sessions, hrest.dials,
      h.deadBut_moveAt hrest.dead place m⟩
  visit := fun v hv => h.under_moveAt (h.visit v hv) place m

/-! ## What the steps of a call keep -/

theorem Sound.enter (h : f.Sound) (s : Subscription) : (f.enter s).Sound := by
  unfold Facade.enter
  cases hv : f.visit? with
  | some v => exact h
  | none =>
    obtain ⟨hsessions, hdials, hdead⟩ := h.rest hv
    refine ⟨h.tidy, h.slot, h.receipts, fun hn => by simp at hn, fun v hv => ?_⟩
    cases hv
    exact ⟨rfl, hdials, hsessions, rfl, rfl, hdead, forall_of_none rfl,
      forall_of_none rfl, forall_of_none rfl⟩

theorem sound_goTo {v : Visit} {stand : Stand}
    (htidy : ∀ i sc, f.sessions[i]? = some sc → sc.session.id = i + 1 ∧ sc.Tidy)
    (hslot : ∀ i, f.slot? = some i → i < f.sessions.length)
    (hreceipts : ∀ r ∈ f.receipts, r.Good) (hu : f.Under { v with stand }) :
    (f.goTo v stand).Sound := by
  refine ⟨htidy, hslot, hreceipts, fun hn => by simp [goTo] at hn, fun v' hv' => ?_⟩
  cases hv'
  exact ⟨hu.found, hu.before, hu.sessions, hu.made, hu.dials, hu.dead, hu.cause, hu.fresh,
    hu.staging⟩

theorem Sound.goTo (h : f.Sound) {v : Visit} {stand : Stand} (hu : f.Under { v with stand }) :
    (f.goTo v stand).Sound :=
  sound_goTo h.tidy h.slot h.receipts hu

theorem Sound.slot_of_current (h : f.Sound) (hc : f.current? = none) : f.slot? = none := by
  cases hs : f.slot? with
  | none => rfl
  | some place =>
    have hlt := h.slot place hs
    simp [current?, hs, hlt] at hc

theorem current_eq_some {place : Nat} {session : Session}
    (hc : f.current? = some (place, session)) :
    f.slot? = some place ∧ ∃ sc, f.sessions[place]? = some sc ∧ sc.session = session := by
  obtain ⟨i, hs, hc⟩ := Option.bind_eq_some_iff.mp hc
  obtain ⟨sc, hsc, heq⟩ := Option.map_eq_some_iff.mp hc
  obtain ⟨rfl, rfl⟩ := Prod.mk.inj heq
  exact ⟨hs, sc, hsc, rfl⟩

theorem Sound.id_of_current (h : f.Sound) {place : Nat} {session : Session}
    (hc : f.current? = some (place, session)) : session.id = place + 1 := by
  obtain ⟨-, sc, hsc, rfl⟩ := current_eq_some hc
  exact (h.tidy place sc hsc).1

/-- Once the session in the slot is dead, all are. -/
theorem DeadBut.all {place : Nat} {session : Session} (hd : f.DeadBut f.slot?)
    (hc : f.current? = some (place, session)) (hdead : session.isAlive = false) :
    f.DeadBut none := by
  intro i sc hsc _
  obtain ⟨hslot, sc', hsc', rfl⟩ := current_eq_some hc
  by_cases hi : i = place
  · subst hi
    rw [hsc] at hsc'
    cases hsc'
    exact hdead
  · refine hd i sc hsc ?_
    rw [hslot]
    exact fun heq => hi (Option.some.inj heq).symm

/-- The call has done nothing yet but read. -/
structure Reads (f : Facade) (v : Visit) : Prop where
  found : v.found? = f.slot?
  before : v.dials = v.made
  sessions : f.sessions.length = v.made
  made : f.made = v.made
  dials : f.dials = v.dials
  dead : f.DeadBut f.slot?

theorem Under.reads {v : Visit} (hv : f.Under v)
    (hstand : v.stand = .staging ∨ ∃ l, v.stand = .looking l) : f.Reads v := by
  obtain ⟨hfound, hbefore, hsessions, hmade, hdials, hdead, -, -, -⟩ := hv
  rcases hstand with heq | ⟨l, heq⟩ <;> rw [heq] at hsessions hmade hdials hdead <;>
    exact ⟨hfound, hbefore, hsessions, hmade, hdials, hdead⟩

theorem Reads.passes {v : Visit} (h : f.Reads v) (l : Look) :
    f.Under { v with stand := l.next } := by
  cases l <;>
    exact ⟨h.found, h.before, h.sessions, h.made, h.dials, h.dead, forall_of_none rfl,
      forall_of_none rfl, forall_of_none rfl⟩

theorem Reads.founding {v : Visit} (h : f.Reads v) (hdead : f.DeadBut none) {cause : Cause}
    (hc : cause.Valid v.found? v.subscription) : f.Under { v with stand := .founding cause } :=
  ⟨h.found, h.before, h.sessions, h.made, h.dials, hdead, fun c heq => by cases heq; exact hc,
    forall_of_none rfl, forall_of_none rfl⟩

theorem Sound.empty (h : f.Sound) {v : Visit} (hr : f.Reads v) (hc : f.current? = none) :
    (f.goTo v (.founding .noSession)).Sound := by
  have hslot := h.slot_of_current hc
  refine h.goTo (hr.founding ?_ (hr.found.trans hslot))
  rw [← hslot]
  exact hr.dead

theorem Sound.keep (h : f.Sound) {v : Visit} (hr : f.Reads v) {place : Nat} {session : Session}
    (hc : f.current? = some (place, session))
    (hkeep : (session.subscribe v.subscription).2.2 = true) :
    ((f.moveAt place (.call (.subscribe v.subscription))).goTo v
      (.kept ⟨place, (session.subscribe v.subscription).1,
        (session.subscribe v.subscription).2.1⟩)).Sound := by
  have hslot := (current_eq_some hc).1
  refine (h.moveAt place _).goTo ⟨hr.found, hr.before, ?_, hr.made, hr.dials,
    h.deadBut_moveAt hr.dead place _, forall_of_none rfl, forall_of_none rfl, ?_⟩
  · rw [length_sessions_moveAt]
    exact hr.sessions
  · intro st hst
    cases hst
    rw [length_sessions_moveAt]
    refine ⟨hslot, h.slot place hslot, ?_, Session.subscribe_holds hkeep place⟩
    exact (Scene.marks_subscribe session v.subscription).1.trans (h.id_of_current hc)

theorem Sound.refuse (h : f.Sound) {v : Visit} (hr : f.Reads v) {place : Nat} {session : Session}
    (hc : f.current? = some (place, session))
    (hrefuse : (session.subscribe v.subscription).2.2 = false) :
    (f.goTo v (.founding (.refused place session))).Sound := by
  have hdead : session.isAlive = false := by
    rw [Session.isAlive_eq_false_iff]
    exact Or.inr (Or.inr ((session.subscribe_refuses_iff v.subscription).mp hrefuse))
  refine h.goTo (hr.founding (hr.dead.all hc hdead) ⟨?_, h.id_of_current hc, hrefuse⟩)
  exact hr.found.trans (current_eq_some hc).1

theorem Sound.make (h : f.Sound) {v : Visit} {cause : Cause} (hv : f.Under v)
    (hstand : v.stand = .founding cause) :
    ({ f with made := f.made + 1 }.goTo v
      (.dialling cause (.new (f.made + 1) f.settings))).Sound := by
  obtain ⟨hfound, hbefore, hsessions, hmade, hdials, hdead, hcause, -, -⟩ := hv
  rw [hstand] at hsessions hmade hdials hdead hcause
  refine sound_goTo h.tidy h.slot h.receipts
    ⟨hfound, hbefore, hsessions, congrArg (· + 1) hmade, hdials, hdead, hcause, ?_,
      forall_of_none rfl⟩
  intro s hs
  cases hs
  rw [hmade]
  rfl

theorem Sound.dial (h : f.Sound) {v : Visit} {cause : Cause} {session : Session}
    (hv : f.Under v) (hstand : v.stand = .dialling cause session) :
    ({ f with dials := f.dials + 1 }.goTo v (.starting cause session)).Sound := by
  obtain ⟨hfound, hbefore, hsessions, hmade, hdials, hdead, hcause, hfresh, -⟩ := hv
  rw [hstand] at hsessions hmade hdials hdead hcause hfresh
  exact sound_goTo h.tidy h.slot h.receipts
    ⟨hfound, hbefore, hsessions, hmade, congrArg (· + 1) hdials, hdead, hcause, hfresh,
      forall_of_none rfl⟩

/-- Sessions keep their places when one more begins. -/
theorem getElem?_begun {sc sc' : Scene} {i : Nat}
    (h : (f.sessions ++ [sc])[i]? = some sc') :
    f.sessions[i]? = some sc' ∨ i = f.sessions.length ∧ sc' = sc := by
  rcases Nat.lt_trichotomy i f.sessions.length with hlt | rfl | hgt
  · rw [List.getElem?_append_left hlt] at h
    exact Or.inl h
  · rw [List.getElem?_concat_length] at h
    exact Or.inr ⟨rfl, (Option.some.inj h).symm⟩
  · rw [List.getElem?_eq_none (by rw [List.length_append, List.length_singleton]; omega)] at h
    cases h

/-- The task of the session that a call has made always begins. -/
theorem Under.begins {v : Visit} {cause : Cause} {session : Session} (hv : f.Under v)
    (hstand : v.stand = .starting cause session) : ∃ begun lines,
    session.begin f.endpoint [v.subscription] = .ok (begun, lines, .new f.endpoint) ∧
      begun.id = v.made + 1 ∧ begun.phase = .created ∧ v.subscription ∈ begun.book.pending := by
  rw [hv.fresh session (by rw [hstand]; rfl)]
  exact Session.begin_new (v.made + 1) f.settings f.endpoint v.subscription

theorem Sound.start (h : f.Sound) {v : Visit} {cause : Cause} {session begun : Session}
    {lines : List LogLine} {task : Task} (hv : f.Under v)
    (hstand : v.stand = .starting cause session)
    (hbegin : session.begin f.endpoint [v.subscription] = .ok (begun, lines, task)) :
    (({ f with sessions := f.sessions ++ [⟨begun, some task⟩] } : Facade).goTo v
      (.founded cause ⟨f.sessions.length, begun, lines⟩)).Sound := by
  obtain ⟨begun', lines', hbegin', hid, hphase, hpending⟩ := hv.begins hstand
  rw [hbegin] at hbegin'
  cases hbegin'
  obtain ⟨hfound, hbefore, hsessions, hmade, hdials, hdead, hcause, -, -⟩ := hv
  rw [hstand] at hsessions hmade hdials hdead hcause
  have hlen : f.sessions.length = v.made := hsessions
  have hplace : ∀ sc : Scene, f.sessions.length < (f.sessions ++ [sc]).length := by
    intro sc
    rw [List.length_append, List.length_singleton]
    omega
  refine sound_goTo ?_ ?_ h.receipts
    ⟨hfound, hbefore, ?_, hmade, hdials, ?_, hcause, forall_of_none rfl, ?_⟩
  · intro i sc hsc
    -- the new session comes last, in the place that its number says
    rcases getElem?_begun hsc with hold | ⟨rfl, rfl⟩
    · exact h.tidy i sc hold
    · refine ⟨by rw [hid, hlen], _, rfl, Task.marked_new ?_ f.endpoint⟩
      rw [hphase]
      decide
  · exact fun i hi => Nat.lt_trans (h.slot i hi) (hplace _)
  · show (f.sessions ++ [_]).length = v.made + 1
    rw [List.length_append, hlen, List.length_singleton]
  · intro i sc hsc hi
    rcases getElem?_begun hsc with hold | ⟨rfl, -⟩
    · exact hdead i sc hold nofun
    · exact absurd rfl hi
  · intro st hst
    cases hst
    exact ⟨rfl, hplace _, by rw [hid, hlen], Or.inr (Or.inl hpending)⟩

/-- A call returns from a point at which its staging has happened. -/
theorem Sound.leave (h : f.Sound) {v : Visit} (hv : f.Under v) {slot? : Option Nat} {st : Staging}
    (hst : v.stand.staging? = some st) (hslot : slot? = some st.place)
    (hmade : v.stand.made = if v.stand.cause?.isSome then 1 else 0)
    (hdials : v.stand.dials = v.stand.made) (hbegun : v.stand.begun = v.stand.made)
    (hkept : v.stand.cause? = none → slot? = v.found?) :
    ({ f with slot? }.leave v v.stand.cause? (.ok st)).Sound := by
  obtain ⟨hliving, hlt, hid, hholds⟩ := hv.staging st hst
  -- with these the counts are sums: what there was before the call, and what it has made
  have hsessions := hv.sessions
  have hfmade := hv.made
  have hfdials := hv.dials
  have hbefore := hv.before
  constructor
  case tidy => exact h.tidy
  case slot =>
    intro i hi
    rw [show slot? = some i from hi] at hslot
    cases hslot
    exact hlt
  case receipts =>
    intro r hr
    rcases List.mem_append.mp hr with hr | hr
    · exact h.receipts r hr
    · rw [List.mem_singleton.mp hr]
      refine ⟨⟨st, rfl, hslot, hid, hholds⟩, ?_, ?_, hkept, hv.cause⟩
      · show f.made - v.made = _
        rw [← hmade]
        omega
      · show f.dials - v.dials = f.made - v.made
        omega
  case rest =>
    intro _
    refine ⟨?_, ?_, ?_⟩
    · show f.sessions.length = f.made
      omega
    · show f.dials = f.made
      omega
    · show f.DeadBut slot?
      rw [hslot, ← hliving]
      exact hv.dead
  case visit =>
    intro v' hv'
    cases hv'

theorem Sound.advanceFrom (h : f.Sound) {v : Visit} (hv : f.Under v) :
    (f.advanceFrom v v.stand).Sound := by
  apply advanceFrom_cases
  case empty => exact fun hstand hc => h.empty (hv.reads hstand) hc
  case pass => exact fun l _ _ hstand _ _ => h.goTo ((hv.reads (Or.inr ⟨l, hstand⟩)).passes l)
  case dead =>
    intro l place session hstand hc hpasses
    have hr := hv.reads (Or.inr ⟨l, hstand⟩)
    have hdead := Look.dead_of_not_passes hpasses
    refine h.goTo (hr.founding (hr.dead.all hc hdead) ⟨?_, h.id_of_current hc, hdead⟩)
    exact hr.found.trans (current_eq_some hc).1
  case keep => exact fun _ _ hstand hc hkeep => h.keep (hv.reads (Or.inl hstand)) hc hkeep
  case refuse => exact fun _ _ hstand hc hrefuse => h.refuse (hv.reads (Or.inl hstand)) hc hrefuse
  case make => exact fun _ hstand => h.make hv hstand
  case dial => exact fun _ _ hstand => h.dial hv hstand
  case start => exact fun _ _ _ _ _ hstand hbegin => h.start hv hstand hbegin
  case fail =>
    intro cause session error hstand hbegin
    obtain ⟨begun, lines, hbegin', -⟩ := hv.begins hstand
    rw [hbegin] at hbegin'
    cases hbegin'
  case found =>
    intro cause st hstand
    have hst : v.stand.staging? = some st := by rw [hstand]; rfl
    have hleave := h.leave hv hst rfl
    rw [hstand] at hleave
    exact hleave rfl rfl rfl nofun
  case done =>
    intro st hstand
    have hst : v.stand.staging? = some st := by rw [hstand]; rfl
    have hslot : f.slot? = some st.place := by
      have hliving := (hv.staging st hst).1
      rwa [hstand] at hliving
    have hleave := h.leave hv hst hslot
    rw [hstand] at hleave
    exact hleave rfl rfl rfl fun _ => hv.found.symm

theorem Sound.advance (h : f.Sound) : f.advance.Sound := by
  unfold Facade.advance
  cases hv : f.visit? with
  | none => exact h
  | some v => exact h.advanceFrom (h.visit v hv)

theorem Sound.next (h : f.Sound) (e : Event) : (f.next e).Sound := by
  cases e with
  | enter s => exact h.enter s
  | advance => exact h.advance
  | move place m => exact h.moveAt place m

theorem Sound.play (h : f.Sound) (events : List Event) : (f.play events).Sound :=
  Trace.foldl_invariant (I := Facade.Sound) (fun _ e hf => hf.next e) h events

end Facade

end MarketFeed
