import MarketFeed.Proofs.Feed.Notes

/-!
# One session at a time

Whatever callers and tasks do, and in whatever order: when no call holds the slot, no session is
alive but the one in the slot, what is not alive stays so, and every call returns and says what became
of its subscription (`one_session_alive`).
-/

namespace MarketFeed

namespace Facade

variable {f : Facade}

/-! ## What is dead stays dead -/

/-- One session has moved, or new ones have begun. -/
def Grows (f g : Facade) : Prop :=
  (∃ place m, g.sessions = f.sessions.modify place (·.move m)) ∨
    ∃ begun, g.sessions = f.sessions ++ begun

theorem grows_of_eq {g : Facade} (h : g.sessions = f.sessions) : f.Grows g :=
  Or.inr ⟨[], by rw [h, List.append_nil]⟩

theorem grows_next (f : Facade) (e : Event) : f.Grows (f.next e) := by
  cases e with
  | move place m => exact Or.inl ⟨place, m, rfl⟩
  | enter s =>
    refine grows_of_eq ?_
    show (f.enter s).sessions = f.sessions
    unfold enter
    cases f.visit? <;> rfl
  | advance =>
    show f.Grows f.advance
    unfold advance
    cases f.visit? with
    | none => exact grows_of_eq rfl
    | some v =>
      apply advanceFrom_cases (P := f.Grows)
      case keep => exact fun place _ _ _ _ => Or.inl ⟨place, _, rfl⟩
      case start => exact fun _ _ _ _ _ _ _ => Or.inr ⟨_, rfl⟩
      all_goals
        intros
        exact grows_of_eq rfl

/-- The session in a place is dead. -/
def DeadAt (f : Facade) (place : Nat) : Prop :=
  ∃ sc, f.sessions[place]? = some sc ∧ sc.session.isAlive = false

theorem Sound.deadAt_next (h : f.Sound) {place : Nat} (hd : f.DeadAt place) (e : Event) :
    (f.next e).DeadAt place := by
  obtain ⟨sc, hsc, hdead⟩ := hd
  rcases grows_next f e with ⟨moved, m, hnext⟩ | ⟨begun, hnext⟩
  · by_cases hm : moved = place
    · refine ⟨sc.move m, ?_, (h.tidy place sc hsc).2.isAlive_move_of_dead hdead m⟩
      rw [hnext, hm, List.getElem?_modify_eq, hsc]
      rfl
    · refine ⟨sc, ?_, hdead⟩
      rw [hnext, List.getElem?_modify_ne _ _ hm, hsc]
  · refine ⟨sc, ?_, hdead⟩
    obtain ⟨hlt, -⟩ := List.getElem?_eq_some_iff.mp hsc
    rw [hnext, List.getElem?_append_left hlt, hsc]

theorem Sound.deadAt_play (h : f.Sound) {place : Nat} (hd : f.DeadAt place)
    (events : List Event) : (f.play events).DeadAt place := by
  have hkept := Trace.foldl_invariant (I := fun g : Facade => g.Sound ∧ g.DeadAt place)
    (fun g e hg => ⟨hg.1.next e, hg.1.deadAt_next hg.2 e⟩) ⟨h, hd⟩ events
  exact hkept.2

end Facade

/-! ## A call returns -/

/-- How many steps a call has before it at most. -/
def Stand.left : Stand → Nat
  | .looking .flag => 8
  | .looking .phase => 7
  | .looking .book => 6
  | .staging => 5
  | .founding _ => 4
  | .dialling .. => 3
  | .starting .. => 2
  | .founded .. | .kept _ => 1

theorem Stand.left_pos (stand : Stand) : 0 < stand.left := by
  cases stand with
  | looking l => cases l <;> simp [left]
  | _ => simp [left]

/-- Whether the call that holds the slot makes a step. -/
def Event.isAdvance : Event → Bool
  | .advance => true
  | _ => false

namespace Facade

variable {f : Facade}

/-- A call goes on, with fewer steps before it. -/
def GoesOn (f : Facade) (v : Visit) (g : Facade) : Prop :=
  ∃ stand : Stand, g.visit? = some { v with stand } ∧ stand.left < v.stand.left ∧
    g.receipts = f.receipts

/-- A call is over. -/
def Returns (f : Facade) (v : Visit) (g : Facade) : Prop :=
  ∃ r : Receipt, g.visit? = none ∧ r.subscription = v.subscription ∧
    g.receipts = f.receipts ++ [r]

theorem goesOn_goTo {g : Facade} {v : Visit} {stand : Stand} (hr : g.receipts = f.receipts)
    (hleft : stand.left < v.stand.left) : f.GoesOn v (g.goTo v stand) :=
  ⟨stand, rfl, hleft, hr⟩

theorem goesOn_or_returns (f : Facade) (v : Visit) :
    f.GoesOn v (f.advanceFrom v v.stand) ∨ f.Returns v (f.advanceFrom v v.stand) := by
  apply advanceFrom_cases (P := fun g => f.GoesOn v g ∨ f.Returns v g)
  case empty =>
    rintro (hstand | ⟨l, hstand⟩) -
    · exact Or.inl (goesOn_goTo rfl (by simp [hstand, Stand.left]))
    · exact Or.inl (goesOn_goTo rfl (by cases l <;> simp [hstand, Stand.left]))
  case pass =>
    intro l _ _ hstand _ _
    exact Or.inl (goesOn_goTo rfl (by cases l <;> simp [hstand, Look.next, Stand.left]))
  case dead =>
    intro l _ _ hstand _ _
    exact Or.inl (goesOn_goTo rfl (by cases l <;> simp [hstand, Stand.left]))
  case fail => exact fun _ _ _ _ _ => Or.inr ⟨_, rfl, rfl, rfl⟩
  case found => exact fun _ _ _ => Or.inr ⟨_, rfl, rfl, rfl⟩
  case done => exact fun _ _ => Or.inr ⟨_, rfl, rfl, rfl⟩
  case keep =>
    intro _ _ hstand _ _
    exact Or.inl (goesOn_goTo rfl (by simp [hstand, Stand.left]))
  case refuse =>
    intro _ _ hstand _ _
    exact Or.inl (goesOn_goTo rfl (by simp [hstand, Stand.left]))
  case make => exact fun _ hstand => Or.inl (goesOn_goTo rfl (by simp [hstand, Stand.left]))
  case dial => exact fun _ _ hstand => Or.inl (goesOn_goTo rfl (by simp [hstand, Stand.left]))
  case start =>
    intro _ _ _ _ _ hstand _
    exact Or.inl (goesOn_goTo rfl (by simp [hstand, Stand.left]))

/-- Receipts stay. -/
theorem receipts_next (f : Facade) (e : Event) : f.receipts <+: (f.next e).receipts := by
  cases e with
  | move place m => exact List.prefix_rfl
  | enter s =>
    show f.receipts <+: (f.enter s).receipts
    unfold enter
    cases f.visit? <;> exact List.prefix_rfl
  | advance =>
    show f.receipts <+: f.advance.receipts
    unfold advance
    cases f.visit? with
    | none => exact List.prefix_rfl
    | some v =>
      rcases goesOn_or_returns f v with ⟨stand, -, -, hr⟩ | ⟨r, -, -, hr⟩
      · exact ⟨[], by rw [List.append_nil, hr]⟩
      · exact ⟨[r], hr.symm⟩

theorem receipts_play (f : Facade) (events : List Event) :
    f.receipts <+: (f.play events).receipts :=
  Trace.foldl_invariant (I := fun g : Facade => f.receipts <+: g.receipts)
    (fun g e hg => hg.trans (receipts_next g e)) List.prefix_rfl events

theorem next_of_not_advance {v : Visit} (hv : f.visit? = some v) {e : Event}
    (he : e.isAdvance = false) :
    (f.next e).visit? = some v ∧ (f.next e).receipts = f.receipts := by
  cases e with
  | enter s => simp [next, enter, hv]
  | move place m => exact ⟨hv, rfl⟩
  | advance => cases he

theorem next_of_advance {v : Visit} (hv : f.visit? = some v) {e : Event}
    (he : e.isAdvance = true) : f.next e = f.advanceFrom v v.stand := by
  cases e with
  | advance => simp only [next, advance, hv]
  | _ => cases he

/-- A call returns when it has made its steps, whatever happens between them. -/
theorem returns_play {v : Visit} (hv : f.visit? = some v) {events : List Event}
    (h : v.stand.left ≤ events.countP Event.isAdvance) :
    ∃ r, (f.play events).receipts[f.receipts.length]? = some r ∧
      r.subscription = v.subscription := by
  -- only steps of the call count: whatever else happens leaves the call where it stands
  induction events generalizing f v with
  | nil =>
    have hpos := v.stand.left_pos
    rw [List.countP_nil] at h
    omega
  | cons e events ih =>
    show ∃ r, ((f.next e).play events).receipts[f.receipts.length]? = some r ∧ _
    cases he : e.isAdvance with
    | false =>
      obtain ⟨hnext, hreceipts⟩ := next_of_not_advance hv he
      rw [← hreceipts]
      refine ih hnext ?_
      rwa [List.countP_cons_of_neg (by simp [he])] at h
    | true =>
      rw [List.countP_cons_of_pos he] at h
      rw [next_of_advance hv he]
      rcases goesOn_or_returns f v with ⟨stand, hnext, hleft, hreceipts⟩ | ⟨r, -, hsub, hreceipts⟩
      · obtain ⟨r, hr, hsub⟩ := ih hnext (Nat.le_of_lt_succ (Nat.lt_of_lt_of_le hleft h))
        rw [hreceipts] at hr
        exact ⟨r, hr, hsub⟩
      · refine ⟨r, ?_, hsub⟩
        obtain ⟨rest, hrest⟩ := receipts_play (f.advanceFrom v v.stand) events
        rw [← hrest, hreceipts, List.append_assoc, List.getElem?_append_right (Nat.le_refl _),
          Nat.sub_self]
        rfl

/-- A call that takes the slot returns when it has made eight steps. -/
theorem returns_enter (hrest : f.visit? = none) (s : Subscription) {later : List Event}
    (h : 8 ≤ later.countP Event.isAdvance) :
    ∃ r, (f.play (.enter s :: later)).receipts[f.receipts.length]? = some r ∧
      r.subscription = s := by
  have hentered : (f.enter s).visit? =
      some ⟨s, f.slot?, f.made, f.dials, .looking .flag⟩ := by
    unfold enter
    rw [hrest]
  have hreceipts : (f.enter s).receipts = f.receipts := by
    unfold enter
    rw [hrest]
  have hreturn := returns_play hentered h
  rw [hreceipts] at hreturn
  exact hreturn

/-! ## The feed -/

/-- **One session at a time.** Whatever callers, tasks, transports and clocks do: when no call holds
the slot, no session is alive but the one in the slot, and a transport has been asked for once for
each session. What is not alive never becomes alive again. Every call that has returned has done so
with success: it has made one session at most, and one only if the slot was empty, or its session was
not alive or refused the subscription; and in the session that it left in the slot, its subscription
was confirmed or was waiting when it had been staged, or there was no room and that was logged. What
it has noted of a session was so at some moment. Every call returns when it has made eight steps. -/
theorem one_session_alive (settings : StreamConfig) (events : List Event) :
    (((new settings).play events).visit? = none → ((new settings).play events).AtRest) ∧
    (∀ place later, ((new settings).play events).DeadAt place →
      (((new settings).play events).play later).DeadAt place) ∧
    (∀ r ∈ ((new settings).play events).receipts, r.Good ∧
      ∀ note ∈ r.notes, ∃ earlier, earlier <+: events ∧
        ((new settings).play earlier).Shows note) ∧
    (∀ s later, ((new settings).play events).visit? = none →
      8 ≤ later.countP Event.isAdvance →
      ∃ r, (((new settings).play events).play (.enter s :: later)).receipts[
          ((new settings).play events).receipts.length]? = some r ∧ r.subscription = s) := by
  have hsound := (sound_new settings).play events
  refine ⟨hsound.rest, fun place later hd => hsound.deadAt_play hd later, fun r hr => ?_,
    fun s later hrest hlater => returns_enter hrest s hlater⟩
  refine ⟨hsound.receipts r hr, fun note hnote => ?_⟩
  have htold : note ∈ ((new settings).play events).told := List.mem_flatMap.mpr ⟨r, hr, hnote⟩
  exact shows_play settings events note (List.mem_append_right _ htold)

/-- A closed session is replaced at the next call. -/
example :
    let call := Event.enter (.tickers "BTC-USDT") :: List.replicate 8 .advance
    let f := (new .default).play (call ++ .move 0 (.call .close) :: call)
    f.sessions.map (·.session.isAlive) = [false, true] ∧ f.slot? = some 1 ∧ f.dials = 2 := by
  decide +kernel

end Facade

end MarketFeed
