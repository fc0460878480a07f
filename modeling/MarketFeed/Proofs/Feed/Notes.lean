import Mathlib.Data.List.Induction
import MarketFeed.Proofs.Feed.Invariant

/-!
# What calls note

A call notes the session that it found dead or that refused its subscription, and the session in
which its staging took effect. Main fact: each note was so at some moment (`Facade.shows_play`).
-/

namespace MarketFeed

/-- A place, and what a call has noted of the session there. -/
abbrev Note := Nat × Session

def Cause.note? : Cause → Option Note
  | .noSession => none
  | .dead place session | .refused place session => some (place, session)

def Staging.note (st : Staging) : Note := (st.place, st.session)

/-- The notes on why a session is made, and on what staging has left. -/
def notesOn (cause? : Option Cause) (staging? : Option Staging) : List Note :=
  (cause?.bind Cause.note?).toList ++ (staging?.map Staging.note).toList

/-- The notes of a call that stands here. -/
def Stand.notes (stand : Stand) : List Note := notesOn stand.cause? stand.staging?

/-- The notes of a call that has returned. -/
def Receipt.notes (r : Receipt) : List Note := notesOn r.cause? r.answer.toOption

namespace Facade

variable {f : Facade} {v : Visit} {note : Note}

/-- A session is as a note says. -/
def Shows (f : Facade) (note : Note) : Prop :=
  f.sessions[note.1]?.map Scene.session = some note.2

/-- The notes of the calls that have returned. -/
def told (f : Facade) : List Note := f.receipts.flatMap Receipt.notes

/-- The notes of all calls. -/
def notes (f : Facade) : List Note := (f.visit?.map (·.stand.notes)).getD [] ++ f.told

theorem shows_of_current {place : Nat} {session : Session}
    (hc : f.current? = some (place, session)) : f.Shows (place, session) := by
  obtain ⟨-, sc, hsc, rfl⟩ := current_eq_some hc
  show f.sessions[place]?.map Scene.session = _
  rw [hsc]
  rfl

theorem shows_moveAt {place : Nat} {session : Session} (hc : f.current? = some (place, session))
    (s : Subscription) :
    (f.moveAt place (.call (.subscribe s))).Shows (place, (session.subscribe s).1) := by
  obtain ⟨-, sc, hsc, rfl⟩ := current_eq_some hc
  show ((f.sessions.modify place _)[place]?).map Scene.session = _
  rw [List.getElem?_modify_eq, hsc]
  rfl

/-- A call that goes on notes nothing but what it has noted already, or what can be seen now. -/
theorem notes_goTo {g : Facade} {stand : Stand} (hreceipts : g.receipts = f.receipts)
    (hstand : ∀ n ∈ stand.notes, n ∈ v.stand.notes ∨ (g.goTo v stand).Shows n)
    (h : note ∈ (g.goTo v stand).notes) :
    note ∈ v.stand.notes ∨ note ∈ f.told ∨ (g.goTo v stand).Shows note := by
  rcases List.mem_append.mp h with h | h
  · exact (hstand note h).imp_right Or.inr
  · have htold : (g.goTo v stand).told = f.told := congrArg (·.flatMap Receipt.notes) hreceipts
    rw [htold] at h
    exact Or.inr (Or.inl h)

/-- A call that returns tells what it has noted. -/
theorem notes_leave {g : Facade} {cause? : Option Cause} {answer : Except FeedError Staging}
    (hreceipts : g.receipts = f.receipts)
    (hnotes : ∀ n ∈ notesOn cause? answer.toOption, n ∈ v.stand.notes)
    (h : note ∈ (g.leave v cause? answer).notes) :
    note ∈ v.stand.notes ∨ note ∈ f.told ∨ (g.leave v cause? answer).Shows note := by
  have h : note ∈ (g.receipts ++ [_]).flatMap Receipt.notes := h
  rw [List.flatMap_append, List.mem_append, List.flatMap_singleton, hreceipts] at h
  rcases h with h | h
  · exact Or.inr (Or.inl h)
  · exact Or.inl (hnotes note h)

theorem shows_advanceFrom :
    note ∈ (f.advanceFrom v v.stand).notes →
      note ∈ v.stand.notes ∨ note ∈ f.told ∨ (f.advanceFrom v v.stand).Shows note := by
  apply advanceFrom_cases (P := fun g => note ∈ g.notes →
    note ∈ v.stand.notes ∨ note ∈ f.told ∨ g.Shows note)
  case empty => exact fun _ _ => notes_goTo rfl fun n hn => absurd hn List.not_mem_nil
  case pass =>
    intro l _ _ _ _ _
    refine notes_goTo rfl fun n hn => ?_
    cases l <;> exact absurd hn List.not_mem_nil
  case dead =>
    intro l place session _ hc _
    refine notes_goTo rfl fun n hn => Or.inr ?_
    rw [List.mem_singleton.mp hn]
    exact shows_of_current hc
  case keep =>
    intro place session _ hc _
    refine notes_goTo rfl fun n hn => Or.inr ?_
    rw [List.mem_singleton.mp hn]
    exact shows_moveAt hc v.subscription
  case refuse =>
    intro place session _ hc _
    refine notes_goTo rfl fun n hn => Or.inr ?_
    rw [List.mem_singleton.mp hn]
    exact shows_of_current hc
  case make =>
    intro cause hstand
    exact notes_goTo rfl fun n hn => Or.inl (by rw [hstand]; exact hn)
  case dial =>
    intro cause session hstand
    exact notes_goTo rfl fun n hn => Or.inl (by rw [hstand]; exact hn)
  case start =>
    intro cause session begun lines task hstand _
    refine notes_goTo rfl fun n hn => ?_
    rcases List.mem_append.mp hn with hn | hn
    · left
      rw [hstand]
      exact List.mem_append_left _ hn
    · right
      rw [List.mem_singleton.mp hn]
      show ((f.sessions ++ [_])[f.sessions.length]?).map Scene.session = some begun
      rw [List.getElem?_concat_length]
      rfl
  case fail =>
    intro cause session error hstand _
    exact notes_leave rfl fun n hn => by rw [hstand]; exact hn
  case found =>
    intro cause st hstand
    exact notes_leave rfl fun n hn => by rw [hstand]; exact hn
  case done =>
    intro st hstand
    exact notes_leave rfl fun n hn => by rw [hstand]; exact hn

theorem shows_next {e : Event} (h : note ∈ (f.next e).notes) :
    note ∈ f.notes ∨ (f.next e).Shows note := by
  cases e with
  | move place m => exact Or.inl h
  | enter s =>
    left
    revert h
    show note ∈ (f.enter s).notes → _
    unfold enter
    cases hv : f.visit? with
    | none =>
      intro h
      rw [notes, hv]
      exact h
    | some v => exact id
  | advance =>
    revert h
    show note ∈ f.advance.notes → _ ∨ f.advance.Shows note
    unfold advance
    cases hv : f.visit? with
    | none => exact Or.inl
    | some v =>
      intro h
      rw [notes, hv, List.mem_append, or_assoc]
      exact shows_advanceFrom h

/-- What calls have noted of sessions was so at some moment. -/
theorem shows_play (settings : StreamConfig) (events : List Event) :
    ∀ note ∈ ((new settings).play events).notes,
      ∃ earlier, earlier <+: events ∧ ((new settings).play earlier).Shows note := by
  -- from the end, as a note is shown by the facade after the event that brought it
  induction events using List.reverseRecOn with
  | nil => exact fun note h => absurd h List.not_mem_nil
  | append_singleton events e ih =>
    intro note h
    have hplay : (new settings).play (events ++ [e]) = ((new settings).play events).next e :=
      List.foldl_append
    rw [hplay] at h
    rcases shows_next h with h | h
    · obtain ⟨earlier, hprefix, hshows⟩ := ih note h
      exact ⟨earlier, hprefix.trans (List.prefix_append _ _), hshows⟩
    · refine ⟨events ++ [e], List.prefix_rfl, ?_⟩
      rw [hplay]
      exact h

end Facade

end MarketFeed
