import MarketFeed.Feed
import MarketFeed.Proofs.Session.Life

/-!
# Calls of a feed, step by step

A subscription to a feed holds the slot of the current session until it returns, but what it finds
there goes on meanwhile: tasks make their steps, and callers who have a handle stage and close. A
facade is a feed with all sessions it ever made and the call that is under way. It goes on by events:
a call takes the slot, the call makes its next step, a move happens to some session. Lists of events
are all the interleavings there are; callers that wait for the slot have not read anything yet.
`Feed.subscribe` is a call that nothing comes between (`Feed.answers_subscribe`).
-/

namespace MarketFeed

/-- What a call reads of the session in the slot, one after the other. -/
inductive Look
  | flag
  | phase
  | book

def Look.passes (session : Session) : Look → Bool
  | .flag => !session.closing
  | .phase => session.phase != .closed
  | .book => session.book.accepting

theorem Look.isAlive_eq (session : Session) :
    session.isAlive = (flag.passes session && phase.passes session && book.passes session) := rfl

theorem Look.dead_of_not_passes {session : Session} {look : Look} (h : look.passes session = false) :
    session.isAlive = false := by
  rw [isAlive_eq]
  cases look <;> simp [h]

/-- Why a call makes a session. The session in the slot is given as the call has seen it. -/
inductive Cause
  | noSession
  | dead (place : Nat) (session : Session)
  | refused (place : Nat) (session : Session)

/-- What the staging of a subscription has left: the session in its place, and what it logged. -/
structure Staging where
  place : Nat
  session : Session
  lines : List LogLine

inductive Stand
  | looking (look : Look)
  /-- The session has looked alive. -/
  | staging
  /-- A session is to be made. -/
  | founding (cause : Cause)
  /-- The session is made, and a transport is to be asked for. -/
  | dialling (cause : Cause) (session : Session)
  /-- The subscription is to be staged and the task is to begin. -/
  | starting (cause : Cause) (session : Session)
  /-- The new session is to be put into the slot. -/
  | founded (cause : Cause) (staging : Staging)
  | kept (staging : Staging)

/-- Where a call goes on when the session passes. -/
def Look.next : Look → Stand
  | .flag => .looking .phase
  | .phase => .looking .book
  | .book => .staging

/-- A call that holds the slot, with what was in the slot and what had been made and dialled when the
call took it. -/
structure Visit where
  subscription : Subscription
  found? : Option Nat
  made : Nat
  dials : Nat
  stand : Stand

/-- What a call has done when it lets go of the slot: what it found there and what it leaves, how many
sessions it has made and how often it has asked for a transport. -/
structure Receipt where
  subscription : Subscription
  found? : Option Nat
  left? : Option Nat
  made : Nat
  dials : Nat
  cause? : Option Cause
  answer : Except FeedError Staging

/-- A feed and the calls on it: the sessions in the order in which they began, how many have been made,
and how often a transport has been asked for. -/
structure Facade where
  settings : StreamConfig
  sessions : List Scene
  /-- The place of the current session. -/
  slot? : Option Nat
  visit? : Option Visit
  made : Nat
  dials : Nat
  receipts : List Receipt

inductive Event
  | enter (s : Subscription)
  | advance
  | move (place : Nat) (m : Move)

namespace Facade

def new (settings : StreamConfig) : Facade := ⟨settings, [], none, none, 0, 0, []⟩

def current? (f : Facade) : Option (Nat × Session) :=
  f.slot?.bind fun place => f.sessions[place]?.map fun sc => (place, sc.session)

def endpoint (f : Facade) : Endpoint := ⟨f.settings.host, f.settings.port, f.settings.path⟩

def moveAt (f : Facade) (place : Nat) (m : Move) : Facade :=
  { f with sessions := f.sessions.modify place (·.move m) }

/-- A call takes the slot, unless another one holds it. -/
def enter (f : Facade) (s : Subscription) : Facade :=
  match f.visit? with
  | none => { f with visit? := some ⟨s, f.slot?, f.made, f.dials, .looking .flag⟩ }
  | some _ => f

/-- The call goes on to another point. -/
def goTo (f : Facade) (v : Visit) (stand : Stand) : Facade :=
  { f with visit? := some { v with stand } }

def leave (f : Facade) (v : Visit) (cause? : Option Cause) (answer : Except FeedError Staging) :
    Facade :=
  let receipt : Receipt :=
    ⟨v.subscription, v.found?, f.slot?, f.made - v.made, f.dials - v.dials, cause?, answer⟩
  { f with visit? := none, receipts := f.receipts ++ [receipt] }

/-- The call reads whether the session in the slot is alive. -/
def look (f : Facade) (v : Visit) (look : Look) : Facade :=
  match f.current? with
  | none => f.goTo v (.founding .noSession)
  | some (place, session) =>
    if look.passes session then f.goTo v look.next
    else f.goTo v (.founding (.dead place session))

/-- The call stages its subscription with the session in the slot. -/
def stage (f : Facade) (v : Visit) : Facade :=
  match f.current? with
  | none => f.goTo v (.founding .noSession)
  | some (place, session) =>
    match session.subscribe v.subscription with
    | (staged, lines, true) =>
      (f.moveAt place (.call (.subscribe v.subscription))).goTo v (.kept ⟨place, staged, lines⟩)
    | (_, _, false) => f.goTo v (.founding (.refused place session))

/-- The call begins the task of a new session. -/
def start (f : Facade) (v : Visit) (cause : Cause) (session : Session) : Facade :=
  match session.begin f.endpoint [v.subscription] with
  | .ok (session, lines, task) =>
    let begun : Facade := { f with sessions := f.sessions ++ [⟨session, some task⟩] }
    begun.goTo v (.founded cause ⟨f.sessions.length, session, lines⟩)
  | .error error => f.leave v (some cause) (.error error)

/-- The next step of a call. -/
def advanceFrom (f : Facade) (v : Visit) : Stand → Facade
  | .looking l => f.look v l
  | .staging => f.stage v
  | .founding cause =>
    { f with made := f.made + 1 }.goTo v (.dialling cause (.new (f.made + 1) f.settings))
  | .dialling cause session => { f with dials := f.dials + 1 }.goTo v (.starting cause session)
  | .starting cause session => f.start v cause session
  | .founded cause staging =>
    { f with slot? := some staging.place }.leave v (some cause) (.ok staging)
  | .kept staging => f.leave v none (.ok staging)

def advance (f : Facade) : Facade :=
  match f.visit? with
  | some v => f.advanceFrom v v.stand
  | none => f

def next (f : Facade) : Event → Facade
  | .enter s => f.enter s
  | .advance => f.advance
  | .move place m => f.moveAt place m

def play (f : Facade) (events : List Event) : Facade := events.foldl next f

/-- What the next step of a call may be. -/
theorem advanceFrom_cases {P : Facade → Prop} (f : Facade) (v : Visit)
    (empty : v.stand = .staging ∨ (∃ l, v.stand = .looking l) → f.current? = none →
      P (f.goTo v (.founding .noSession)))
    (pass : ∀ l place session, v.stand = .looking l → f.current? = some (place, session) →
      l.passes session = true → P (f.goTo v l.next))
    (dead : ∀ l place session, v.stand = .looking l → f.current? = some (place, session) →
      l.passes session = false → P (f.goTo v (.founding (.dead place session))))
    (keep : ∀ place session, v.stand = .staging → f.current? = some (place, session) →
      (session.subscribe v.subscription).2.2 = true →
      P ((f.moveAt place (.call (.subscribe v.subscription))).goTo v
        (.kept ⟨place, (session.subscribe v.subscription).1,
          (session.subscribe v.subscription).2.1⟩)))
    (refuse : ∀ place session, v.stand = .staging → f.current? = some (place, session) →
      (session.subscribe v.subscription).2.2 = false →
      P (f.goTo v (.founding (.refused place session))))
    (make : ∀ cause, v.stand = .founding cause →
      P ({ f with made := f.made + 1 }.goTo v
        (.dialling cause (.new (f.made + 1) f.settings))))
    (dial : ∀ cause session, v.stand = .dialling cause session →
      P ({ f with dials := f.dials + 1 }.goTo v (.starting cause session)))
    (start : ∀ cause session begun lines task, v.stand = .starting cause session →
      session.begin f.endpoint [v.subscription] = .ok (begun, lines, task) →
      P (({ f with sessions := f.sessions ++ [⟨begun, some task⟩] } : Facade).goTo v
        (.founded cause ⟨f.sessions.length, begun, lines⟩)))
    (fail : ∀ cause session error, v.stand = .starting cause session →
      session.begin f.endpoint [v.subscription] = .error error →
      P (f.leave v (some cause) (.error error)))
    (found : ∀ cause staging, v.stand = .founded cause staging →
      P ({ f with slot? := some staging.place }.leave v (some cause) (.ok staging)))
    (done : ∀ staging, v.stand = .kept staging → P (f.leave v none (.ok staging))) :
    P (f.advanceFrom v v.stand) := by
  cases hstand : v.stand with
  | looking l =>
    show P (f.look v l)
    unfold look
    cases hc : f.current? with
    | none => exact empty (Or.inr ⟨l, hstand⟩) hc
    | some current =>
      dsimp only
      split_ifs with hpasses
      · exact pass l _ _ hstand hc hpasses
      · exact dead l _ _ hstand hc (Bool.not_eq_true _ ▸ hpasses)
  | staging =>
    show P (f.stage v)
    unfold stage
    cases hc : f.current? with
    | none => exact empty (Or.inl hstand) hc
    | some current =>
      obtain ⟨place, session⟩ := current
      have hkeep := keep place session hstand hc
      have hrefuse := refuse place session hstand hc
      dsimp only
      split
      · rename_i heq
        rw [heq] at hkeep
        exact hkeep rfl
      · rename_i heq
        rw [heq] at hrefuse
        exact hrefuse rfl
  | founding cause => exact make cause hstand
  | dialling cause session => exact dial cause session hstand
  | starting cause session =>
    show P (f.start v cause session)
    unfold Facade.start
    split
    · rename_i hbegin
      exact start cause session _ _ _ hstand hbegin
    · rename_i hbegin
      exact fail cause session _ hstand hbegin
  | founded cause staging => exact found cause staging hstand
  | kept staging => exact done staging hstand

end Facade

end MarketFeed
