import MarketFeed.Market.Subscription

/-!
# The book of subscriptions

A session keeps the subscriptions that the exchange has confirmed, and those that wait to be
written, oldest first. The queue has a bound, and a retired book takes nothing more.
-/

namespace MarketFeed

/-- What became of a subscription that was to be staged. -/
inductive StageOutcome
  | staged
  | alreadyConfirmed
  | alreadyPending
  | queueFull
  /-- The book has retired. -/
  | closed
  deriving DecidableEq, Repr

/-- Confirmed subscriptions by their texts, and waiting ones. -/
structure Book where
  confirmed : List String
  pending : List Subscription
  capacity : Nat
  accepting : Bool
  deriving DecidableEq, Repr

namespace Book

/-- An empty book for at least one waiting subscription. -/
def new (capacity : Nat) : Book := ⟨[], [], max 1 capacity, true⟩

def isConfirmed (b : Book) (s : Subscription) : Bool := b.confirmed.contains s.canonical

def outcome (b : Book) (s : Subscription) : StageOutcome :=
  if !b.accepting then .closed
  else if b.isConfirmed s then .alreadyConfirmed
  else if b.pending.contains s then .alreadyPending
  else if b.capacity ≤ b.pending.length then .queueFull
  else .staged

/-- Let a subscription wait, unless it is known or there is no room. -/
def stage (b : Book) (s : Subscription) : Book × StageOutcome :=
  match b.outcome s with
  | .staged => ({ b with pending := b.pending ++ [s] }, .staged)
  | outcome => (b, outcome)

/-- Take all waiting subscriptions out, oldest first. -/
def take (b : Book) : Book × List Subscription := ({ b with pending := [] }, b.pending)

def hasPending (b : Book) : Bool := !b.pending.isEmpty

/-- Note that the exchange has confirmed a subscription. -/
def confirm (b : Book) (s : Subscription) : Book :=
  if b.isConfirmed s then b else { b with confirmed := b.confirmed ++ [s.canonical] }

/-- Note that the exchange has ended a subscription. -/
def remove (b : Book) (s : Subscription) : Book :=
  { b with confirmed := b.confirmed.filter (· != s.canonical) }

/-- Whether nothing is confirmed and nothing waits. -/
def isIdle (b : Book) : Bool := b.confirmed.isEmpty && b.pending.isEmpty

/-- Retire an idle book; whether the book has retired. -/
def retireIfIdle (b : Book) : Book × Bool :=
  let b := if b.accepting && b.isIdle then { b with accepting := false } else b
  (b, !b.accepting)

def retire (b : Book) : Book := { b with accepting := false, pending := [] }

end Book

end MarketFeed
