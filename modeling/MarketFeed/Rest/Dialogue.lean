import MarketFeed.Error
import MarketFeed.Json.Basic

/-!
# Dialogues

A call to the exchange as a dialogue: it ends with a result, or it asks a query and goes on with the
answer. `Dialogue.run` holds it against anything that answers queries.
-/

namespace MarketFeed

/-- A question to the exchange. -/
structure Query where
  endpoint : String
  params : List (String × String)
  /-- Whether the question has to be signed. -/
  authenticated : Bool
  deriving DecidableEq, Repr

abbrev Answer := Except FeedError Json

/-- A result, or a query and how to go on with its answer. -/
inductive Dialogue (α : Type)
  | done (a : α)
  | ask (q : Query) (next : Answer → Dialogue α)

namespace Dialogue

def bind {α β : Type} : Dialogue α → (α → Dialogue β) → Dialogue β
  | .done a, f => f a
  | .ask q next, f => .ask q fun answer => (next answer).bind f

instance : Monad Dialogue where
  pure := .done
  bind := bind

/-- Hold a dialogue with a partner that has a state: the result, the state in the end, and the
queries in their order. -/
def run {σ α : Type} (answer : σ → Query → Answer × σ) : σ → Dialogue α → α × σ × List Query
  | s, .done a => (a, s, [])
  | s, .ask q next =>
    let (a, s) := answer s q
    let (r, s, qs) := run answer s (next a)
    (r, s, q :: qs)

end Dialogue

abbrev Calling (α : Type) := ExceptT FeedError Dialogue α

def Calling.ask (q : Query) : Calling Json := ExceptT.mk (.ask q .done)

end MarketFeed
