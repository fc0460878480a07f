import MarketFeed.Proofs.Feed.Visit
import MarketFeed.Proofs.Session.Delivery

/-!
# What a feed delivers

Along a run of a facade its tasks take frames, of all sessions in one order, and deliver the data in
them (`deliveredOf_eq`).
-/

namespace MarketFeed.Facade

open Trace

/-- The frame that a task takes at an event. -/
def heard (f : Facade) : Event → List Frame
  | .move place m => (f.sessions[place]?.map (·.heard m)).getD []
  | _ => []

/-- The data that a task delivers at an event. -/
def delivered (f : Facade) : Event → List DataEvent
  | .move place m => (f.sessions[place]?.map fun sc => deliveries (sc.effects m)).getD []
  | _ => []

/-- The data that tasks deliver along a run, in order. -/
def deliveredOf (f : Facade) (events : List Event) : List DataEvent :=
  collect next delivered f events

theorem delivered_eq (f : Facade) (e : Event) :
    f.delivered e = (f.heard e).filterMap Frame.event? := by
  cases e with
  | enter s => rfl
  | advance => rfl
  | move place m =>
    rw [delivered, heard]
    cases f.sessions[place]? with
    | none => rfl
    | some sc => exact sc.deliveries_effects m

theorem deliveredOf_append (f : Facade) (events events' : List Event) :
    f.deliveredOf (events ++ events') = f.deliveredOf events ++ (f.play events).deliveredOf events' :=
  collect_append _ _ _ _

/-- Callers deliver nothing. -/
theorem delivered_call (f : Facade) (place : Nat) (c : Call) :
    f.delivered (.move place (.call c)) = [] := by
  rw [delivered_eq, heard]
  cases f.sessions[place]? <;> rfl

theorem deliveredOf_visit (f : Facade) (s : Subscription) (n : Nat) :
    f.deliveredOf (.enter s :: List.replicate n .advance) = [] := by
  have hadvance : ∀ f : Facade, f.deliveredOf (List.replicate n .advance) = [] := by
    induction n with
    | zero => exact fun _ => rfl
    | succ n ih => exact fun f => ih (f.next .advance)
  exact hadvance (f.next (.enter s))

end MarketFeed.Facade
