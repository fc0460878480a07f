import MarketFeed.Transport.LocalNetwork
import MarketFeed.Watch

/-!
# Watching over a network in memory

A watch whose sessions connect to the server of one network. Each session goes on with the network
as the session before has left it.
-/

namespace MarketFeed

/-- A watch, with the network that its first session finds. -/
structure LocalWatch where
  watch : Watch (NetworkLink LocalNetwork)
  fresh : LocalNetwork

namespace LocalWatch

def transport : Transport (NetworkLink LocalNetwork) := NetworkLink.transport LocalNetwork.network

/-- A watch over a network in which nothing has happened yet. -/
def new (settings : StreamConfig) (plan? : Option ServerPlan) : LocalWatch :=
  ⟨.new settings, .new plan?⟩

/-- The network as a task leaves it: one that is over holds nothing any more. -/
def networkAfter (r : Running (NetworkLink LocalNetwork)) : LocalNetwork :=
  if r.isOver then (r.link.reset LocalNetwork.network).world else r.link.world

def network (w : LocalWatch) : LocalNetwork :=
  match w.watch.feed.running? w.watch.feed.sessions.length with
  | some r => networkAfter r
  | none => w.fresh

def withNetwork (w : LocalWatch) (network : LocalNetwork) : LocalWatch :=
  let feed := w.watch.feed
  let feed := feed.changeLink feed.sessions.length (·.withWorld network)
  { w with watch := { w.watch with feed } }

def dial (w : LocalWatch) (_ : Nat) : Dial (NetworkLink LocalNetwork) := ⟨.new w.network, []⟩

def subscribe (w : LocalWatch) (s : Subscription) : Except FeedError LocalWatch :=
  (w.watch.subscribe w.dial s).map fun (watch, _) => { w with watch }

def close (w : LocalWatch) : LocalWatch :=
  { w with watch := { w.watch with feed := w.watch.feed.close } }

/-- Let everything run that can, and what the sessions log. -/
def settle (w : LocalWatch) : LocalWatch × List LogLine :=
  let (watch, notices, _) := w.watch.settle transport
  ({ w with watch }, notices.filterMap fun
    | .line l => some l
    | .data _ => none)

/-- The server sends frames, and everything runs that can. -/
def sendAll (w : LocalWatch) (frames : List Frame) : LocalWatch :=
  (w.withNetwork (frames.foldl LocalNetwork.send w.network)).settle.1

end LocalWatch

end MarketFeed
