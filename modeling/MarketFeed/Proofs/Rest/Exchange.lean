import MarketFeed.Http.Loopback
import MarketFeed.Proofs.Rest.Method

/-!
# Calls over the network

A call is a dialogue, and a client answers its queries with requests to a server. The server may
change with every request that it hears. `Client.make` is what comes of a call; `Client.Gets` says
which reply the client reads for a query, wherever earlier replies sent it.
-/

namespace MarketFeed

open Rest

/-- A server whose answers change with the requests that it hears. -/
structure Server (σ : Type) where
  network : σ → Client.Network
  hear : σ → Request → σ

namespace Client

variable {σ α : Type} (c : Client) (clock : σ → Nat) (server : Server σ)

/-- What a query brings, and the requests that go out for it. -/
def exchange (s : σ) (q : Query) : Answer × List Request :=
  c.perform (clock s) (server.network s) (.ofQuery q)

def answer (s : σ) (q : Query) : Answer × σ :=
  ((c.exchange clock server s q).1, (c.exchange clock server s q).2.foldl server.hear s)

/-- The requests that go out in a dialogue, in their order. -/
def sent (s : σ) (d : Dialogue α) : List Request :=
  (d.heard (c.answer clock server) s).flatMap fun x => (c.exchange clock server x.1 x.2).2

/-- What comes of a call, and the requests that went out for it. -/
structure Outcome (σ α : Type) where
  result : Except FeedError α
  cache : InstrumentCache
  server : σ
  requests : List Request

/-- Make a call over the network. -/
def make (m : Method α) (cache : InstrumentCache) (s : σ) : Outcome σ α :=
  let run := (m.dialogue cache).run (c.answer clock server) s
  ⟨run.1.1, run.1.2, run.2.1, c.sent clock server s (m.dialogue cache)⟩

/-! ## Replies -/

/-- A reply to a request, or to one that replies before it sent the client on to. -/
inductive Replied (network : Network) : Nat → Request → Received → Prop
  | here {hops : Nat} {request : Request} {bytes : List UInt8} {opened : OpenReply} {reply : Received}
      (hsent : network request = .ok bytes) (hread : OpenReply.read bytes = .ok opened)
      (hstays : opened.location? request.url = none) (hbody : opened.finish = .ok reply) :
      Replied network hops request reply
  | elsewhere {hops : Nat} {request : Request} {bytes : List UInt8} {opened : OpenReply}
      {reply : Received} {url : Url}
      (hsent : network request = .ok bytes) (hread : OpenReply.read bytes = .ok opened)
      (hgoes : opened.location? request.url = some url) (hask : isAskable url = true)
      (hthere : Replied network hops (request.toward opened.head.status url) reply) :
      Replied network (hops + 1) request reply

theorem Replied.pursue_eq {network : Network} {hops : Nat} {request : Request} {reply : Received}
    (h : Replied network hops request reply) : (pursue network hops request).1 = receive reply := by
  induction h with
  | here hsent hread hstays hbody =>
    unfold pursue
    simp only [hsent, hread, hstays, conclude, hbody]
  | elsewhere hsent hread hgoes hask _ ih =>
    unfold pursue
    simp only [hsent, hread, hgoes, hask, if_true, ih]

/-- The reply that the client reads for a query. -/
def Gets (now : Nat) (network : Network) (q : Query) (reply : Received) : Prop :=
  ∃ request, c.prepare now (.ofQuery q) = .ok request ∧ Replied network maxRedirects request reply

variable {c clock server}

theorem Gets.exchange_eq {s : σ} {q : Query} {reply : Received}
    (h : c.Gets (clock s) (server.network s) q reply) :
    (c.exchange clock server s q).1 = receive reply := by
  obtain ⟨request, hprepare, hreplied⟩ := h
  unfold exchange perform
  rw [hprepare]
  exact hreplied.pursue_eq

/-- A reply from which nothing can be read is what the call ends with. -/
theorem result_of_refused {m : Method α} {cache : InstrumentCache} {s s' : σ} {q : Query}
    {reply : Received} (hheard : (s', q) ∈ (m.dialogue cache).heard (c.answer clock server) s)
    (hreply : c.Gets (clock s') (server.network s') q reply) {e : FeedError}
    (he : Refused (receive reply) e) : (c.make clock server m cache s).result = .error e := by
  have hrefused : Refused (c.answer clock server s' q).1 e := by
    rw [answer, hreply.exchange_eq]
    exact he
  have hrun := (m.proceeds cache).run_of_refused hheard hrefused
  exact congrArg Prod.fst hrun

end Client

/-! ## A server that gives one answer -/

namespace Loopback

/-- What a loopback server has heard is the requests that have reached it. -/
def server (l : Loopback) : Server (List Request) where
  network _ := l.network
  hear seen request := if isReached request then seen ++ [request] else seen

theorem foldl_hear (l : Loopback) (seen requests : List Request) :
    requests.foldl l.server.hear seen = seen ++ requests.filter isReached := by
  induction requests generalizing seen with
  | nil => simp
  | cons request rest ih =>
    rw [List.foldl_cons, ih, server]
    dsimp only
    split_ifs with h <;> simp [h]

theorem converse_eq {α : Type} (l : Loopback) (c : Client) (now : Nat) (d : Dialogue α) :
    l.converse c now d =
      ((d.run (c.answer (fun _ => now) l.server) []).1,
        (d.run (c.answer (fun _ => now) l.server) []).2.1) := by
  have hanswer : (fun (seen : List Request) (q : Query) =>
      ((l.perform c now (.ofQuery q)).1, seen ++ (l.perform c now (.ofQuery q)).2)) =
      c.answer (fun _ => now) l.server := by
    funext seen q
    rw [Client.answer, foldl_hear]
    rfl
  rw [← hanswer]
  rfl

end Loopback

end MarketFeed
