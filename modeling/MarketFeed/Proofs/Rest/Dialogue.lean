import Mathlib.Data.List.Basic
import MarketFeed.Rest.Envelope

/-!
# Held dialogues

What comes of a dialogue that is held against a partner, put together from what comes of its parts.
`Calling.Returns` is the good end of a call: its result, the partner's state and the queries.
`Dialogue.Proceeds` says of which kind the queries of a dialogue are, and that the first refusal ends
it.
-/

namespace MarketFeed

variable {σ α β : Type} {answer : σ → Query → Answer × σ}

theorem Dialogue.run_bind {s s' s'' : σ} {x : Dialogue α} {f : α → Dialogue β} {a : α} {b : β}
    {qs qs' : List Query} (hx : x.run answer s = (a, s', qs))
    (hf : (f a).run answer s' = (b, s'', qs')) : (x >>= f).run answer s = (b, s'', qs ++ qs') := by
  induction x generalizing s qs with
  | done a' =>
    obtain ⟨rfl, rfl, rfl⟩ : a' = a ∧ s = s' ∧ [] = qs := by simpa [Dialogue.run] using hx
    exact hf
  | ask q next ih =>
    obtain ⟨ha, hs, rfl⟩ : _ = a ∧ _ = s' ∧ q :: _ = qs := by simpa [Dialogue.run] using hx
    have hrest := ih (answer s q).1 (s := (answer s q).2) (by rw [← ha, ← hs])
    show Dialogue.run answer s (.ask q fun v => next v >>= f) = _
    simp only [Dialogue.run, hrest, List.cons_append]

namespace Calling

/-- A call returns a value, leaves its partner in a state, and has asked some queries. -/
def Returns (answer : σ → Query → Answer × σ) (s : σ) (x : Calling α) (a : α) (s' : σ)
    (qs : List Query) : Prop :=
  Dialogue.run answer s x.run = (.ok a, s', qs)

theorem returns_pure (s : σ) (a : α) : Returns answer s (pure a) a s [] := rfl

theorem Returns.bind {s s' s'' : σ} {x : Calling α} {f : α → Calling β} {a : α} {b : β}
    {qs qs' : List Query} (hx : Returns answer s x a s' qs) (hf : Returns answer s' (f a) b s'' qs') :
    Returns answer s (x >>= f) b s'' (qs ++ qs') := by
  unfold Returns at hx hf ⊢
  rw [ExceptT.run_bind]
  exact Dialogue.run_bind hx hf

/-- A fetch is one query, and what comes of it is in the answer. -/
theorem fetch_eq (c : Codec α) (endpoint : String) (params : List (String × String))
    (authenticated : Bool) :
    fetch c endpoint params authenticated =
      ExceptT.mk (.ask ⟨endpoint, params, authenticated⟩ fun v =>
        .done (v.bind (Envelope.unwrap c))) := by
  have hnext : (fun v : Answer =>
      (ExceptT.bindCont (fun v => liftM (Envelope.unwrap c v)) v : Dialogue (Except FeedError α))) =
      fun v => .done (v.bind (Envelope.unwrap c)) := by
    funext v
    cases v <;> rfl
  exact congrArg (fun next => ExceptT.mk (Dialogue.ask ⟨endpoint, params, authenticated⟩ next)) hnext

theorem run_fetch (c : Codec α) (endpoint : String) (params : List (String × String))
    (authenticated : Bool) (s : σ) :
    Dialogue.run answer s (fetch c endpoint params authenticated).run =
      ((answer s ⟨endpoint, params, authenticated⟩).1.bind (Envelope.unwrap c),
        (answer s ⟨endpoint, params, authenticated⟩).2, [⟨endpoint, params, authenticated⟩]) := by
  rw [fetch_eq]
  rfl

/-- What is made of the value of a call asks nothing more. -/
theorem run_map (x : Calling α) (f : α → β) (s : σ) :
    Dialogue.run answer s (do return f (← x) : Calling β).run =
      ((Dialogue.run answer s x.run).1.map f, (Dialogue.run answer s x.run).2) := by
  rw [ExceptT.run_bind, Dialogue.run_bind rfl rfl]
  cases (Dialogue.run answer s x.run).1 <;>
    exact Prod.ext rfl (Prod.ext rfl (List.append_nil _))

/-- A query whose answer is read is the whole of what is asked. -/
theorem returns_fetch {c : Codec α} {endpoint : String} {params : List (String × String)}
    {authenticated : Bool} {s : σ} {v : Json} {a : α}
    (hv : (answer s ⟨endpoint, params, authenticated⟩).1 = .ok v)
    (ha : Envelope.unwrap c v = .ok a) :
    Returns answer s (fetch c endpoint params authenticated) a
      (answer s ⟨endpoint, params, authenticated⟩).2 [⟨endpoint, params, authenticated⟩] := by
  rw [Returns, run_fetch, hv]
  exact congrArg (·, _) ha

end Calling

/-- The data of a good answer are read by the codec. -/
theorem Envelope.unwrap_ok {c : Codec α} {v data : Json} {msg : String} {a : α}
    (hv : Envelope.codec.read v = .ok ⟨"0", msg, data⟩) (ha : c.read data = .ok a) :
    Envelope.unwrap c v = .ok a := by
  unfold Envelope.unwrap
  rw [hv]
  dsimp only
  rw [if_neg (by simp), ha]

/-! ## Kinds of queries, and refusals -/

/-- The queries of a dialogue, each with the state in which the partner hears it. -/
def Dialogue.heard (answer : σ → Query → Answer × σ) : σ → Dialogue α → List (σ × Query)
  | _, .done _ => []
  | s, .ask q next => (s, q) :: heard answer (answer s q).2 (next (answer s q).1)

theorem Dialogue.heard_bind (answer : σ → Query → Answer × σ) (s : σ) (x : Dialogue α)
    (f : α → Dialogue β) :
    (x >>= f).heard answer s =
      x.heard answer s ++ (f (x.run answer s).1).heard answer (x.run answer s).2.1 := by
  induction x generalizing s with
  | done a => rfl
  | ask q next ih =>
    show (s, q) :: Dialogue.heard answer _ (next (answer s q).1 >>= f) = _
    rw [ih]
    rfl

theorem Calling.heard_map (x : Calling α) (f : α → β) (s : σ) :
    Dialogue.heard answer s (do return f (← x) : Calling β).run = Dialogue.heard answer s x.run := by
  rw [ExceptT.run_bind, Dialogue.heard_bind]
  cases (Dialogue.run answer s x.run).1 <;> exact List.append_nil _

/-- Nothing is read from an answer: whatever is looked for in it, the outcome is this error. -/
def Refused (v : Answer) (e : FeedError) : Prop :=
  ∀ (α : Type) (c : Codec α), v.bind (Envelope.unwrap c) = .error e

theorem refused_error (e : FeedError) : Refused (.error e) e := fun _ _ => rfl

/-- An envelope with another code than that of success is refused, whatever its data. -/
theorem refused_envelope {v data : Json} {code msg : String}
    (hv : Envelope.codec.read v = .ok ⟨code, msg, data⟩) (hcode : code ≠ "0") :
    Refused (.ok v) (Envelope.error code msg) := by
  intro α c
  show Envelope.unwrap c v = _
  unfold Envelope.unwrap
  rw [hv]
  exact if_pos hcode

/-- All queries of a dialogue are of a kind, and the first refusal ends it, with what `fails` makes of
the error. -/
inductive Dialogue.Proceeds (asked : Query → Prop) (fails : FeedError → α) : Dialogue α → Prop
  | done (a : α) : Proceeds asked fails (.done a)
  | ask {q : Query} {next : Answer → Dialogue α} (hasked : asked q)
      (hfails : ∀ v e, Refused v e → next v = .done (fails e))
      (hnext : ∀ v, Proceeds asked fails (next v)) : Proceeds asked fails (.ask q next)

namespace Dialogue.Proceeds

variable {asked : Query → Prop} {fails : FeedError → α} {d : Dialogue α}

theorem bind {x : Dialogue β} {failed : FeedError → β} {f : β → Dialogue α}
    (hx : Proceeds asked failed x) (hfails : ∀ e, f (failed e) = .done (fails e))
    (hf : ∀ b, Proceeds asked fails (f b)) : Proceeds asked fails (x >>= f) := by
  induction hx with
  | done b => exact hf b
  | ask hasked hrefused _ ih =>
    refine .ask hasked (fun v e he => ?_) ih
    rw [hrefused v e he]
    exact hfails e

theorem of_mem_heard (h : Proceeds asked fails d) {s : σ} {x : σ × Query}
    (hx : x ∈ d.heard answer s) : asked x.2 := by
  induction h generalizing s with
  | done a => cases hx
  | ask hasked _ _ ih =>
    rcases List.mem_cons.mp hx with rfl | hx
    · exact hasked
    · exact ih _ hx

/-- A refusal is what the dialogue ends with. -/
theorem run_of_refused (h : Proceeds asked fails d) {s : σ} {x : σ × Query}
    (hx : x ∈ d.heard answer s) {e : FeedError} (he : Refused (answer x.1 x.2).1 e) :
    (d.run answer s).1 = fails e := by
  induction h generalizing s with
  | done a => cases hx
  | ask _ hrefused _ ih =>
    rcases List.mem_cons.mp hx with rfl | hx
    · simp only [run, hrefused _ e he]
    · exact ih _ hx

/-- Partners that answer alike what is asked hear the same and lead to the same. -/
theorem run_congr (h : Proceeds asked fails d) {answer' : σ → Query → Answer × σ}
    (hsame : ∀ s q, asked q → answer s q = answer' s q) (s : σ) :
    d.run answer s = d.run answer' s ∧ d.heard answer s = d.heard answer' s := by
  induction h generalizing s with
  | done a => exact ⟨rfl, rfl⟩
  | @ask q next hasked _ _ ih =>
    obtain ⟨hrun, hheard⟩ := ih (answer' s q).1 (answer' s q).2
    simp only [run, heard, hsame s q hasked, hrun, hheard, and_self]

end Dialogue.Proceeds

namespace Calling

variable {asked : Query → Prop}

/-- All queries of a call are of a kind, and the first refusal ends it with its error. -/
def Proceeds (asked : Query → Prop) (x : Calling α) : Prop :=
  Dialogue.Proceeds asked (.error : FeedError → Except FeedError α) x.run

theorem proceeds_pure (a : α) : Proceeds asked (pure a) := .done _

theorem proceeds_throw (e : FeedError) : Proceeds asked (throw e : Calling α) := .done _

theorem Proceeds.bind {x : Calling α} {f : α → Calling β} (hx : Proceeds asked x)
    (hf : ∀ a, Proceeds asked (f a)) : Proceeds asked (x >>= f) := by
  refine Dialogue.Proceeds.bind hx (fun e => rfl) fun r => ?_
  cases r with
  | ok a => exact hf a
  | error e => exact .done _

theorem proceeds_fetch (c : Codec α) {endpoint : String} {params : List (String × String)}
    {authenticated : Bool} (hasked : asked ⟨endpoint, params, authenticated⟩) :
    Proceeds asked (fetch c endpoint params authenticated) := by
  rw [Proceeds, fetch_eq]
  refine .ask hasked (fun v e he => ?_) fun v => .done _
  rw [he α c]

theorem proceeds_first (what : String) (items : List α) : Proceeds asked (first what items) := by
  cases items with
  | nil => exact proceeds_throw _
  | cons a rest => exact proceeds_pure a

end Calling

end MarketFeed
