import MarketFeed.Proofs.Json.Fields
import MarketFeed.Proofs.Number.Integer
import MarketFeed.Proofs.Rest.Exchange

/-!
# Refusals by family

The exchange refuses with an envelope whose code is not that of success. In a reply with a status of
success, the number that the code stands for decides which error is reported; in any other reply the
status decides, whatever the envelope says (`refusal_reported`).
-/

namespace MarketFeed

namespace Envelope

/-! ## The number of a code -/

def FitsInt32 (n : Int) : Prop := -2147483648 ≤ n ∧ n ≤ 2147483647

/-- A code stands for the number that it spells, if that has 32 bits, and else for -1. -/
def StandsFor (code : String) (n : Int) : Prop :=
  (Integer.Spells code.toList n ∧ FitsInt32 n) ∨
    n = -1 ∧ ∀ k, Integer.Spells code.toList k → ¬FitsInt32 k

theorem readInt32_eq_ok_iff (code : String) (n : Int) :
    Integer.readInt32 code = .ok n ↔ Integer.Spells code.toList n ∧ FitsInt32 n := by
  rw [Integer.readInt32, Integer.read_eq_ok_iff (by decide) (by decide), FitsInt32]

/-- Every code stands for one number. -/
theorem standsFor_iff {code : String} {n : Int} : StandsFor code n ↔ n = codeNumber code := by
  unfold StandsFor codeNumber
  cases hread : Integer.readInt32 code with
  | error fault =>
    have hnone : ∀ k, Integer.Spells code.toList k → ¬FitsInt32 k := by
      intro k hspells hfits
      rw [(readInt32_eq_ok_iff code k).mpr ⟨hspells, hfits⟩] at hread
      cases hread
    constructor
    · rintro (⟨hspells, hfits⟩ | ⟨h, -⟩)
      · exact absurd hfits (hnone n hspells)
      · exact h
    · exact fun h => .inr ⟨h, hnone⟩
  | ok k =>
    obtain ⟨hspells, hfits⟩ := (readInt32_eq_ok_iff code k).mp hread
    constructor
    · rintro (h | ⟨-, hnone⟩)
      · rw [(readInt32_eq_ok_iff code n).mpr h] at hread
        exact Except.ok.inj hread
      · exact absurd hfits (hnone k hspells)
    · rintro rfl
      exact .inl ⟨hspells, hfits⟩

/-! ## Families -/

def IsRateLimit (n : Int) : Prop := n = 50011 ∨ n = 50061

def IsAuth (n : Int) : Prop := 50100 ≤ n ∧ n ≤ 50119

def IsServer (n : Int) : Prop := n = 50001 ∨ n = 50004 ∨ n = 50013 ∨ n = 50026

def IsParameters (n : Int) : Prop := 51000 ≤ n ∧ n ≤ 51099

/-- The error that a refusal is reported as. The family of its number decides the kind of error, and
the text quotes code and message. -/
inductive Reported (n : Int) (code msg : String) : FeedError → Prop
  | rateLimit (h : IsRateLimit n) :
    Reported n code msg (.rateLimit s!"OKX rate limit exceeded: {code} - {msg}")
  | auth (h : IsAuth n) : Reported n code msg (.auth s!"{code} - {msg}")
  | server (h : IsServer n) : Reported n code msg (.server s!"OKX server error: {code} - {msg}")
  | parameters (h : IsParameters n) :
    Reported n code msg (.invalidParameters s!"Invalid parameter: {code} - {msg}")
  | other (hrate : ¬IsRateLimit n) (hauth : ¬IsAuth n) (hserver : ¬IsServer n)
      (hparameters : ¬IsParameters n) : Reported n code msg (.api n msg)

theorem reported_error (code msg : String) :
    Reported (codeNumber code) code msg (Envelope.error code msg) := by
  unfold Envelope.error
  dsimp only
  split_ifs with hrate hauth hserver hparameters
  · exact .rateLimit hrate
  · exact .auth hauth
  · exact .server hserver
  · exact .parameters hparameters
  · exact .other hrate hauth hserver hparameters

/-- The families have no number in common. -/
theorem Reported.unique {n : Int} {code msg : String} {e e' : FeedError}
    (h : Reported n code msg e) (h' : Reported n code msg e') : e = e' := by
  have hrate : IsRateLimit n → ¬IsAuth n ∧ ¬IsServer n ∧ ¬IsParameters n := by
    unfold IsRateLimit IsAuth IsServer IsParameters
    omega
  have hauth : IsAuth n → ¬IsServer n ∧ ¬IsParameters n := by
    unfold IsAuth IsServer IsParameters
    omega
  have hserver : IsServer n → ¬IsParameters n := by
    unfold IsServer IsParameters
    omega
  cases h <;> cases h' <;> first | rfl | tauto

theorem reported_iff (code msg : String) (e : FeedError) :
    Reported (codeNumber code) code msg e ↔ e = Envelope.error code msg := by
  constructor
  · exact fun h => h.unique (reported_error code msg)
  · rintro rfl
    exact reported_error code msg

/-! ## Envelopes in a text -/

/-- A text is an object with a code and a message; what else it holds does not matter. -/
def IsIn (text code msg : String) : Prop :=
  ∃ v, Json.parse text = some v ∧ v.field? "code" = some (.str code) ∧
    v.field? "msg" = some (.str msg)

theorem put_entry {code msg : String} (name : String) (v : Json)
    (hcode : name = "code" → v = .str code) (hmsg : name = "msg" → v = .str msg)
    (code? msg? : Option String) (data? : Option Json) :
    Slots.put name v schema.fields (code?, msg?, data?, ()) = .ok
      (if name = "code" then some code else code?, if name = "msg" then some msg else msg?,
        if name = "data" then some v else data?, ()) := by
  by_cases h1 : name = "code"
  · subst h1
    obtain rfl := hcode rfl
    rfl
  by_cases h2 : name = "msg"
  · subst h2
    obtain rfl := hmsg rfl
    rfl
  by_cases h3 : name = "data"
  · subst h3
    rfl
  · simp [Slots.put, schema, Field.required, Field.withDefault, h1, h2, h3, Ne.symm h1,
      Ne.symm h2, Ne.symm h3, bind, Except.bind]

/-- A place that an entry has filled, or that a later one fills. -/
theorem filled_or_follows {name place text : String} {v : Json} {slot? : Option String}
    {rest : List (String × Json)} (h : slot? = some text ∨ (place, .str text) ∈ (name, v) :: rest) :
    (if name = place then some text else slot?) = some text ∨ (place, .str text) ∈ rest := by
  by_cases hname : name = place
  · exact .inl (if_pos hname)
  · rw [if_neg hname]
    simpa [Ne.symm hname] using h

/-- Entries fill the places of code and message if the entries of these names are texts, and each of
the two places is filled already or has an entry. -/
theorem putAll_entries {code msg : String} {entries : List (String × Json)}
    (hcode : ∀ v, ("code", v) ∈ entries → v = .str code)
    (hmsg : ∀ v, ("msg", v) ∈ entries → v = .str msg) {code? msg? : Option String}
    (hcode? : code? = some code ∨ ("code", .str code) ∈ entries)
    (hmsg? : msg? = some msg ∨ ("msg", .str msg) ∈ entries) (data? : Option Json) :
    ∃ data?', Slots.putAll schema.fields (code?, msg?, data?, ()) entries =
      .ok (some code, some msg, data?', ()) := by
  induction entries generalizing code? msg? data? with
  | nil =>
    obtain rfl : code? = some code := by simpa using hcode?
    obtain rfl : msg? = some msg := by simpa using hmsg?
    exact ⟨data?, rfl⟩
  | cons entry rest ih =>
    obtain ⟨name, v⟩ := entry
    have hput := put_entry name v (fun h => hcode v (by simp [h])) (fun h => hmsg v (by simp [h]))
      code? msg? data?
    obtain ⟨data?', hrest⟩ := ih (fun v hv => hcode v (List.mem_cons_of_mem _ hv))
      (fun v hv => hmsg v (List.mem_cons_of_mem _ hv)) (filled_or_follows hcode?)
      (filled_or_follows hmsg?) (if name = "data" then some v else data?)
    exact ⟨data?', (congrArg (Except.bind · (Slots.putAll schema.fields · rest)) hput).trans hrest⟩

/-- The envelope in a text is read, whatever its data. -/
theorem IsIn.read {text code msg : String} (h : IsIn text code msg) :
    ∃ v data, Json.parse text = some v ∧ codec.read v = .ok ⟨code, msg, data⟩ := by
  obtain ⟨v, hparse, hcode, hmsg⟩ := h
  obtain ⟨fields, rfl⟩ : ∃ fields, v = .obj fields := by
    cases v with
    | obj fields => exact ⟨fields, rfl⟩
    | _ => cases hcode
  have hordered := Json.isOrdered_of_parse hparse
  have hcode := Json.mem_of_field? hcode
  have hmsg := Json.mem_of_field? hmsg
  obtain ⟨data?, hput⟩ : ∃ data?, Slots.putAll schema.fields (none, none, none, ()) fields =
      .ok (some code, some msg, data?, ()) :=
    putAll_entries (fun v hv => Json.eq_of_mem_fields hordered hv hcode)
      (fun v hv => Json.eq_of_mem_fields hordered hv hmsg) (.inr hcode) (.inr hmsg) none
  refine ⟨.obj fields, data?.getD .null, hparse, ?_⟩
  have hread : schema.readObject fields = .ok (code, msg, data?.getD .null, ()) := by
    refine (congrArg (Except.bind · (Slots.complete schema.fields ·)) hput).trans ?_
    cases data? <;> rfl
  show (schema.readObject fields).map _ = _
  rw [hread]
  rfl

end Envelope

namespace Client

/-- In a reply with a status of success, an envelope that refuses is what the reply comes to. -/
theorem refused_of_success {reply : Received} (hstatus : reply.status / 100 = 2) {code msg : String}
    (henvelope : Envelope.IsIn reply.text code msg) (hcode : code ≠ "0") :
    Refused (receive reply) (Envelope.error code msg) := by
  obtain ⟨v, data, hparse, hread⟩ := henvelope.read
  have hreceive : receive reply = .ok v := by
    unfold receive
    simp only [hparse]
    rw [if_neg (by omega), if_pos hstatus]
  rw [hreceive]
  exact refused_envelope hread hcode

/-- What a reply without a status of success comes to. -/
def statusError (reply : Received) : FeedError :=
  if reply.status / 100 = 5 then .server s!"HTTP {reply.status}: {reply.text}"
  else .api reply.status reply.text

theorem receive_eq_statusError {reply : Received} (hlimit : reply.status ≠ 429)
    (hstatus : reply.status / 100 ≠ 2) : receive reply = .error (statusError reply) := by
  unfold receive statusError
  dsimp only
  rw [if_neg hlimit, if_neg hstatus]
  split_ifs <;> rfl

end Client

namespace Rest

open Client

/-- **A refusal is reported by its family.** Take any call, and any reply that the client reads for one
of its queries.

* The status is one of success, and the text is an envelope with another code than that of success:
  then the call fails, with the error of the family in which the number of the code lies, whatever the
  data of the envelope.
* The status is neither one of success nor 429: then the call fails with an error that holds the status
  and the text, whatever the text is. -/
theorem refusal_reported {σ α : Type} (c : Client) (clock : σ → Nat) (server : Server σ) (m : Method α)
    (cache : InstrumentCache) (s s' : σ) (q : Query) (reply : Received)
    (hheard : (s', q) ∈ (m.dialogue cache).heard (c.answer clock server) s)
    (hreply : c.Gets (clock s') (server.network s') q reply) :
    (reply.status / 100 = 2 → ∀ code msg, Envelope.IsIn reply.text code msg → code ≠ "0" →
      ∃ n e, Envelope.StandsFor code n ∧ (c.make clock server m cache s).result = .error e ∧
        ∀ e', Envelope.Reported n code msg e' ↔ e' = e) ∧
    (reply.status / 100 ≠ 2 → reply.status ≠ 429 →
      (c.make clock server m cache s).result =
        .error (if reply.status / 100 = 5 then .server s!"HTTP {reply.status}: {reply.text}"
          else .api reply.status reply.text)) := by
  constructor
  · intro hstatus code msg henvelope hcode
    have hrefused := refused_of_success hstatus henvelope hcode
    exact ⟨_, _, Envelope.standsFor_iff.mpr rfl, result_of_refused hheard hreply hrefused,
      Envelope.reported_iff code msg⟩
  · intro hstatus hlimit
    refine result_of_refused hheard hreply ?_
    rw [receive_eq_statusError hlimit hstatus]
    exact refused_error _

/-! ## A limit that was reached -/

/-- A client of a loopback server. -/
def plainClient : Client := ⟨.new Loopback.baseUrl "okx", none⟩

/-- The envelope of a limit that was reached, with data that are none. -/
def refusal : String := "\x7b\"code\":\"50011\",\"msg\":\"slow\",\"data\":7\x7d"

def refusing (status : Nat) : Received := ⟨⟨status, Utf8.encode refusal⟩, .utf8⟩

/-- A server that refuses every request, with a status. -/
def refuser (status : Nat) : Loopback := ⟨(refusing status).write 0⟩

def timeQuery : Query := ⟨"/api/v5/public/time", [], false⟩

theorem text_refusing (status : Nat) : (refusing status).text = refusal := by
  show Utf8.decodeLossy (Utf8.encode refusal) = refusal
  rfl

theorem isIn_refusal (status : Nat) : Envelope.IsIn (refusing status).text "50011" "slow" := by
  rw [text_refusing]
  exact ⟨.obj [("code", .str "50011"), ("data", .int 7), ("msg", .str "slow")], rfl, rfl, rfl⟩

theorem standsFor_refusal : Envelope.StandsFor "50011" 50011 := by
  have hdigits : Integer.AreDigits "50011".toList :=
    ⟨by decide, List.all_eq_true.mp (by decide)⟩
  exact .inl ⟨.plain hdigits, by decide, by decide⟩

theorem gets_refusal {status : Nat} (h : status = 200 ∨ status = 400) :
    plainClient.Gets 0 (refuser status).network timeQuery (refusing status) := by
  have hprepare : plainClient.prepare 0 (.ofQuery timeQuery) =
      .ok ⟨"GET", ⟨"http", none, "127.0.0.1", some 8080, "/api/v5/public/time".toList, none, none⟩,
        [("user-agent", "okx-stream/0.1")], []⟩ := rfl
  have hread : OpenReply.read (refuser status).answer =
      .ok ⟨⟨1, status, [("content-length".toList, [0x33, 0x38])]⟩, .length 38,
        (refusing status).body⟩ := by
    rcases h with rfl | rfl <;> rfl
  refine ⟨_, hprepare, .here rfl hread ?_ rfl⟩
  rcases h with rfl | rfl <;> rfl

theorem heard_timeQuery (status : Nat) :
    ([], timeQuery) ∈ (Method.systemTime.dialogue []).heard
      (plainClient.answer (fun _ => 0) (refuser status).server) [] :=
  List.mem_cons_self

/-- With a status of success, the limit is reported as one that was reached. -/
theorem limit_reported :
    ([], timeQuery) ∈ (Method.systemTime.dialogue []).heard
      (plainClient.answer (fun _ => 0) (refuser 200).server) [] ∧
    plainClient.Gets 0 ((refuser 200).server.network []) timeQuery (refusing 200) ∧
    ∃ e, (plainClient.make (fun _ => 0) (refuser 200).server Method.systemTime [] []).result =
        .error e ∧ ∀ e', Envelope.Reported 50011 "50011" "slow" e' ↔ e' = e := by
  have hgets := gets_refusal (.inl rfl)
  obtain ⟨hsuccess, -⟩ := refusal_reported plainClient (fun _ => 0) (refuser 200).server
    Method.systemTime [] [] [] timeQuery (refusing 200) (heard_timeQuery 200) hgets
  obtain ⟨n, e, hn, hresult, hreported⟩ :=
    hsuccess rfl "50011" "slow" (isIn_refusal 200) (by decide)
  obtain rfl : n = 50011 :=
    (Envelope.standsFor_iff.mp hn).trans (Envelope.standsFor_iff.mp standsFor_refusal).symm
  exact ⟨heard_timeQuery 200, hgets, e, hresult, hreported⟩

/-- The same envelope with the status 400 is reported by the status, and by no family. -/
theorem limit_hidden_by_status :
    (refusing 400).status ≠ 429 ∧ Envelope.IsIn (refusing 400).text "50011" "slow" ∧
    Envelope.StandsFor "50011" 50011 ∧
    ([], timeQuery) ∈ (Method.systemTime.dialogue []).heard
      (plainClient.answer (fun _ => 0) (refuser 400).server) [] ∧
    plainClient.Gets 0 ((refuser 400).server.network []) timeQuery (refusing 400) ∧
    (plainClient.make (fun _ => 0) (refuser 400).server Method.systemTime [] []).result =
      .error (.api 400 refusal) ∧
    ¬Envelope.Reported 50011 "50011" "slow" (.api 400 refusal) := by
  have hgets := gets_refusal (.inr rfl)
  have hreceive : receive (refusing 400) = .error (.api 400 refusal) := by
    rw [receive_eq_statusError (by decide) (by decide), statusError, text_refusing]
    rfl
  have hresult := result_of_refused (heard_timeQuery 400) hgets (e := .api 400 refusal)
    (hreceive ▸ refused_error _)
  refine ⟨by decide, isIn_refusal 400, standsFor_refusal, heard_timeQuery 400, hgets, hresult, ?_⟩
  intro h
  have hlimit := h.unique (.rateLimit (.inl rfl))
  cases hlimit

end Rest

end MarketFeed
