import MarketFeed.Proofs.Rest.Exchange
import MarketFeed.Proofs.Rest.Signature
import MarketFeed.Setup

/-!
# Credentials on the wire

What a client asks without a signature does not depend on its credentials, and what it asks with one
goes out only if they are complete, and carries them (`credentials_on_signed_calls_only`).
-/

namespace MarketFeed

/-! ## Clients of an account -/

/-- Every setup makes a client, which signs if the account has all of its credentials. -/
theorem Setup.client_eq (s : Setup) :
    s.client = .ok ⟨s.clientConfig, s.apiKey?.map ApiKey.signer⟩ := by
  have hagent : isHeaderValue s.clientConfig.userAgent = true := by
    show isHeaderValue "okx-stream/0.1" = true
    decide
  unfold Setup.client Client.build
  rw [if_pos hagent]

theorem Setup.apiKey?_eq_none {s : Setup} (h : s.account.apiKey = "" ∨ s.account.secretKey = "" ∨
    s.account.passphrase = "") : s.apiKey? = none := by
  unfold Setup.apiKey?
  rw [if_neg]
  unfold Account.hasCredentials
  rcases h with h | h | h <;> simp [h]

theorem Setup.apiKey?_eq_some {s : Setup} (hkey : s.account.apiKey ≠ "")
    (hsecret : s.account.secretKey ≠ "") (hpassphrase : s.account.passphrase ≠ "") :
    s.apiKey? =
      some ⟨s.account.apiKey, s.account.secretKey, s.account.passphrase, s.account.testnet⟩ := by
  unfold Setup.apiKey?
  rw [if_pos]
  simp [Account.hasCredentials, hkey, hsecret, hpassphrase]

/-! ## Headers that stay -/

theorem lookup_filter_of_keeps {keep : String × String → Bool} {name : String}
    {headers : List (String × String)} (h : ∀ header ∈ headers, header.1 = name → keep header = true) :
    (headers.filter keep).lookup name = headers.lookup name := by
  induction headers with
  | nil => rfl
  | cons header rest ih =>
    obtain ⟨hheader, hrest⟩ := List.forall_mem_cons.mp h
    obtain ⟨key, value⟩ := header
    by_cases hkey : key = name
    · rw [List.filter_cons_of_pos (hheader hkey)]
      simp [hkey]
    · have hne : (name == key) = false := beq_false_of_ne (Ne.symm hkey)
      rw [List.lookup_cons, hne, ← ih hrest]
      by_cases hkeep : keep (key, value) = true
      · rw [List.filter_cons_of_pos hkeep, List.lookup_cons, hne]
      · rw [List.filter_cons_of_neg hkeep]

/-- The names of headers that a redirect may drop or set. -/
def Request.movedHeaders : List String := bodyHeaders ++ secretHeaders ++ ["referer"]

theorem Request.lookup_toward (r : Request) (status : Nat) (url : Url) {name : String}
    (hname : name ∉ movedHeaders) :
    (r.toward status url).headers.lookup name = r.headers.lookup name := by
  simp only [movedHeaders, List.mem_append, List.mem_singleton, not_or] at hname
  obtain ⟨⟨hbody, hsecret⟩, hreferer⟩ := hname
  unfold toward
  dsimp only
  generalize hcase : (if mayTell r.url url then
    [("referer", { r.url with fragment? := none }.text)] else []) = told
  have htold : ∀ p ∈ told, p.1 = "referer" := by
    intro p hp
    rw [← hcase, List.mem_ite_nil_right, List.mem_singleton] at hp
    rw [hp.2]
  have hnone : told.lookup name = none := by
    refine List.lookup_eq_none_iff.mpr fun p hp => ?_
    rw [htold p hp, bne_iff_ne]
    exact hreferer
  rw [List.lookup_append, hnone, Option.or_none]
  refine lookup_filter_of_keeps fun header _ hheader => ?_
  rw [hheader, Bool.not_eq_true', List.contains_eq_mem, decide_eq_false_iff_not, List.mem_append,
    List.mem_append, List.mem_ite_nil_right, List.mem_ite_nil_left, List.mem_map]
  rintro ((⟨-, h⟩ | ⟨-, h⟩) | ⟨p, hp, h⟩)
  · exact hbody h
  · exact hsecret h
  · exact hreferer (h.symm.trans (htold p hp))

namespace Client

/-- What goes out is the first request, or follows on the one that a reply leads to. -/
theorem eq_or_mem_of_mem_pursue {network : Network} {hops : Nat} {request r : Request}
    (hr : r ∈ (pursue network hops request).2) :
    r = request ∨ ∃ hops' status url, hops = hops' + 1 ∧
      r ∈ (pursue network hops' (request.toward status url)).2 := by
  have hfirst : r ∈ [request] → r = request ∨ ∃ hops' status url, hops = hops' + 1 ∧
      r ∈ (pursue network hops' (request.toward status url)).2 :=
    fun h => .inl (List.mem_singleton.mp h)
  unfold pursue at hr
  dsimp only at hr
  split at hr
  · exact hfirst hr
  split at hr
  · exact hfirst hr
  split at hr
  · exact hfirst hr
  cases hops with
  | zero => exact hfirst hr
  | succ hops =>
    dsimp only at hr
    split_ifs at hr
    · rcases List.mem_cons.mp hr with h | h
      · exact .inl h
      · exact .inr ⟨hops, _, _, rfl, h⟩
    · exact hfirst hr

/-- Every request that goes out has the headers that no redirect moves as the first one has them. -/
theorem lookup_of_mem_pursue {network : Network} {hops : Nat} {request r : Request}
    (hr : r ∈ (pursue network hops request).2) {name : String}
    (hname : name ∉ Request.movedHeaders) :
    r.headers.lookup name = request.headers.lookup name := by
  induction hops generalizing request with
  | zero =>
    rcases eq_or_mem_of_mem_pursue hr with rfl | ⟨_, _, _, h, _⟩
    · rfl
    · cases h
  | succ hops ih =>
    rcases eq_or_mem_of_mem_pursue hr with rfl | ⟨_, status, url, h, hr⟩
    · rfl
    · cases h
      rw [ih hr, request.lookup_toward status url hname]

end Client

/-! ## Signed requests -/

namespace ApiKey

open Client

/-- Headers carry a key and its passphrase, a time, and the signature over a query at that time; and
they say whether trading is simulated. -/
structure IsOn (k : ApiKey) (q : Query) (headers : List (String × String)) : Prop where
  key : headers.lookup "ok-access-key" = some k.key
  passphrase : headers.lookup "ok-access-passphrase" = some k.passphrase
  signature : ∃ time, headers.lookup "ok-access-timestamp" = some time ∧
    headers.lookup "ok-access-sign" = some (k.signature (digested (.ofQuery q) time ""))
  simulated : headers.lookup "x-simulated-trading" = if k.simulated then some "1" else none

/-- The names of the headers that a signer adds. -/
def headerNames : List String :=
  ["ok-access-key", "ok-access-passphrase", "ok-access-timestamp", "ok-access-sign",
    "x-simulated-trading"]

theorem of_mem_headerNames : ∀ name ∈ headerNames,
    name ≠ "authorization" ∧ name ≠ "content-type" ∧ name ≠ "user-agent" ∧
      name ∉ Request.movedHeaders := by
  decide

theorem IsOn.of_lookup_eq {k : ApiKey} {q : Query} {headers headers' : List (String × String)}
    (h : k.IsOn q headers) (hsame : ∀ name ∈ headerNames, headers'.lookup name = headers.lookup name) :
    k.IsOn q headers' := by
  obtain ⟨hkey, hpassphrase, htimed, hsimulated⟩ := h
  unfold headerNames at hsame
  constructor
  · rw [hsame _ (by decide), hkey]
  · rw [hsame _ (by decide), hpassphrase]
  · rw [hsame "ok-access-timestamp" (by decide), hsame "ok-access-sign" (by decide)]
    exact htimed
  · rw [hsame _ (by decide), hsimulated]

theorem eq_of_mapM_headers {k : ApiKey} {time text : String} {qs : List (String × String)}
    (h : (k.headers time text).mapM readHeaderPair = .ok qs) :
    qs = [("ok-access-key", k.key), ("ok-access-sign", text), ("ok-access-timestamp", time),
      ("ok-access-passphrase", k.passphrase)] ++
        if k.simulated then [("x-simulated-trading", "1")] else [] := by
  rw [mapM_readHeaderPair_ok h, headers, List.map_append]
  by_cases hsimulated : k.simulated = true
  · simp [hsimulated]
  · simp [hsimulated]

/-- The headers that a signer adds stand among those of the request. -/
theorem isOn_assembled {k : ApiKey} {q : Query} {time : String}
    {front qs more : List (String × String)} (hfront : ∀ p ∈ front, p.1 = "authorization")
    (hmore : ∀ p ∈ more, p.1 = "content-type" ∨ p.1 = "user-agent")
    (hqs : (k.headers time (k.signature (digested (.ofQuery q) time ""))).mapM readHeaderPair =
      .ok qs) : k.IsOn q (front ++ (qs ++ more)) := by
  have hnames : ∀ name ∈ headerNames,
      (front ++ (qs ++ more)).lookup name = qs.lookup name := by
    intro name hname
    obtain ⟨hauthorization, hcontent, hagent, -⟩ := of_mem_headerNames name hname
    have hfront : front.lookup name = none := by
      refine List.lookup_eq_none_iff.mpr fun p hp => ?_
      rw [hfront p hp, bne_iff_ne]
      exact hauthorization
    have hmore : more.lookup name = none := by
      refine List.lookup_eq_none_iff.mpr fun p hp => ?_
      rw [bne_iff_ne]
      rcases hmore p hp with h | h
      · rw [h]
        exact hcontent
      · rw [h]
        exact hagent
    rw [List.lookup_append, List.lookup_append, hfront, hmore, Option.none_or, Option.or_none]
  refine IsOn.of_lookup_eq ?_ hnames
  rw [eq_of_mapM_headers hqs]
  refine ⟨rfl, rfl, ⟨time, rfl, rfl⟩, ?_⟩
  cases k.simulated <;> rfl

/-- The first request of a signed query carries the key. -/
theorem isOn_prepared {c : Client} {k : ApiKey} (hsigner : c.signer? = some k.signer) {q : Query}
    (hauth : q.authenticated = true) {now : Nat} {request : Request}
    (h : c.prepare now (.ofQuery q) = .ok request) : k.IsOn q request.headers := by
  obtain ⟨signed, hsigned, hassemble⟩ := prepare_ok h
  have hcall : (Call.ofQuery q).authenticated = true := hauth
  unfold Client.signed at hsigned
  rw [if_pos hcall, hsigner] at hsigned
  have hsigned : k.sign (Call.ofQuery q).signingInput now = .ok signed := hsigned
  obtain ⟨time, body, hbody, rfl⟩ := sign_ok hsigned
  obtain ⟨url, front, qs, more, -, hqs, hfront, hmore, rfl⟩ := assemble_ok hassemble
  -- A query has no body, so what is digested ends with its path.
  obtain rfl : body = "" := Utf8.encode_injective hbody
  exact isOn_assembled hfront hmore hqs

end ApiKey

namespace Client

variable {σ α : Type} {c c' : Client} {clock clock' : σ → Nat} {server : Server σ}

open ApiKey

/-- Every request that goes out for a signed query carries the key, also where replies send the
client. -/
theorem isOn_of_mem_exchange {k : ApiKey} (hsigner : c.signer? = some k.signer) {s : σ} {q : Query}
    (hauth : q.authenticated = true) {request : Request}
    (hrequest : request ∈ (c.exchange clock server s q).2) : k.IsOn q request.headers := by
  unfold exchange perform at hrequest
  cases hprepare : c.prepare (clock s) (.ofQuery q) with
  | error e => rw [hprepare] at hrequest; cases hrequest
  | ok first =>
    rw [hprepare] at hrequest
    refine (isOn_prepared hsigner hauth hprepare).of_lookup_eq fun name hname => ?_
    exact lookup_of_mem_pursue hrequest (of_mem_headerNames name hname).2.2.2

/-- Without a signer nothing goes out for a signed query. -/
theorem exchange_of_unsigned (hsigner : c.signer? = none) (s : σ) {q : Query}
    (hauth : q.authenticated = true) : c.exchange clock server s q = (.error .authRequired, []) := by
  have hprepare : c.prepare (clock s) (.ofQuery q) = .error .authRequired := by
    have hcall : (Call.ofQuery q).authenticated = true := hauth
    unfold prepare signed
    rw [if_pos hcall, hsigner]
    rfl
  unfold exchange perform
  rw [hprepare]

/-- What is not signed does not depend on the signer, nor on the time. -/
theorem exchange_eq_of_open (hconfig : c.config = c'.config) (s : σ) {q : Query}
    (hauth : q.authenticated = false) :
    c.exchange clock server s q = c'.exchange clock' server s q := by
  have hcall : (Call.ofQuery q).authenticated ≠ true := ne_true_of_eq_false hauth
  have hprepare : c.prepare (clock s) (.ofQuery q) = c'.prepare (clock' s) (.ofQuery q) := by
    unfold prepare signed
    rw [if_neg hcall, if_neg hcall]
    unfold assemble
    rw [hconfig]
  unfold exchange perform
  rw [hprepare]

/-! ## Calls -/

open Rest

/-- A call that is not about the account does not depend on the signer, nor on the time. -/
theorem make_eq_of_open (hconfig : c.config = c'.config) {m : Method α} (hm : m.isPrivate = false)
    (cache : InstrumentCache) (s : σ) :
    c.make clock server m cache s = c'.make clock' server m cache s := by
  have hproceeds := m.proceeds cache
  rw [hm] at hproceeds
  have hsame : ∀ s q, q.authenticated = false →
      c.answer clock server s q = c'.answer clock' server s q := by
    intro s q hq
    rw [answer, answer, exchange_eq_of_open hconfig s hq]
  obtain ⟨hrun, hheard⟩ := hproceeds.run_congr hsame s
  have hsent : c.sent clock server s (m.dialogue cache) =
      c'.sent clock' server s (m.dialogue cache) := by
    unfold sent
    rw [hheard]
    refine List.flatMap_congr fun x hx => ?_
    rw [exchange_eq_of_open hconfig x.1 (hproceeds.of_mem_heard hx)]
  unfold make
  rw [hrun, hsent]

/-- A call about the account fails without a signer, and nothing goes out. -/
theorem make_of_unsigned (hsigner : c.signer? = none) {m : Method α} (hm : m.isPrivate = true)
    (cache : InstrumentCache) (s : σ) :
    c.make clock server m cache s = ⟨.error .authRequired, cache, s, []⟩ := by
  obtain ⟨q, next, hask⟩ := Method.asks_first hm cache
  have hproceeds := m.proceeds cache
  rw [hask] at hproceeds
  cases hproceeds with
  | ask hasked hfails _ =>
    have hexchange : c.exchange clock server s q = (.error .authRequired, []) :=
      exchange_of_unsigned hsigner s (hasked.trans hm)
    have hend := hfails _ _ (refused_error .authRequired)
    have hsent : c.sent clock server s (.ask q next) = [] := by
      simp only [sent, Dialogue.heard, answer, hexchange, hend, List.flatMap_cons, List.flatMap_nil,
        List.append_nil]
    unfold make
    simp only [hask, hsent, Dialogue.run, answer, hexchange, hend]
    rfl

/-- What goes out for a call about the account carries the key of the signer. -/
theorem isOn_of_mem_make {k : ApiKey} (hsigner : c.signer? = some k.signer) {m : Method α}
    (hm : m.isPrivate = true) {cache : InstrumentCache} {s : σ} {request : Request}
    (hrequest : request ∈ (c.make clock server m cache s).requests) :
    ∃ q, k.IsOn q request.headers := by
  obtain ⟨x, hx, hrequest⟩ := List.mem_flatMap.mp hrequest
  have hauth := ((m.proceeds cache).of_mem_heard hx).trans hm
  exact ⟨x.2, isOn_of_mem_exchange hsigner hauth hrequest⟩

end Client

namespace Rest

open Client

/-- **Credentials are on signed calls only, and only if they are complete.** Take two accounts at one
address, which may differ in everything else, and the clients that a setup makes of them.

* Whatever call is made that is not about the account, and whatever the server does: both clients send
  the same requests and return the same.
* A call about the account fails if one of the three credentials is empty, and nothing goes out. If
  none is, every request that goes out carries the credentials, and says that trading is simulated just
  if the account says so. -/
theorem credentials_on_signed_calls_only (setup : Setup) (a a' : Account)
    (hbase : a.baseUrl? = a'.baseUrl?) :
    ∃ c c', { setup with account := a }.client = .ok c ∧ { setup with account := a' }.client = .ok c' ∧
      ∀ {σ α : Type} (m : Method α) (cache : InstrumentCache) (clock clock' : σ → Nat)
        (server : Server σ) (s : σ),
        (m.isPrivate = false → c.make clock server m cache s = c'.make clock' server m cache s) ∧
        (m.isPrivate = true →
          (a.apiKey = "" ∨ a.secretKey = "" ∨ a.passphrase = "" →
            c.make clock server m cache s = ⟨.error .authRequired, cache, s, []⟩) ∧
          (a.apiKey ≠ "" → a.secretKey ≠ "" → a.passphrase ≠ "" →
            ∀ request ∈ (c.make clock server m cache s).requests,
              ∃ q, ApiKey.IsOn ⟨a.apiKey, a.secretKey, a.passphrase, a.testnet⟩ q
                request.headers)) := by
  refine ⟨_, _, Setup.client_eq _, Setup.client_eq _, fun m cache clock clock' server s => ⟨?_, ?_⟩⟩
  · intro hm
    refine make_eq_of_open ?_ hm cache s
    unfold Setup.clientConfig
    rw [hbase]
  · intro hm
    refine ⟨fun hempty => ?_, fun hkey hsecret hpassphrase request hrequest => ?_⟩
    · refine make_of_unsigned ?_ hm cache s
      rw [Setup.apiKey?_eq_none hempty]
      rfl
    · refine isOn_of_mem_make ?_ hm hrequest
      rw [Setup.apiKey?_eq_some hkey hsecret hpassphrase]
      rfl

/-! ## Two accounts -/

/-- An account for simulated trading, with all of its credentials. -/
def demoAccount : Account := ⟨"key", "secret", "phrase", true, none⟩

/-- A server that cannot be reached. -/
def unreachable : Server Unit := ⟨fun _ request => .error (.refused request.url), fun _ _ => ()⟩

def clockAt (now : Nat) : Unit → Nat := fun _ => now

theorem exists_balance_request {c : Client}
    (hclient : { Setup.default with account := demoAccount }.client = .ok c) :
    ∃ request,
      request ∈ (c.make (clockAt 1700000000123) unreachable (.balance none) [] ()).requests := by
  rw [Setup.client_eq] at hclient
  have hsigner : c.signer? = some ApiKey.demoKey.signer := by
    rw [← Except.ok.inj hclient]
    rfl
  have hbase : c.config.baseUrl = "https://www.okx.com" := by
    rw [← Except.ok.inj hclient]
    rfl
  have htime : DateTime.textOfMillis? (ApiKey.signedMillis 1700000000123) =
      some "2023-11-14T22:13:20.123Z" := by
    decide
  have hbody : Utf8.decode (Call.ofQuery ⟨"/api/v5/account/balance", [], true⟩).body = .ok "" := rfl
  have hurl : Url.parse (c.config.baseUrl ++ "/api/v5/account/balance") =
      .ok ⟨"https", none, "www.okx.com", none, "/api/v5/account/balance".toList, none, none⟩ := by
    rw [hbase]
    rfl
  obtain ⟨request, hprepare⟩ := ApiKey.exists_prepare hsigner rfl htime (by decide) hbody (by decide)
    (by decide) hurl (by decide)
  refine ⟨request, List.mem_append_left _ ?_⟩
  show request ∈ (exchange _ _ _ () ⟨"/api/v5/account/balance", [], true⟩).2
  unfold exchange perform
  rw [clockAt, hprepare]
  exact List.mem_of_mem_head? (ApiKey.head?_pursue _ maxRedirects request)

/-- An account without credentials gets the tickers with the requests of the other one. Its balance is
refused before anything goes out; that of the other one is asked for as simulated trading. -/
theorem tickers_without_credentials :
    demoAccount.baseUrl? = Account.readOnly.baseUrl? ∧
    ∃ c c', { Setup.default with account := demoAccount }.client = .ok c ∧
      { Setup.default with account := Account.readOnly }.client = .ok c' ∧
      c.make (clockAt 0) unreachable (.tickers .spot) [] () =
        c'.make (clockAt 1) unreachable (.tickers .spot) [] () ∧
      c'.make (clockAt 0) unreachable (.balance none) [] () =
        ⟨.error .authRequired, [], (), []⟩ ∧
      ∃ request ∈ (c.make (clockAt 1700000000123) unreachable (.balance none) [] ()).requests,
        request.headers.lookup "x-simulated-trading" = some "1" := by
  obtain ⟨c, c', hc, hc', hcalls⟩ :=
    credentials_on_signed_calls_only Setup.default demoAccount Account.readOnly rfl
  obtain ⟨c₂, _, hc₂, _, hcalls'⟩ :=
    credentials_on_signed_calls_only Setup.default Account.readOnly demoAccount rfl
  obtain rfl : c' = c₂ := Except.ok.inj (hc'.symm.trans hc₂)
  obtain ⟨request, hrequest⟩ := exists_balance_request hc
  obtain ⟨-, hbalance⟩ := hcalls (.balance none) [] (clockAt 1700000000123) (clockAt 0) unreachable ()
  obtain ⟨q, hcarries⟩ := (hbalance rfl).2 (by decide) (by decide) (by decide) request hrequest
  refine ⟨rfl, c, c', hc, hc', ?_, ?_, request, hrequest, hcarries.simulated⟩
  · exact (hcalls (.tickers .spot) [] (clockAt 0) (clockAt 1) unreachable ()).1 rfl
  · exact ((hcalls' (.balance none) [] (clockAt 0) (clockAt 0) unreachable ()).2 rfl).1 (.inl rfl)

end Rest

end MarketFeed
