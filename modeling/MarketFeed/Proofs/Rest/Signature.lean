import MarketFeed.Proofs.Http.Sent
import MarketFeed.Proofs.Text.Utf8
import MarketFeed.Rest.Signature

/-!
# What is signed and what is sent

A signed request carries its time and a digest. What is digested is what a server receives just if
endpoint and parameters are sent as they are spelled (`digested_eq_received_iff`): the digest is over
the spelled query, and the query on the wire is escaped.
-/

namespace MarketFeed

namespace ApiKey

/-- What is digested of a call at a time. -/
def digested (call : Client.Call) (time body : String) : String :=
  prehash time call.method (requestPath call.endpoint (Client.queryText call.params)) body

end ApiKey

/-- What a server can digest of a request: the time in it, and the rest as it came. -/
def Request.received (r : Request) (time : String) : List UInt8 :=
  Utf8.encode time ++ Utf8.encode r.method ++ Utf8.encode (String.ofList r.url.target) ++ r.body

namespace ApiKey

open Client

/-! ## Signing -/

theorem sign_ok {k : ApiKey} {call : Call} {now : Nat} {signed : Signed}
    (h : k.sign call.signingInput now = .ok signed) :
    ∃ time body, Utf8.encode body = call.body ∧
      signed = ⟨k.headers time (k.signature (digested call time body)), []⟩ := by
  unfold sign at h
  split at h
  · cases h
  · rename_i time _
    split at h
    · cases h
    · rename_i body hbody
      exact ⟨time, body, Utf8.encode_of_decode hbody, (Except.ok.inj h).symm⟩

theorem toList_requestPath (endpoint : String) (params : List (String × String)) :
    (requestPath endpoint (queryText params)).toList =
      endpoint.toList ++ Url.spelledQuery params := by
  unfold requestPath Url.spelledQuery Url.marked
  by_cases h : params = []
  · subst h
    simp [queryText]
  · have hne := mt (Url.queryText_eq_nil_iff params).mp h
    rw [if_neg hne, if_neg]
    · simp
    · simpa using hne

/-- What is digested is what is received, as far as the target is what is spelled. -/
theorem digested_eq_iff {call : Call} {request : Request} {time body : String}
    (hmethod : request.method = call.method) (hbody : Utf8.encode body = request.body) :
    Utf8.encode (digested call time body) = request.received time ↔
      request.url.target = call.endpoint.toList ++ Url.spelledQuery call.params := by
  unfold digested prehash Request.received
  rw [Utf8.encode_append, Utf8.encode_append, Utf8.encode_append, hmethod, hbody,
    List.append_cancel_right_eq, List.append_cancel_left_eq, ← toList_requestPath]
  constructor
  · intro h
    rw [Utf8.encode_injective h, String.toList_ofList]
  · intro h
    rw [h, String.ofList_toList]

/-! ## The headers of a request -/

theorem readHeaderPair_ok {p q : String × String} (h : readHeaderPair p = .ok q) :
    q = (String.ofList (p.1.toList.map Char.toLower), p.2) := by
  obtain ⟨name, value⟩ := p
  unfold readHeaderPair at h
  dsimp only at h
  split_ifs at h
  exact (Except.ok.inj h).symm

theorem mapM_readHeaderPair_ok {ps qs : List (String × String)}
    (h : ps.mapM readHeaderPair = .ok qs) :
    qs = ps.map fun p => (String.ofList (p.1.toList.map Char.toLower), p.2) := by
  induction ps generalizing qs with
  | nil => exact (Except.ok.inj h).symm
  | cons p rest ih =>
    rw [List.mapM_cons] at h
    cases hp : readHeaderPair p with
    | error fault => rw [hp] at h; cases h
    | ok q =>
      cases hrest : rest.mapM readHeaderPair with
      | error fault => rw [hp, hrest] at h; cases h
      | ok qs' =>
        rw [hp, hrest] at h
        obtain rfl : q :: qs' = qs := Except.ok.inj h
        rw [readHeaderPair_ok hp, ih hrest, List.map_cons]

/-- The headers of a signed request hold its time and its signature. -/
theorem lookup_headers {k : ApiKey} {time signature : String} {front qs : List (String × String)}
    (hfront : ∀ p ∈ front, p.1 = "authorization")
    (h : (k.headers time signature).mapM readHeaderPair = .ok qs) (more : List (String × String)) :
    (front ++ (qs ++ more)).lookup "ok-access-timestamp" = some time ∧
      (front ++ (qs ++ more)).lookup "ok-access-sign" = some signature := by
  have hskip : ∀ name, name ≠ "authorization" →
      (front ++ (qs ++ more)).lookup name = (qs ++ more).lookup name := by
    intro name hname
    rw [List.lookup_append, List.lookup_eq_none_iff.mpr, Option.none_or]
    intro p hp
    rw [hfront p hp, bne_iff_ne]
    exact hname
  rw [hskip _ (by decide), hskip _ (by decide), mapM_readHeaderPair_ok h]
  simp [headers, List.lookup_cons]

/-! ## Requests -/

theorem prepare_ok {c : Client} {call : Call} {now : Nat} {request : Request}
    (h : c.prepare now call = .ok request) :
    ∃ signed, c.signed now call = .ok signed ∧ c.assemble call signed = .ok request := by
  unfold prepare at h
  cases hsigned : c.signed now call with
  | error e => rw [hsigned] at h; cases h
  | ok signed =>
    rw [hsigned] at h
    refine ⟨signed, rfl, ?_⟩
    cases hassemble : c.assemble call signed with
    | error fault =>
      simp only [bind, Except.bind, hassemble] at h
      cases h
    | ok request' =>
      simp only [bind, Except.bind, hassemble] at h
      rw [Except.ok.inj h]

theorem assemble_ok {c : Client} {call : Call} {signed : Signed} {request : Request}
    (h : c.assemble call signed = .ok request) :
    ∃ url front qs more, Url.parse (c.config.baseUrl ++ call.endpoint) = .ok url ∧
      signed.headers.mapM readHeaderPair = .ok qs ∧ (∀ p ∈ front, p.1 = "authorization") ∧
      (∀ p ∈ more, p.1 = "content-type" ∨ p.1 = "user-agent") ∧
      request = ⟨call.method, url.withForm (if signed.params.isEmpty then call.params else signed.params),
        front ++ (qs ++ more), call.body⟩ := by
  unfold assemble at h
  split at h
  · cases h
  · rename_i url hurl
    cases hqs : signed.headers.mapM readHeaderPair with
    | error fault => rw [hqs] at h; cases h
    | ok qs =>
      rw [hqs] at h
      simp only [bind, Except.bind] at h
      generalize (if signed.params.isEmpty then call.params else signed.params) = params at h ⊢
      generalize hcontent :
        (if call.body.isEmpty then [] else [("content-type", "application/json")]) = content at h
      generalize hagent :
        (if qs.any (·.1 == "user-agent") then [] else [("user-agent", c.config.userAgent)]) = agent at h
      split_ifs at h
      refine ⟨url, loginHeader url, qs, content ++ agent, hurl, rfl, ?_, ?_, ?_⟩
      · unfold loginHeader
        intro p hp
        obtain ⟨login, -, rfl⟩ := List.mem_map.mp hp
        rfl
      · intro p hp
        rw [← hcontent, ← hagent, List.mem_append, List.mem_ite_nil_left, List.mem_ite_nil_left,
          List.mem_singleton, List.mem_singleton] at hp
        rcases hp with ⟨-, rfl⟩ | ⟨-, rfl⟩
        · exact .inl rfl
        · exact .inr rfl
      · rw [← Except.ok.inj h, List.append_assoc, List.append_assoc]

theorem head?_pursue (network : Network) (hops : Nat) (request : Request) :
    (pursue network hops request).2.head? = some request := by
  unfold pursue
  dsimp only
  split
  · rfl
  split
  · rfl
  split
  · rfl
  cases hops with
  | zero => rfl
  | succ hops =>
    dsimp only
    split_ifs <;> rfl

/-- The request for a signed call, and what was digested for it. -/
theorem prepare_signed {c : Client} {k : ApiKey} (hbase : Url.IsOrigin c.config.baseUrl)
    (hsigner : c.signer? = some k.signer) {call : Call} (hauth : call.authenticated = true) {now : Nat}
    {request : Request} (h : c.prepare now call = .ok request) :
    ∃ time body,
      request.headers.lookup "ok-access-timestamp" = some time ∧
      request.headers.lookup "ok-access-sign" = some (k.signature (digested call time body)) ∧
      request.method = call.method ∧ request.body = call.body ∧ Utf8.encode body = request.body ∧
      request.url.target = Url.sent call.endpoint.toList call.params := by
  obtain ⟨signed, hsigned, hassemble⟩ := prepare_ok h
  unfold Client.signed at hsigned
  rw [if_pos hauth, hsigner] at hsigned
  obtain ⟨time, body, hbody, rfl⟩ := sign_ok hsigned
  obtain ⟨url, front, qs, more, hurl, hqs, hfront, -, rfl⟩ := assemble_ok hassemble
  obtain ⟨htime, hsign⟩ := lookup_headers hfront hqs more
  exact ⟨time, body, htime, hsign, rfl, rfl, hbody,
    Url.target_behind_origin hbase hurl call.params⟩

/-- A server that knows the secret finds the signature to be right. -/
def accepts (k : ApiKey) (r : Request) : Prop :=
  ∃ time, r.headers.lookup "ok-access-timestamp" = some time ∧
    r.headers.lookup "ok-access-sign" =
      some (Base64.encode (Hmac.sha256 (Utf8.encode k.secret) (r.received time)))

/-- The first request of a signed call. Its headers hold a time and the digest of what is spelled;
that is what the server receives just if endpoint and parameters are sent as they are spelled, and
then the server accepts the signature. -/
theorem digested_eq_received_iff {c : Client} {k : ApiKey} (hbase : Url.IsOrigin c.config.baseUrl)
    (hsigner : c.signer? = some k.signer) {call : Call} (hauth : call.authenticated = true) {now : Nat}
    {request : Request} (h : c.prepare now call = .ok request) :
    (∀ network, (c.perform now network call).2.head? = some request) ∧
    request.method = call.method ∧ request.body = call.body ∧
    (∃ time body,
      request.headers.lookup "ok-access-timestamp" = some time ∧
      request.headers.lookup "ok-access-sign" = some (k.signature (digested call time body)) ∧
      Utf8.encode body = request.body ∧
      (Utf8.encode (digested call time body) = request.received time ↔
        Url.isSentAsSpelled call.endpoint.toList call.params)) ∧
    (Url.isSentAsSpelled call.endpoint.toList call.params → k.accepts request) := by
  obtain ⟨time, body, htime, hsign, hmethod, hsame, hbody, htarget⟩ :=
    prepare_signed hbase hsigner hauth h
  have hiff : Utf8.encode (digested call time body) = request.received time ↔
      Url.isSentAsSpelled call.endpoint.toList call.params := by
    rw [digested_eq_iff hmethod hbody, htarget, Url.sent_eq_spelled_iff]
  refine ⟨fun network => ?_, hmethod, hsame, ⟨time, body, htime, hsign, hbody, hiff⟩, fun hspelled => ?_⟩
  · unfold perform
    rw [h]
    exact head?_pursue network maxRedirects request
  · refine ⟨time, htime, ?_⟩
    rw [hsign, signature, hiff.mpr hspelled]

/-! ## Requests that go out -/

theorem isHeaderValue_base64 (bytes : List UInt8) : isHeaderValue (Base64.encode bytes) := by
  have hdigit : ∀ n, Base64.digit n = '\t' ∨ 0x20 ≤ (Base64.digit n).toNat ∧ (Base64.digit n).toNat ≠ 0x7F := by
    have hsmall : ∀ n < 64, 0x20 ≤ (Base64.digit n).toNat ∧ (Base64.digit n).toNat ≠ 0x7F := by decide
    intro n
    by_cases hn : n < 64
    · exact Or.inr (hsmall n hn)
    · have : Base64.digit n = '/' := by
        unfold Base64.digit
        rw [if_neg (by omega), if_neg (by omega), if_neg (by omega), if_neg (by omega)]
      rw [this]
      decide
  unfold isHeaderValue Base64.encode
  rw [String.toList_ofList, List.all_eq_true]
  intro c hc
  simp only [Bool.or_eq_true, Bool.and_eq_true, decide_eq_true_eq]
  fun_induction Base64.encodeChars bytes with
  | case1 => cases hc
  | case2 a n =>
    simp only [List.mem_cons, List.not_mem_nil, or_false] at hc
    rcases hc with rfl | rfl | rfl | rfl
    · exact hdigit _
    · exact hdigit _
    · decide
    · decide
  | case3 a b n =>
    simp only [List.mem_cons, List.not_mem_nil, or_false] at hc
    rcases hc with rfl | rfl | rfl | rfl
    · exact hdigit _
    · exact hdigit _
    · exact hdigit _
    · decide
  | case4 a b c' rest n ih =>
    simp only [List.mem_cons] at hc
    rcases hc with rfl | rfl | rfl | rfl | hc
    · exact hdigit _
    · exact hdigit _
    · exact hdigit _
    · exact hdigit _
    · exact ih hc

theorem readHeaderPair_of_valid {name value : String} (hname : isHeaderName name)
    (hvalue : isHeaderValue value) :
    readHeaderPair (name, value) = .ok (String.ofList (name.toList.map Char.toLower), value) := by
  unfold readHeaderPair
  dsimp only
  rw [hname, hvalue]
  rfl

theorem exists_mapM_readHeaderPair {ps : List (String × String)}
    (h : ∀ p ∈ ps, isHeaderName p.1 ∧ isHeaderValue p.2) :
    ∃ qs, ps.mapM readHeaderPair = .ok qs := by
  induction ps with
  | nil => exact ⟨[], rfl⟩
  | cons p rest ih =>
    obtain ⟨⟨hname, hvalue⟩, hrest⟩ := List.forall_mem_cons.mp h
    obtain ⟨qs, hqs⟩ := ih hrest
    rw [List.mapM_cons, readHeaderPair_of_valid hname hvalue, hqs]
    exact ⟨_, rfl⟩

theorem valid_headers {k : ApiKey} {time signature : String} (hkey : isHeaderValue k.key)
    (hpassphrase : isHeaderValue k.passphrase) (htime : isHeaderValue time)
    (hsignature : isHeaderValue signature) :
    ∀ p ∈ k.headers time signature, isHeaderName p.1 ∧ isHeaderValue p.2 := by
  intro p hp
  rcases List.mem_append.mp hp with hp | hp
  · simp only [List.mem_cons, List.not_mem_nil, or_false] at hp
    rcases hp with rfl | rfl | rfl | rfl
    · exact ⟨show isHeaderName "OK-ACCESS-KEY" by decide, hkey⟩
    · exact ⟨show isHeaderName "OK-ACCESS-SIGN" by decide, hsignature⟩
    · exact ⟨show isHeaderName "OK-ACCESS-TIMESTAMP" by decide, htime⟩
    · exact ⟨show isHeaderName "OK-ACCESS-PASSPHRASE" by decide, hpassphrase⟩
  · split_ifs at hp
    · rw [List.mem_singleton.mp hp]
      decide
    · cases hp

/-- A signed call goes out if its time can be written, its body is text, the credentials can stand in
headers and the address can be asked for. -/
theorem exists_prepare {c : Client} {k : ApiKey} (hsigner : c.signer? = some k.signer) {call : Call}
    (hauth : call.authenticated = true) {now : Nat} {time body : String} {url : Url}
    (htime : DateTime.textOfMillis? (signedMillis now) = some time) (hstamp : isHeaderValue time)
    (hbody : Utf8.decode call.body = .ok body) (hkey : isHeaderValue k.key)
    (hpassphrase : isHeaderValue k.passphrase)
    (hurl : Url.parse (c.config.baseUrl ++ call.endpoint) = .ok url) (hask : isAskable url) :
    ∃ request, c.prepare now call = .ok request := by
  have hsigned : c.signed now call =
      .ok ⟨k.headers time (k.signature (digested call time body)), []⟩ := by
    unfold Client.signed
    rw [if_pos hauth, hsigner]
    show k.sign call.signingInput now = _
    unfold sign
    rw [htime]
    dsimp only [Call.signingInput]
    rw [hbody]
    rfl
  obtain ⟨qs, hqs⟩ := exists_mapM_readHeaderPair (valid_headers hkey hpassphrase hstamp
    (isHeaderValue_base64 (Hmac.sha256 (Utf8.encode k.secret) (Utf8.encode (digested call time body)))))
  unfold prepare
  rw [hsigned]
  unfold assemble
  simp only [bind, Except.bind, hurl]
  rw [show (k.headers time (k.signature (digested call time body))).mapM readHeaderPair = .ok qs from hqs]
  dsimp only
  rw [if_pos hask]
  exact ⟨_, rfl⟩

/-! ## Balances -/

/-- A key for simulated trading. -/
def demoKey : ApiKey := ⟨"key", "secret", "phrase", true⟩

/-- A client that signs with it. -/
def demoClient : Client := ⟨.new "https://www.okx.com" "OKX", some demoKey.signer⟩

/-- The signed call for balances. -/
def balanceCall (ccy : String) : Call := .ofQuery ⟨"/api/v5/account/balance", [("ccy", ccy)], true⟩

theorem isOrigin_demo : Url.IsOrigin demoClient.config.baseUrl := by
  have hall : "www.okx.com".toList.all fun c =>
      !Url.isOuterBlank c && !Url.authorityEnds.contains c := by decide
  refine ⟨"https".toList, "www.okx.com".toList, by decide, List.all_eq_true.mp (by decide),
    by decide, fun c hc => ?_⟩
  simpa using List.all_eq_true.mp hall c hc

theorem exists_prepare_balance (ccy : String) :
    ∃ request, demoClient.prepare 1700000000123 (balanceCall ccy) = .ok request := by
  have htime : DateTime.textOfMillis? (signedMillis 1700000000123) = some "2023-11-14T22:13:20.123Z" := by
    decide
  have hurl : Url.parse ("https://www.okx.com" ++ "/api/v5/account/balance") =
      .ok ⟨"https", none, "www.okx.com", none, "/api/v5/account/balance".toList, none, none⟩ := rfl
  have hbody : Utf8.decode (balanceCall ccy).body = .ok "" := rfl
  exact exists_prepare rfl rfl htime (by decide) hbody (by decide) (by decide) hurl (by decide)

/-- The balance of one currency is asked for with a signature that the server accepts. For two
currencies the comma between them is escaped on the wire, and what was digested is not what the server
receives. -/
theorem balance_of_two_digested_otherwise :
    (∃ request, demoClient.prepare 1700000000123 (balanceCall "USDT") = .ok request ∧
      demoKey.accepts request) ∧
    ∃ request time body, demoClient.prepare 1700000000123 (balanceCall "BTC,ETH") = .ok request ∧
      request.headers.lookup "ok-access-sign" =
        some (demoKey.signature (digested (balanceCall "BTC,ETH") time body)) ∧
      Utf8.encode (digested (balanceCall "BTC,ETH") time body) ≠ request.received time := by
  constructor
  · obtain ⟨request, h⟩ := exists_prepare_balance "USDT"
    obtain ⟨-, -, -, -, haccepts⟩ := digested_eq_received_iff isOrigin_demo rfl rfl h
    exact ⟨request, h, haccepts (by decide)⟩
  · obtain ⟨request, h⟩ := exists_prepare_balance "BTC,ETH"
    obtain ⟨-, -, -, ⟨time, body, -, hsign, -, hiff⟩, -⟩ :=
      digested_eq_received_iff isOrigin_demo rfl rfl h
    exact ⟨request, time, body, h, hsign, fun hsame => absurd (hiff.mp hsame) (by decide)⟩

end ApiKey

end MarketFeed
