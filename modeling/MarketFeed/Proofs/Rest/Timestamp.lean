import MarketFeed.Proofs.Time.Text
import MarketFeed.Rest.Signature

/-!
# The time in a signed request

The header that carries the time of a signed request shows the fields of its instant
(`timestamp?_eq_some_iff`). Main fact: the time is refused exactly outside the years that can be
written, and otherwise the header names the instant, in the calendar and in the order of headers
(`timestamp_names_instant`).
-/

namespace MarketFeed

namespace DateTime

/-- An instant lies within some years. -/
def Within (low high ms : Int) : Prop :=
  ∃ t : DateTime, t.IsValid ∧ low ≤ t.year ∧ t.year ≤ high ∧ t.toMillis = ms

theorem within_iff (low high ms : Int) :
    Within low high ms ↔ low ≤ (ofMillis ms).year ∧ (ofMillis ms).year ≤ high := by
  obtain ⟨hvalid, hmillis⟩ := toMillis_ofMillis ms
  constructor
  · rintro ⟨t, ht, hlow, hhigh, rfl⟩
    rw [toMillis_injective hvalid ht hmillis]
    exact ⟨hlow, hhigh⟩
  · rintro ⟨hlow, hhigh⟩
    exact ⟨ofMillis ms, hvalid, hlow, hhigh, hmillis⟩

theorem textOfMillis?_of_within {ms : Int} (h : Within minYear maxYear ms) :
    textOfMillis? ms = some (String.ofList (ofMillis ms).text) := by
  rw [textOfMillis?, if_pos ((within_iff _ _ ms).mp h)]

theorem textOfMillis?_of_not_within {ms : Int} (h : ¬Within minYear maxYear ms) :
    textOfMillis? ms = none := by
  rw [textOfMillis?, if_neg (mt (within_iff _ _ ms).mpr h)]

end DateTime

namespace ApiKey

open DateTime

/-- The time that a request carries which is signed at a time. -/
def timestamp? (k : ApiKey) (input : SigningInput) (ts : UInt64) : Option String :=
  (k.sign input ts.toNat).toOption.bind fun signed => signed.headers.lookup "OK-ACCESS-TIMESTAMP"

/-- The time is taken as a number with a sign. -/
theorem signedMillis_toNat (ts : UInt64) : signedMillis ts.toNat = ts.toInt64.toInt := by
  have hlt : ts.toNat < 18446744073709551616 := ts.toNat_lt
  have hsigned : ts.toInt64.toInt = ts.toBitVec.toInt := rfl
  rw [hsigned, BitVec.toInt_eq_toNat_cond, UInt64.toNat_toBitVec, signedMillis,
    Nat.mod_eq_of_lt hlt]
  split_ifs <;> omega

variable {k : ApiKey} {input : SigningInput} {ts : UInt64}

theorem sign_of_not_within (h : ¬Within minYear maxYear ts.toInt64.toInt) :
    k.sign input ts.toNat = .error (.auth "Invalid timestamp") := by
  rw [sign, signedMillis_toNat, textOfMillis?_of_not_within h]

theorem sign_of_within (h : Within minYear maxYear ts.toInt64.toInt) {body : String}
    (hbody : Utf8.decode input.body = .ok body) :
    ∃ signature, k.sign input ts.toNat =
      .ok ⟨k.headers (String.ofList (ofMillis ts.toInt64.toInt).text) signature, []⟩ := by
  rw [sign, signedMillis_toNat, textOfMillis?_of_within h]
  dsimp only
  rw [hbody]
  exact ⟨_, rfl⟩

theorem lookup_timestamp (k : ApiKey) (time signature : String) :
    (k.headers time signature).lookup "OK-ACCESS-TIMESTAMP" = some time := by
  simp [headers, List.lookup_cons]

/-- A request carries a time exactly if the time can be written and the body can be read. -/
theorem timestamp?_eq_some_iff (time : String) :
    k.timestamp? input ts = some time ↔
      (∃ body, Utf8.decode input.body = .ok body) ∧ Within minYear maxYear ts.toInt64.toInt ∧
        time = String.ofList (ofMillis ts.toInt64.toInt).text := by
  by_cases hwithin : Within minYear maxYear ts.toInt64.toInt
  · cases hbody : Utf8.decode input.body with
    | ok body =>
      obtain ⟨signature, hsign⟩ := sign_of_within (k := k) hwithin hbody
      have hcarries : k.timestamp? input ts = some (String.ofList (ofMillis ts.toInt64.toInt).text) := by
        rw [timestamp?, hsign]
        exact lookup_timestamp k _ signature
      rw [hcarries, Option.some.injEq, eq_comm]
      exact ⟨fun h => ⟨⟨body, rfl⟩, hwithin, h⟩, fun h => h.2.2⟩
    | error fault =>
      have hcarries : k.timestamp? input ts = none := by
        rw [timestamp?, sign, signedMillis_toNat, textOfMillis?_of_within hwithin]
        dsimp only
        rw [hbody]
        rfl
      rw [hcarries]
      exact ⟨nofun, fun h => by cases h.1.choose_spec⟩
  · have hcarries : k.timestamp? input ts = none := by
      rw [timestamp?, sign_of_not_within hwithin]
      rfl
    rw [hcarries]
    exact ⟨nofun, fun h => absurd h.2.1 hwithin⟩

/-- **The time in a signed request names the instant.** A time of 64 bits is read as a number of
milliseconds with a sign, and a body is text.

* Signing refuses the time exactly if the instant is not within the years from -262143 to 262142.
* Otherwise the request carries a text with a date and a time of day in the calendar, and these are the
  given number of milliseconds after the beginning of 1970.
* Requests with the same text were signed at the same time.
* Within the years from 0 to 9999 the texts come in the order of the instants.

The days of the calendar are counted from the beginning of 1970, each day after the one before it. -/
theorem timestamp_names_instant (k : ApiKey) :
    (∀ (input : SigningInput) (body : String) (ts : UInt64), Utf8.decode input.body = .ok body →
      (k.sign input ts.toNat = .error (.auth "Invalid timestamp") ↔
        ¬Within (-262143) 262142 ts.toInt64.toInt) ∧
      (Within (-262143) 262142 ts.toInt64.toInt → ∃ (time : String) (t : DateTime),
        k.timestamp? input ts = some time ∧ t.IsValid ∧ t.HasForm time.toList ∧
        t.toMillis = ts.toInt64.toInt)) ∧
    (∀ (input input' : SigningInput) (ts ts' : UInt64) (time : String),
      k.timestamp? input ts = some time → k.timestamp? input' ts' = some time → ts = ts') ∧
    (∀ (input input' : SigningInput) (ts ts' : UInt64) (time time' : String),
      k.timestamp? input ts = some time → k.timestamp? input' ts' = some time' →
      Within 0 9999 ts.toInt64.toInt → Within 0 9999 ts'.toInt64.toInt →
      (time < time' ↔ ts.toInt64.toInt < ts'.toInt64.toInt)) ∧
    toDays 1970 1 1 = 0 ∧
    (∀ year month day, IsDate year month day →
      let next := tomorrow year month day
      IsDate next.1 next.2.1 next.2.2 ∧
        toDays next.1 next.2.1 next.2.2 = toDays year month day + 1) := by
  have hform : ∀ ms : Int, (ofMillis ms).HasForm (String.ofList (ofMillis ms).text).toList := by
    intro ms
    rw [String.toList_ofList]
    exact (toMillis_ofMillis ms).1.hasForm
  refine ⟨?_, ?_, ?_, by decide, fun _ _ _ => toDays_tomorrow⟩
  · intro input body ts hbody
    refine ⟨⟨?_, sign_of_not_within⟩, ?_⟩
    · intro hrefused hwithin
      obtain ⟨signature, hsign⟩ := sign_of_within (k := k) hwithin hbody
      rw [hsign] at hrefused
      cases hrefused
    · intro hwithin
      have htime := (timestamp?_eq_some_iff (k := k) _).mpr ⟨⟨body, hbody⟩, hwithin, rfl⟩
      obtain ⟨hvalid, hmillis⟩ := toMillis_ofMillis ts.toInt64.toInt
      exact ⟨_, ofMillis ts.toInt64.toInt, htime, hvalid, hform _, hmillis⟩
  · intro input input' ts ts' time h h'
    obtain ⟨-, -, htime⟩ := (timestamp?_eq_some_iff time).mp h
    obtain ⟨-, -, htime'⟩ := (timestamp?_eq_some_iff time).mp h'
    have hnamed : (ofMillis ts.toInt64.toInt).HasForm time.toList := by
      rw [htime]
      exact hform _
    have hnamed' : (ofMillis ts'.toInt64.toInt).HasForm time.toList := by
      rw [htime']
      exact hform _
    have hsame := eq_of_hasForm hnamed hnamed'
    have hmillis : ts.toInt64.toInt = ts'.toInt64.toInt := by
      rw [← (toMillis_ofMillis ts.toInt64.toInt).2, hsame, (toMillis_ofMillis _).2]
    exact congrArg Int64.toUInt64 (Int64.toInt_inj.mp hmillis)
  · intro input input' ts ts' time time' h h' hyears hyears'
    obtain ⟨-, -, rfl⟩ := (timestamp?_eq_some_iff time).mp h
    obtain ⟨-, -, rfl⟩ := (timestamp?_eq_some_iff time').mp h'
    obtain ⟨hvalid, hmillis⟩ := toMillis_ofMillis ts.toInt64.toInt
    obtain ⟨hvalid', hmillis'⟩ := toMillis_ofMillis ts'.toInt64.toInt
    rw [String.lt_iff, lt_iff_of_hasForm (hform _) (hform _) ((within_iff _ _ _).mp hyears)
      ((within_iff _ _ _).mp hyears'), ← toMillis_lt_iff hvalid hvalid', hmillis, hmillis']

/-- What is signed of a request for an account's balance. -/
def balanceInput : SigningInput := ⟨"GET", "/api/v5/account/balance", "ccy=USDT", []⟩

/-- A time in 2023 is named by its date; the least number with a sign is refused. -/
theorem balance_is_timed (k : ApiKey) :
    (∃ time : String, k.timestamp? balanceInput 1700000000123 = some time ∧
      HasForm ⟨2023, 11, 14, 22, 13, 20, 123⟩ time.toList) ∧
    k.sign balanceInput (9223372036854775808 : UInt64).toNat = .error (.auth "Invalid timestamp") := by
  obtain ⟨hnames, -⟩ := timestamp_names_instant k
  have hbody : Utf8.decode balanceInput.body = .ok "" := by decide +kernel
  constructor
  · have hwithin : Within (-262143) 262142 (1700000000123 : UInt64).toInt64.toInt := by
      rw [within_iff]
      decide
    obtain ⟨time, t, htime, hvalid, hform, hmillis⟩ := (hnames balanceInput "" _ hbody).2 hwithin
    obtain ⟨hvalid', hmillis'⟩ := toMillis_ofMillis (1700000000123 : UInt64).toInt64.toInt
    have hfields : t = ⟨2023, 11, 14, 22, 13, 20, 123⟩ := by
      rw [toMillis_injective hvalid hvalid' (hmillis.trans hmillis'.symm)]
      decide
    rw [hfields] at hform
    exact ⟨time, htime, hform⟩
  · apply (hnames balanceInput "" 9223372036854775808 hbody).1.mpr
    rw [within_iff]
    decide

end ApiKey

end MarketFeed
