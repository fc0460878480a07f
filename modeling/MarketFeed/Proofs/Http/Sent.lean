import MarketFeed.Http.Client
import MarketFeed.Proofs.Http.Origin
import MarketFeed.Proofs.Http.Path

/-!
# What is sent

Path and query of an endpoint with parameters, as they are spelled and as they are sent. The two are
the same just if nothing in them has to be escaped, resolved or dropped (`sent_eq_spelled_iff`):
escapes only add characters, so the parts cannot make up for each other.
-/

namespace MarketFeed.Url

open Percent

/-! ## Parameters -/

theorem toList_queryText_cons (k v : String) (params : List (String × String)) :
    (Client.queryText ((k, v) :: params)).toList = k.toList ++ '=' :: v.toList ++
      if params = [] then [] else '&' :: (Client.queryText params).toList := by
  unfold Client.queryText
  cases params with
  | nil => simp
  | cons p rest => simp [String.toList_intercalate]

theorem form_cons (k v : String) (params : List (String × String)) :
    form ((k, v) :: params) = formText k ++ '=' :: formText v ++
      if params = [] then [] else '&' :: form params := by
  cases params with
  | nil => simp [form]
  | cons p rest => simp [form]

theorem form_eq_nil_iff (params : List (String × String)) : form params = [] ↔ params = [] := by
  cases params with
  | nil => simp [form]
  | cons p rest => simp [form_cons p.1 p.2 rest]

/-- Whether parameters are sent as they are spelled. -/
def isPlainForm (params : List (String × String)) : Bool :=
  params.all fun p => p.1.toList.all (isPlain inForm) && p.2.toList.all (isPlain inForm)

/-- A form is no shorter than what it spells, and the same just if it is plain. -/
theorem form_eq_queryText_iff (params : List (String × String)) :
    (Client.queryText params).toList.length ≤ (form params).length ∧
      (form params = (Client.queryText params).toList ↔ isPlainForm params) := by
  induction params with
  | nil => simp [form, Client.queryText, isPlainForm]
  | cons p rest ih =>
    obtain ⟨k, v⟩ := p
    obtain ⟨hle, hiff⟩ := ih
    have hk := length_le_formText k
    have hv := length_le_formText v
    rw [form_cons, toList_queryText_cons]
    constructor
    · split_ifs <;> simp only [List.length_append, List.length_cons, List.length_nil] <;> omega
    -- No part is shorter than what it spells, so where the whole is the same each part is.
    have hplain : isPlainForm ((k, v) :: rest) ↔
        formText k = k.toList ∧ formText v = v.toList ∧ form rest = (Client.queryText rest).toList := by
      rw [hiff, formText_eq_self_iff, formText_eq_self_iff]
      simp [isPlainForm, and_assoc]
    rw [hplain]
    constructor
    · intro h
      have htail : (if rest = [] then [] else '&' :: (Client.queryText rest).toList).length ≤
          (if rest = [] then [] else '&' :: form rest).length := by
        split_ifs <;> simp only [List.length_cons, List.length_nil] <;> omega
      have hlength := congrArg List.length h
      simp only [List.length_append, List.length_cons] at hlength
      obtain ⟨hpair, hrest⟩ := List.append_inj h (by simp only [List.length_append, List.length_cons]; omega)
      obtain ⟨hkey, hvalue⟩ := List.append_inj hpair (by omega)
      refine ⟨hkey, (List.cons.inj hvalue).2, ?_⟩
      split_ifs at hrest with hempty
      · rw [hempty]
        simp [form, Client.queryText]
      · exact (List.cons.inj hrest).2
    · rintro ⟨hk, hv, hrest⟩
      rw [hk, hv, hrest]

theorem queryText_eq_nil_iff (params : List (String × String)) :
    (Client.queryText params).toList = [] ↔ params = [] := by
  cases params with
  | nil => simp [Client.queryText]
  | cons p rest => simp [toList_queryText_cons p.1 p.2 rest]

/-! ## What is sent -/

/-- A query behind its mark; an empty one is dropped. -/
def marked (query : List Char) : List Char := if query = [] then [] else '?' :: query

theorem marked_of_ne_nil {query : List Char} (h : query ≠ []) : marked query = '?' :: query := if_neg h

theorem marked_injective {query query' : List Char} (h : marked query = marked query') :
    query = query' := by
  unfold marked at h
  split_ifs at h with h1 h2
  · rw [h1, h2]
  · exact (List.cons.inj h).2

/-- The query of an address with a form behind it. -/
def extended (query? : Option (List Char)) (params : List (String × String)) : List Char :=
  match query? with
  | none => form params
  | some [] => form params
  | some q => if params = [] then q else q ++ '&' :: form params

theorem target_withForm (u : Url) (params : List (String × String)) :
    (u.withForm params).target = u.path ++ marked (extended u.query? params) := by
  have hopt : ∀ query : List Char,
      target { u with query? := if query = [] then none else some query } =
        u.path ++ marked query := by
    intro query
    unfold target marked
    split_ifs <;> simp
  unfold withForm extended
  cases u.query? with
  | none => exact hopt _
  | some q =>
    cases q with
    | nil => exact hopt _
    | cons c q => exact hopt _

/-- What is spelled behind an endpoint. -/
def spelledQuery (params : List (String × String)) : List Char :=
  marked (Client.queryText params).toList

/-- Path and query that are sent for an endpoint and parameters. -/
def sent (endpoint : List Char) (params : List (String × String)) : List Char :=
  let (path, query?, _) := splitTail ((cleanEnd endpoint).dropWhile fun c => !authorityEnds.contains c)
  readPath path ++ marked (extended (query?.map fun q => encode inQuery (String.ofList q)) params)

theorem target_behind_origin {base endpoint : String} {u : Url} (hbase : IsOrigin base)
    (h : parse (base ++ endpoint) = .ok u) (params : List (String × String)) :
    (u.withForm params).target = sent endpoint.toList params := by
  obtain ⟨tail, rfl, hpath, hquery⟩ := parse_behind_origin hbase h
  rw [target_withForm, hpath, hquery]
  rfl

/-- Whether an endpoint and parameters are sent as they are spelled. -/
def isSentAsSpelled (endpoint : List Char) (params : List (String × String)) : Bool :=
  isStandardPath (endpoint.takeWhile (· != '?')) &&
    match endpoint.dropWhile (· != '?') with
    | [] => isPlainForm params
    | _ :: query => params.isEmpty && !query.isEmpty && query.all (isPlain inQuery)

/-! ### Queries -/

theorem extended_none_iff (params : List (String × String)) :
    marked (extended none params) = spelledQuery params ↔ isPlainForm params := by
  rw [← (form_eq_queryText_iff params).2]
  exact ⟨marked_injective, fun h => congrArg marked h⟩

theorem extended_some_iff (query : List Char) (params : List (String × String)) :
    marked (extended (some (encode inQuery (String.ofList query))) params) =
        '?' :: query ++ spelledQuery params ↔
      params = [] ∧ query ≠ [] ∧ ∀ c ∈ query, isPlain inQuery c := by
  have hform := (form_eq_queryText_iff params).1
  have hquery := length_le_encode inQuery query
  rw [← encode_eq_self_iff]
  cases query with
  | nil =>
    -- An empty query is dropped, and no form begins with the mark of a query.
    refine ⟨fun h => ?_, fun h => absurd rfl h.2.1⟩
    change marked (form params) = '?' :: marked (Client.queryText params).toList at h
    by_cases hparams : params = []
    · subst hparams
      cases h
    · rw [marked_of_ne_nil (mt (form_eq_nil_iff params).mp hparams),
        marked_of_ne_nil (mt (queryText_eq_nil_iff params).mp hparams)] at h
      have hmem : '?' ∈ form params := (List.cons.inj h).2 ▸ List.mem_cons_self
      exact absurd (isFormMark_of_mem_form hmem) (by decide)
  | cons c cs =>
    generalize encode inQuery (String.ofList (c :: cs)) = sentText at hquery ⊢
    cases sentText with
    | nil => simp at hquery
    | cons d ds =>
      by_cases hparams : params = []
      · subst hparams
        change marked (d :: ds) = '?' :: (c :: cs ++ marked []) ↔ _
        rw [marked_of_ne_nil (List.cons_ne_nil d ds)]
        simp [marked]
      · refine ⟨fun h => ?_, fun h => absurd h.1 hparams⟩
        have hextended : extended (some (d :: ds)) params = d :: ds ++ '&' :: form params :=
          if_neg hparams
        rw [hextended, marked_of_ne_nil (by simp), spelledQuery,
          marked_of_ne_nil (mt (queryText_eq_nil_iff params).mp hparams)] at h
        -- Both halves are no shorter than what they spell, and the marks between them differ.
        have hcut : d :: ds ++ '&' :: form params =
            c :: cs ++ '?' :: (Client.queryText params).toList := (List.cons.inj h).2
        have hlength := congrArg List.length hcut
        simp only [List.length_append, List.length_cons] at hlength hquery
        have hmarks := (List.append_inj hcut (by simp only [List.length_cons]; omega)).2
        exact absurd (List.cons.inj hmarks).1 (by decide)

/-! ### Characters -/

/-- A character that an address on the wire may have. -/
def isWireChar (c : Char) : Bool := !isOuterBlank c && c != '#'

theorem isWireChar_of_isPlain {plain : UInt8 → Bool} (hvisible : ∀ b, plain b → isVisible b)
    (hmark : plain 0x23 = false) {c : Char} (h : isPlain plain c) : isWireChar c := by
  rw [isPlain, Bool.and_eq_true, decide_eq_true_eq] at h
  obtain ⟨hascii, hplain⟩ := h
  have hseen := hvisible _ hplain
  simp only [isVisible, Bool.and_eq_true, decide_eq_true_eq, UInt8.le_iff_toNat_le,
    toNat_byte hascii] at hseen
  have hlow : 0x21 ≤ c.toNat := hseen.1
  simp only [isWireChar, isOuterBlank, Bool.and_eq_true, Bool.not_eq_true', decide_eq_false_iff_not,
    bne_iff_ne]
  refine ⟨by omega, ?_⟩
  rintro rfl
  rw [show UInt8.ofNat '#'.toNat = 0x23 from rfl, hmark] at hplain
  cases hplain

theorem isWireChar_of_inPath {c : Char} (h : isPlain inPath c) : isWireChar c :=
  isWireChar_of_isPlain (fun _ hb => (Bool.and_eq_true _ _ ▸ hb).1) (by decide) h

theorem isWireChar_of_inQuery {c : Char} (h : isPlain inQuery c) : isWireChar c :=
  isWireChar_of_isPlain (fun _ hb => (Bool.and_eq_true _ _ ▸ hb).1) (by decide) h

theorem isWireChar_of_mem_form {params : List (String × String)} {c : Char} (h : c ∈ form params) :
    isWireChar c :=
  isWireChar_of_inQuery (Bool.and_eq_true _ _ ▸ isFormMark_of_mem_form h).1

theorem isWireChar_of_mem_extended {query? : Option (List Char)} {params : List (String × String)}
    (hquery : ∀ q ∈ query?, ∀ c ∈ q, isWireChar c) {c : Char} (h : c ∈ extended query? params) :
    isWireChar c := by
  unfold extended at h
  split at h
  · exact isWireChar_of_mem_form h
  · exact isWireChar_of_mem_form h
  · rename_i q _
    split_ifs at h
    · exact hquery q rfl c h
    · rcases List.mem_append.mp h with h | h
      · exact hquery q rfl c h
      · rcases List.mem_cons.mp h with rfl | h
        · decide
        · exact isWireChar_of_mem_form h

theorem isWireChar_of_mem_sent {endpoint : List Char} {params : List (String × String)} {c : Char}
    (h : c ∈ sent endpoint params) : isWireChar c := by
  unfold sent at h
  generalize splitTail _ = parts at h
  obtain ⟨path, query?, fragment?⟩ := parts
  rcases List.mem_append.mp h with h | h
  · exact isWireChar_of_inPath (isPlain_of_mem_readPath h)
  · unfold marked at h
    split_ifs at h
    · cases h
    · rcases List.mem_cons.mp h with rfl | h
      · decide
      · refine isWireChar_of_mem_extended (fun q hq c hc => ?_) h
        obtain ⟨q, -, rfl⟩ := Option.map_eq_some_iff.mp hq
        exact isWireChar_of_inQuery (isPlain_of_mem_encode holdsMarks_inQuery hc)

/-! ### Endpoints -/

/-- The rest of an endpoint with a query, if there is one. -/
def queryTail : Option (List Char) → List Char
  | none => []
  | some q => '?' :: q

theorem exists_cut (cs : List Char) : ∃ path query?, cs = path ++ queryTail query? ∧ '?' ∉ path := by
  by_cases h : '?' ∈ cs
  · obtain ⟨path, query, hcs, hpath⟩ := List.eq_append_cons_of_mem h
    exact ⟨path, some query, hcs, hpath⟩
  · exact ⟨cs, none, (List.append_nil cs).symm, h⟩

theorem takeWhile_cut {path : List Char} (h : '?' ∉ path) {tail : List Char}
    (htail : tail.head?.all (· == '?')) :
    (path ++ tail).takeWhile (· != '?') = path ∧ (path ++ tail).dropWhile (· != '?') = tail := by
  have hpath : ∀ c ∈ path, c != '?' := fun c hc => by
    rw [bne_iff_ne]
    rintro rfl
    exact h hc
  rw [List.takeWhile_append_of_pos hpath, List.dropWhile_append_of_pos hpath]
  cases tail with
  | nil => simp
  | cons c rest =>
    obtain rfl : c = '?' := by simpa using htail
    simp

/-- Texts without a mark, each with nothing or a mark behind it, are the same as a whole just if they
are the same in both parts. -/
theorem cut_eq_cut_iff {path path' tail tail' : List Char} (h : '?' ∉ path) (h' : '?' ∉ path')
    (htail : tail.head?.all (· == '?')) (htail' : tail'.head?.all (· == '?')) :
    path ++ tail = path' ++ tail' ↔ path = path' ∧ tail = tail' := by
  refine ⟨fun heq => ?_, fun ⟨hpath, htail⟩ => by rw [hpath, htail]⟩
  obtain ⟨hpath, hrest⟩ := takeWhile_cut h htail
  obtain ⟨hpath', hrest'⟩ := takeWhile_cut h' htail'
  rw [heq] at hpath hrest
  exact ⟨hpath.symm.trans hpath', hrest.symm.trans hrest'⟩

theorem head?_marked (query : List Char) : (marked query).head?.all (· == '?') := by
  unfold marked
  split_ifs <;> simp

theorem head?_queryTail (query? : Option (List Char)) (params : List (String × String)) :
    (queryTail query? ++ spelledQuery params).head?.all (· == '?') := by
  cases query? with
  | none => exact head?_marked _
  | some q => simp [queryTail]

theorem splitTail_cut {path : List Char} {query? : Option (List Char)} (hmark : '?' ∉ path)
    (hpath : '#' ∉ path) (hquery : ∀ q ∈ query?, '#' ∉ q) :
    splitTail (path ++ queryTail query?) = (path, query?, none) := by
  have hplain : ∀ c ∈ path, !(['?', '#'].contains c) := by
    intro c hc
    simp only [List.contains_cons, List.contains_nil, Bool.or_false, Bool.not_eq_true',
      Bool.or_eq_false_iff, beq_eq_false_iff_ne]
    exact ⟨fun h => hmark (h ▸ hc), fun h => hpath (h ▸ hc)⟩
  unfold splitTail splitAny
  rw [List.takeWhile_append_of_pos hplain, List.dropWhile_append_of_pos hplain]
  cases query? with
  | none => simp [queryTail]
  | some q =>
    have hq : ∀ c ∈ q, !(['#'].contains c) := by
      intro c hc
      simp only [List.contains_cons, List.contains_nil, Bool.or_false, Bool.not_eq_true',
        beq_eq_false_iff_ne]
      exact fun h => hquery q rfl (h ▸ hc)
    have hall : q.takeWhile (fun c => !(['#'].contains c)) = q := by
      rw [← List.append_nil q, List.takeWhile_append_of_pos hq, List.takeWhile_nil]
    have hnone : q.dropWhile (fun c => !(['#'].contains c)) = [] := by
      rw [← List.append_nil q, List.dropWhile_append_of_pos hq, List.dropWhile_nil]
    have hstop : (!(['?', '#'].contains '?')) = false := by decide
    simp only [queryTail, List.takeWhile_cons, List.dropWhile_cons, hstop, Bool.false_eq_true,
      if_false, List.append_nil, hall, hnone, if_true]

/-- What is sent for an endpoint whose characters may all be part of an address. -/
theorem sent_cut {path : List Char} {query? : Option (List Char)} (params : List (String × String))
    (hslash : path.head? = some '/') (hmark : '?' ∉ path)
    (hwire : ∀ c ∈ path ++ queryTail query?, isWireChar c) :
    sent (path ++ queryTail query?) params =
      readPath path ++ marked (extended (query?.map fun q => encode inQuery (String.ofList q)) params) := by
  have hblank : ∀ c ∈ path ++ queryTail query?, ¬ isOuterBlank c := fun c hc => by
    have := hwire c hc
    simp only [isWireChar, Bool.and_eq_true, Bool.not_eq_true'] at this
    simp [this.1]
  have hhash : ∀ c ∈ path ++ queryTail query?, c ≠ '#' := fun c hc => by
    have := hwire c hc
    simp only [isWireChar, Bool.and_eq_true, bne_iff_ne] at this
    exact this.2
  have hstart : (path ++ queryTail query?).dropWhile (fun c => !authorityEnds.contains c) =
      path ++ queryTail query? := by
    cases path with
    | nil => cases hslash
    | cons c rest =>
      obtain rfl := Option.some.inj hslash
      exact List.dropWhile_cons_of_neg (by decide)
  unfold sent
  rw [cleanEnd_eq_self hblank, hstart, splitTail_cut hmark]
  · exact fun hmem => hhash '#' (List.mem_append_left _ hmem) rfl
  · rintro q rfl hmem
    exact hhash '#' (List.mem_append_right _ (List.mem_cons_of_mem _ hmem)) rfl

theorem isSentAsSpelled_cut {path : List Char} (hmark : '?' ∉ path) (query? : Option (List Char))
    (params : List (String × String)) :
    isSentAsSpelled (path ++ queryTail query?) params ↔ isStandardPath path ∧
      match query? with
      | none => isPlainForm params
      | some q => params = [] ∧ q ≠ [] ∧ ∀ c ∈ q, isPlain inQuery c := by
  have hhead : (queryTail query?).head?.all (· == '?') := by cases query? <;> simp [queryTail]
  obtain ⟨hpath, htail⟩ := takeWhile_cut hmark hhead
  unfold isSentAsSpelled
  rw [hpath, htail]
  cases query? with
  | none => simp [queryTail]
  | some q => simp [queryTail, and_assoc]

theorem isWireChar_of_isStandardPath {path : List Char} (h : isStandardPath path) :
    path.head? = some '/' ∧ ∀ c ∈ path, isWireChar c := by
  obtain ⟨rest, hrest⟩ := exists_readPath_eq_cons path
  have hsame := readPath_of_isStandardPath h
  refine ⟨by rw [← hsame, hrest]; rfl, fun c hc => ?_⟩
  exact isWireChar_of_inPath (isPlain_of_mem_readPath (hsame.symm ▸ hc))

/-- Path and query are sent as they are spelled just if nothing in them has to be escaped, resolved
or dropped. -/
theorem sent_eq_spelled_iff (endpoint : List Char) (params : List (String × String)) :
    sent endpoint params = endpoint ++ spelledQuery params ↔ isSentAsSpelled endpoint params := by
  obtain ⟨path, query?, rfl, hmark⟩ := exists_cut endpoint
  have hread : '?' ∉ readPath path := fun hmem =>
    absurd (isPlain_of_mem_readPath hmem) (by decide)
  -- Either side of the claim says that the endpoint is of characters that an address may have.
  have hiff : path.head? = some '/' → (∀ c ∈ path ++ queryTail query?, isWireChar c) →
      (sent (path ++ queryTail query?) params = path ++ queryTail query? ++ spelledQuery params ↔
        isSentAsSpelled (path ++ queryTail query?) params) := by
    intro hslash hwire
    rw [sent_cut params hslash hmark hwire, List.append_assoc,
      cut_eq_cut_iff hread hmark (head?_marked _) (head?_queryTail query? params),
      readPath_eq_self_iff, isSentAsSpelled_cut hmark]
    cases query? with
    | none => exact and_congr_right fun _ => extended_none_iff params
    | some q => exact and_congr_right fun _ => extended_some_iff q params
  constructor
  · intro h
    obtain ⟨rest, hrest⟩ : ∃ rest, sent (path ++ queryTail query?) params = '/' :: rest := by
      unfold sent
      generalize splitTail _ = parts
      obtain ⟨front, _, _⟩ := parts
      obtain ⟨rest, hfront⟩ := exists_readPath_eq_cons front
      dsimp only
      rw [hfront]
      exact ⟨_, rfl⟩
    refine (hiff ?_ fun c hc => ?_).mp h
    · cases path with
      | nil =>
        have hhead := head?_queryTail query? params
        rw [List.nil_append] at h hrest
        rw [← h, hrest] at hhead
        cases hhead
      | cons c cs =>
        rw [hrest] at h
        exact congrArg some (List.cons.inj h).1.symm
    · exact isWireChar_of_mem_sent (h ▸ List.mem_append_left _ hc)
  · intro h
    obtain ⟨hpath, hquery⟩ := (isSentAsSpelled_cut hmark query? params).mp h
    obtain ⟨hslash, hwire⟩ := isWireChar_of_isStandardPath hpath
    refine (hiff hslash fun c hc => ?_).mpr h
    rcases List.mem_append.mp hc with hc | hc
    · exact hwire c hc
    · cases query? with
      | none => cases hc
      | some q =>
        rcases List.mem_cons.mp hc with rfl | hc
        · decide
        · exact isWireChar_of_inQuery (hquery.2.2 c hc)

end MarketFeed.Url
