import Mathlib.Data.List.Induction
import MarketFeed.Proofs.Json.Fields
import MarketFeed.Proofs.Json.Grammar

/-!
# Reading what the grammar derives

The assembly of tokens follows the grammar: tokens that spell a value add this value to the innermost
container (`leadsOn_of_derives`), and tokens that complete an assembly begin with a value where one is
expected (`finds`). Main fact: a text reads as a value exactly if it spells it (`parse_eq_some_iff`).
-/

namespace MarketFeed.Json

/-- What is derived keeps its values apart. -/
theorem Derives.separated {d : Nat} {phrase : Phrase} {ts : List Token} (h : Derives d phrase ts)
    {rest : List Token} (hends : ∀ t ∈ rest.head?, t.endsValue = true) (hrest : Separated rest) :
    Separated (ts ++ rest) := by
  have hcons : ∀ {t : Token} {more : List Token}, t.endsValue = true →
      ∀ t' ∈ (t :: more).head?, t'.endsValue = true := by
    rintro t more h t' ⟨⟩
    exact h
  induction h generalizing rest with
  | atom v => exact ⟨hends, hrest⟩
  | array _ ih =>
    rw [List.cons_append, List.append_assoc]
    exact ih (hcons rfl) hrest
  | object _ ih =>
    rw [List.cons_append, List.append_assoc]
    exact ih (hcons rfl) hrest
  | item _ ih => exact ih hends hrest
  | field _ ih => exact ih hends hrest
  | moreItems _ _ ih ihmore =>
    rw [List.append_assoc]
    exact ih (hcons rfl) (ihmore hends hrest)
  | moreFields _ _ ih ihmore =>
    rw [List.cons_append, List.cons_append, List.append_assoc]
    exact ih (hcons rfl) (ihmore hends hrest)
  | _ => exact hrest

namespace Assembly

variable {limit : Nat}

/-! ## What is spelled is put together -/

theorem run_openBracket {stack : List Pending} (h : stack.length + 1 < limit) (rest : List Token) :
    run limit ⟨stack, .value⟩ (.openBracket :: rest) =
      run limit ⟨.array [] :: stack, .firstItem⟩ rest := by
  simp [run, step, begin, h]

theorem run_openBrace {stack : List Pending} (h : stack.length + 1 < limit) (rest : List Token) :
    run limit ⟨stack, .value⟩ (.openBrace :: rest) = run limit ⟨stack, .firstName []⟩ rest := by
  simp [run, step, begin, h]

/-- What comes first in a container is read as what comes later. -/
def StartsAlike (limit : Nat) (ts : List Token) : Phrase → Prop
  | .fields _ => ∀ stack rest,
    run limit ⟨stack, .firstName []⟩ (ts ++ rest) = run limit ⟨stack, .name []⟩ (ts ++ rest)
  | _ => ∀ stack rest,
    run limit ⟨stack, .firstItem⟩ (ts ++ rest) = run limit ⟨stack, .value⟩ (ts ++ rest)

theorem startsAlike_of_derives {d : Nat} {phrase : Phrase} {ts : List Token}
    (h : Derives d phrase ts) : StartsAlike limit ts phrase := by
  induction h with
  | item _ ih => exact ih
  | moreItems _ _ ih _ =>
    intro stack rest
    rw [List.append_assoc]
    exact ih stack _
  | _ => exact fun _ _ => rfl

/-- What reading a phrase leads to, when tokens spell it and its container is closed. -/
def LeadsOn (limit d : Nat) (ts : List Token) : Phrase → Prop
  | .value v => ∀ stack : List Pending, stack.length + d < limit → ∀ rest,
    run limit ⟨stack, .value⟩ (ts ++ rest) = run limit (add v stack) rest
  | .items items => ∀ (stack : List Pending) (acc : List Json), stack.length + 1 + d < limit →
    ∀ rest, run limit ⟨.array acc :: stack, .value⟩ (ts ++ .closeBracket :: rest) =
      run limit (add (.arr (acc.reverse ++ items)) stack) rest
  | .fields fields => ∀ (stack : List Pending) (acc : List (String × Json)),
    stack.length + 1 + d < limit → ∀ rest,
    run limit ⟨stack, .name acc⟩ (ts ++ .closeBrace :: rest) =
      run limit (add (object (acc.reverse ++ fields)) stack) rest

theorem leadsOn_of_derives {d : Nat} {phrase : Phrase} {ts : List Token} (h : Derives d phrase ts) :
    LeadsOn limit d ts phrase := by
  induction h with
  | atom v => exact fun _ _ _ => rfl
  | str s => exact fun _ _ _ => rfl
  | noItems => exact fun stack hd rest => run_openBracket (by omega) _
  | noFields => exact fun stack hd rest => run_openBrace (by omega) _
  | array h ih =>
    intro stack hd rest
    rw [List.cons_append, List.append_assoc, run_openBracket (by omega),
      startsAlike_of_derives h]
    exact ih stack [] (by omega) rest
  | object h ih =>
    intro stack hd rest
    rw [List.cons_append, List.append_assoc, run_openBrace (by omega), startsAlike_of_derives h]
    exact ih stack [] (by omega) rest
  | item _ ih =>
    intro stack acc hd rest
    rw [ih (.array acc :: stack) hd]
    simp [run, add, step]
  | moreItems _ _ ih ihmore =>
    intro stack acc hd rest
    rw [List.append_assoc, ih (.array acc :: stack) hd]
    refine (ihmore stack _ hd rest).trans ?_
    simp
  | @field d name _ _ _ ih =>
    intro stack acc hd rest
    refine (ih (.object acc name :: stack) hd _).trans ?_
    simp [run, add, step]
  | @moreFields d name _ _ _ _ _ _ ih ihmore =>
    intro stack acc hd rest
    rw [List.cons_append, List.cons_append, List.append_assoc]
    refine (ih (.object acc name :: stack) hd _).trans ((ihmore stack _ hd rest).trans ?_)
    simp

/-! ## What is put together is spelled -/

/-- An assembly and tokens that complete it to a value. -/
def Completes (limit : Nat) (a : Assembly) (ts : List Token) (w : Json) : Prop :=
  (run limit a ts).bind result? = some w

theorem completes_cons {a : Assembly} {t : Token} {ts : List Token} {w : Json} :
    Completes limit a (t :: ts) w ↔ ∃ b, a.step limit t = some b ∧ Completes limit b ts w := by
  rw [Completes, run, Option.bind_assoc, Option.bind_eq_some_iff]
  rfl

/-- Tokens that complete a place for a value begin with a value. -/
def FindsValue (limit : Nat) (ts : List Token) : Prop :=
  ∀ (stack : List Pending) (d : Nat) (w : Json), stack.length + d + 1 = limit →
    Completes limit ⟨stack, .value⟩ ts w → ∃ v front rest, ts = front ++ rest ∧
      Derives d (.value v) front ∧ Completes limit (add v stack) rest w

/-- Tokens that complete an open array begin with items and their closing bracket. -/
def FindsItems (limit : Nat) (ts : List Token) : Prop :=
  ∀ (stack : List Pending) (acc : List Json) (d : Nat) (w : Json), stack.length + 1 + d + 1 = limit →
    Completes limit ⟨.array acc :: stack, .value⟩ ts w → ∃ items front rest,
      ts = front ++ .closeBracket :: rest ∧ Derives d (.items items) front ∧
      Completes limit (add (.arr (acc.reverse ++ items)) stack) rest w

/-- Tokens that complete an open object begin with fields and their closing brace. -/
def FindsFields (limit : Nat) (ts : List Token) : Prop :=
  ∀ (stack : List Pending) (acc : List (String × Json)) (d : Nat) (w : Json),
    stack.length + 1 + d + 1 = limit → Completes limit ⟨stack, .name acc⟩ ts w →
    ∃ fields front rest, ts = front ++ .closeBrace :: rest ∧ Derives d (.fields fields) front ∧
      Completes limit (add (object (acc.reverse ++ fields)) stack) rest w

theorem findsItems_of_findsValue {ts : List Token} (hvalue : FindsValue limit ts)
    (hmore : ∀ ts', ts'.length < ts.length → FindsItems limit ts') : FindsItems limit ts := by
  intro stack acc d w hd h
  obtain ⟨v, front, rest, rfl, hfront, hrest⟩ := hvalue (.array acc :: stack) d w hd h
  cases rest with
  | nil => cases hrest
  | cons t rest =>
    obtain ⟨b, hb, hrest⟩ := completes_cons.mp hrest
    cases t with
    | closeBracket =>
      cases hb
      exact ⟨[v], front, rest, rfl, .item hfront, by simpa using hrest⟩
    | comma =>
      cases hb
      obtain ⟨items, more, behind, rfl, hitems, hbehind⟩ :=
        hmore rest (by simp; omega) stack (v :: acc) d w hd hrest
      exact ⟨v :: items, front ++ .comma :: more, behind, by simp, .moreItems hfront hitems,
        by simpa using hbehind⟩
    | _ => cases hb

theorem findsFields_of_findsValue {ts : List Token}
    (h : ∀ ts', ts'.length < ts.length → FindsValue limit ts' ∧ FindsFields limit ts') :
    FindsFields limit ts := by
  intro stack acc d w hd hts
  -- A name and a colon come first, then a value.
  obtain ⟨name, more, rfl, hmore⟩ : ∃ name more, ts = .str name :: .colon :: more ∧
      Completes limit ⟨.object acc name :: stack, .value⟩ more w := by
    match ts, hts with
    | .str name :: .colon :: more, hts => exact ⟨name, more, rfl, hts⟩
    | [.str name], hts => cases hts
    | [], hts => cases hts
  obtain ⟨v, front, rest, rfl, hfront, hrest⟩ :=
    (h more (by simp only [List.length_cons]; omega)).1 (.object acc name :: stack) d w hd hmore
  cases rest with
  | nil => cases hrest
  | cons t rest =>
    obtain ⟨b, hb, hrest⟩ := completes_cons.mp hrest
    cases t with
    | closeBrace =>
      cases hb
      exact ⟨[(name, v)], _, rest, rfl, .field hfront, by simpa using hrest⟩
    | comma =>
      cases hb
      obtain ⟨fields, more, behind, rfl, hfields, hbehind⟩ :=
        (h rest (by simp; omega)).2 stack ((name, v) :: acc) d w hd hrest
      exact ⟨(name, v) :: fields, .str name :: .colon :: (front ++ .comma :: more), behind, by simp,
        .moreFields hfront hfields, by simpa using hbehind⟩
    | _ => cases hb

theorem findsValue_of_shorter {ts : List Token}
    (h : ∀ ts', ts'.length < ts.length → FindsItems limit ts' ∧ FindsFields limit ts') :
    FindsValue limit ts := by
  intro stack d w hd hts
  cases ts with
  | nil => cases hts
  | cons t ts =>
    obtain ⟨b, hb, hts⟩ := completes_cons.mp hts
    cases t with
    | atom v =>
      cases hb
      exact ⟨v, [.atom v], ts, rfl, .atom v, hts⟩
    | str s =>
      cases hb
      exact ⟨.str s, [.str s], ts, rfl, .str s, hts⟩
    | openBracket =>
      obtain ⟨hdeep, hb⟩ := Option.ite_none_right_eq_some.mp hb
      cases hb
      dsimp only at hdeep
      obtain ⟨d, rfl⟩ : ∃ k, d = k + 1 := ⟨d - 1, by omega⟩
      cases ts with
      | nil => cases hts
      | cons t ts =>
        by_cases ht : t = .closeBracket
        · subst ht
          exact ⟨.arr [], _, ts, rfl, .noItems, hts⟩
        · have hvalue : Completes limit ⟨.array [] :: stack, .value⟩ (t :: ts) w := by
            cases t <;> first | exact absurd rfl ht | exact hts
          obtain ⟨items, front, rest, heq, hitems, hrest⟩ :=
            (h (t :: ts) (by simp)).1 stack [] d w (by omega) hvalue
          exact ⟨.arr items, _, rest, by simp [heq], .array hitems, hrest⟩
    | openBrace =>
      obtain ⟨hdeep, hb⟩ := Option.ite_none_right_eq_some.mp hb
      cases hb
      dsimp only at hdeep
      obtain ⟨d, rfl⟩ : ∃ k, d = k + 1 := ⟨d - 1, by omega⟩
      cases ts with
      | nil => cases hts
      | cons t ts =>
        by_cases ht : t = .closeBrace
        · subst ht
          exact ⟨.obj [], _, ts, rfl, .noFields, hts⟩
        · have hname : Completes limit ⟨stack, .name []⟩ (t :: ts) w := by
            cases t <;> first | exact absurd rfl ht | exact hts
          obtain ⟨fields, front, rest, heq, hfields, hrest⟩ :=
            (h (t :: ts) (by simp)).2 stack [] d w (by omega) hname
          exact ⟨object fields, _, rest, by simp [heq], .object hfields, hrest⟩
    | _ => cases hb

theorem finds (ts : List Token) :
    FindsValue limit ts ∧ FindsItems limit ts ∧ FindsFields limit ts := by
  induction hn : ts.length using Nat.strongRecOn generalizing ts with
  | ind n ih =>
    subst hn
    have hshorter := fun ts' (h : ts'.length < ts.length) => ih _ h ts' rfl
    have hvalue : FindsValue limit ts := findsValue_of_shorter fun ts' h => (hshorter ts' h).2
    exact ⟨hvalue, findsItems_of_findsValue hvalue fun ts' h => (hshorter ts' h).2.1,
      findsFields_of_findsValue fun ts' h => ⟨(hshorter ts' h).1, (hshorter ts' h).2.2⟩⟩

end Assembly

/-! ## Texts -/

theorem parse_eq_some_of_spells {s : String} {v : Json} (h : Spells s v) : parse s = some v := by
  obtain ⟨ts, hspaced, hderives⟩ := h
  have hsep : Separated (ts ++ []) := hderives.separated nofun trivial
  rw [List.append_nil] at hsep
  have hleads : Assembly.LeadsOn maxDepth (maxDepth - 1) ts (.value v) :=
    Assembly.leadsOn_of_derives hderives
  have hrun := hleads [] (by decide) []
  rw [List.append_nil] at hrun
  rw [parse, parseWithin, tokens_of_spaced hspaced hsep, Option.bind_eq_bind, Option.bind_some,
    Assembly.start, hrun]
  rfl

theorem spells_of_parse {s : String} {v : Json} (h : parse s = some v) : Spells s v := by
  obtain ⟨ts, hts, h⟩ := Option.bind_eq_some_iff.mp h
  obtain ⟨w, front, rest, rfl, hfront, hrest⟩ :=
    (Assembly.finds ts).1 [] (maxDepth - 1) v (by decide) h
  cases rest with
  | nil =>
    cases hrest
    exact ⟨front, by simpa using spaced_of_tokensWith hts, hfront⟩
  | cons t rest =>
    obtain ⟨b, hb, -⟩ := Assembly.completes_cons.mp hrest
    cases t <;> cases hb

/-- **A text reads as a value exactly if it spells it**: the reader takes just the texts of the
grammar, nested less deep than the limit and with numbers that are not too large, and each of them has
one value. -/
theorem parse_eq_some_iff (s : String) (v : Json) : parse s = some v ↔ Spells s v :=
  ⟨spells_of_parse, parse_eq_some_of_spells⟩

/-! ## Values that are spelled -/

/-- All objects in a value have their fields in the order of their names. -/
inductive IsTidy : Json → Prop
  | null : IsTidy .null
  | bool (b : Bool) : IsTidy (.bool b)
  | int (n : Int) : IsTidy (.int n)
  | double (x : Binary64) : IsTidy (.double x)
  | str (s : String) : IsTidy (.str s)
  | arr {items : List Json} (h : ∀ v ∈ items, IsTidy v) : IsTidy (.arr items)
  | obj {fields : List (String × Json)} (h : ∀ f ∈ fields, IsTidy f.2)
    (hordered : (Json.obj fields).IsOrdered) : IsTidy (.obj fields)

theorem NumberText.isTidy {t : NumberText} {v : Json} (h : t.value? = some v) : v.IsTidy := by
  have hdouble : ∀ {x? : Option Binary64}, x?.map Json.double = some v → v.IsTidy := by
    intro x? hx
    obtain ⟨x, -, rfl⟩ := Option.map_eq_some_iff.mp hx
    exact .double x
  unfold value? at h
  dsimp only at h
  split at h
  · split_ifs at h
    · rw [← Option.some.inj h]
      exact .int _
    · rw [← Option.some.inj h]
      exact .int _
    · exact hdouble h
  · split at h
    · exact hdouble h
    · split_ifs at h
      · rw [← Option.some.inj h]
        exact .double _
      · exact hdouble h
      · exact hdouble h

theorem Token.Spelled.isTidy {v : Json} {text : List Char} (h : (Token.atom v).Spelled text) :
    v.IsTidy := by
  cases h with
  | null => exact .null
  | true => exact .bool .true
  | false => exact .bool .false
  | number _ _ hv => exact NumberText.isTidy hv
  | negative _ _ hv => exact NumberText.isTidy hv

theorem Spaced.isTidy {ts : List Token} {cs : List Char} (h : Spaced ts cs) :
    ∀ v, .atom v ∈ ts → v.IsTidy := by
  induction h with
  | nil => nofun
  | blank _ _ ih => exact ih
  | token ht _ ih =>
    intro v hv
    rcases List.mem_cons.mp hv with rfl | hv
    · exact ht.isTidy
    · exact ih v hv

/-- What a phrase consists of is tidy. -/
def Phrase.IsTidy : Phrase → Prop
  | .value v => v.IsTidy
  | .items vs => ∀ v ∈ vs, v.IsTidy
  | .fields fs => ∀ f ∈ fs, f.2.IsTidy

theorem Derives.isTidy {d : Nat} {phrase : Phrase} {ts : List Token} (h : Derives d phrase ts)
    (hts : ∀ v, .atom v ∈ ts → v.IsTidy) : phrase.IsTidy := by
  induction h with
  | atom v => exact hts v (by simp)
  | str s => exact Json.IsTidy.str s
  | noItems => exact Json.IsTidy.arr nofun
  | noFields => exact Json.IsTidy.obj nofun .nil
  | array _ ih => exact Json.IsTidy.arr (ih fun v hv => hts v (by simp [hv]))
  | @object _ fields _ _ ih =>
    have hfields : ∀ f ∈ fields, f.2.IsTidy := ih fun v hv => hts v (by simp [hv])
    exact Json.IsTidy.obj (fun f hf => hfields f (mem_of_mem_object hf)) (isOrdered_object fields)
  | item _ ih => exact List.forall_mem_singleton.mpr (ih hts)
  | field _ ih => exact List.forall_mem_singleton.mpr (ih fun v hv => hts v (by simp [hv]))
  | moreItems _ _ ih ihmore =>
    exact List.forall_mem_cons.mpr
      ⟨ih fun v hv => hts v (by simp [hv]), ihmore fun v hv => hts v (by simp [hv])⟩
  | moreFields _ _ ih ihmore =>
    exact List.forall_mem_cons.mpr
      ⟨ih fun v hv => hts v (by simp [hv]), ihmore fun v hv => hts v (by simp [hv])⟩

theorem Spells.isTidy {s : String} {v : Json} (h : Spells s v) : v.IsTidy := by
  obtain ⟨ts, hspaced, hderives⟩ := h
  exact hderives.isTidy hspaced.isTidy

/-- A text spells one value at most. -/
theorem Spells.unique {s : String} {v w : Json} (h : Spells s v) (h' : Spells s w) : v = w :=
  Option.some.inj ((parse_eq_some_of_spells h).symm.trans (parse_eq_some_of_spells h'))

end MarketFeed.Json
