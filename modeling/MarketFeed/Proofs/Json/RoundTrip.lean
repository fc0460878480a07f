import Mathlib.Data.List.Induction
import MarketFeed.Json.Parser
import MarketFeed.Proofs.Json.Tokens

/-!
# Reading a printed value

The text of a value reads as that value if it is nested less deep than the limit, and is refused
otherwise (`parse_text`). Behind an object whose fields come in another order stands the object with
its fields in order (`parse_text_obj`).
-/

namespace MarketFeed.Json

mutual

/-- How deep containers lie in each other in a value. -/
def depth : Json → Nat
  | .arr items => itemsDepth items + 1
  | .obj fields => fieldsDepth fields + 1
  | _ => 0

def itemsDepth : List Json → Nat
  | [] => 0
  | v :: rest => max (depth v) (itemsDepth rest)

def fieldsDepth : List (String × Json) → Nat
  | [] => 0
  | (_, v) :: rest => max (depth v) (fieldsDepth rest)

end

/-! ## Fields in order -/

theorem insertField_of_lt {name : String} {fields : List (String × Json)}
    (h : ∀ k ∈ fields.map Prod.fst, k < name) (v : Json) :
    insertField name v fields = fields ++ [(name, v)] := by
  induction fields with
  | nil => rfl
  | cons f rest ih =>
    obtain ⟨k, w⟩ := f
    have hk : k < name := h k (by simp)
    rw [insertField, if_neg (String.lt_asymm hk), if_neg (String.ne_of_lt hk).symm,
      ih fun k hk => h k (List.mem_cons_of_mem _ hk)]
    rfl

/-- Fields that come in the order of their names stay as they are. -/
theorem object_of_pairwise {fields : List (String × Json)}
    (h : (fields.map Prod.fst).Pairwise (· < ·)) : object fields = .obj fields := by
  have hfold : fields.foldl (fun acc f => insertField f.1 f.2 acc) [] = fields := by
    induction fields using List.reverseRecOn with
    | nil => rfl
    | append_singleton fields f ih =>
      rw [List.map_append, List.pairwise_append] at h
      rw [List.foldl_append, ih h.1]
      exact insertField_of_lt (fun k hk => h.2.2 k hk f.1 (by simp)) f.2
  exact congrArg obj hfold

namespace Assembly

variable {limit : Nat}

theorem run_append (a : Assembly) (ts ts' : List Token) :
    run limit a (ts ++ ts') = (run limit a ts).bind (run limit · ts') := by
  induction ts generalizing a with
  | nil => rfl
  | cons t ts ih =>
    rw [List.cons_append, run, run, Option.bind_assoc]
    simp only [ih]

/-- A step that a bound allows, and what comes of it under another bound. -/
theorem bind_ite {α β : Type} {p q r : Prop} [Decidable p] [Decidable q] [Decidable r] {a : α} {b : β}
    {f : α → Option β} (hr : r ↔ p ∧ q) (hf : p → f a = if q then some b else none) :
    (if p then some a else none).bind f = if r then some b else none := by
  by_cases hp : p
  · rw [if_pos hp, Option.bind_some, hf hp]
    simp [hr, hp]
  · rw [if_neg hp, if_neg (fun h => hp (hr.mp h).1)]
    rfl

theorem run_firstItem (stack : List Pending) (v : Json) (ts : List Token) :
    run limit ⟨stack, .firstItem⟩ (v.parts ++ ts) = run limit ⟨stack, .value⟩ (v.parts ++ ts) := by
  cases v <;> rfl

theorem run_firstItems (stack : List Pending) {items : List Json} (h : items ≠ []) :
    run limit ⟨stack, .firstItem⟩ (itemParts items) =
      run limit ⟨stack, .value⟩ (itemParts items) := by
  match items with
  | [] => exact absurd rfl h
  | [v] =>
    rw [itemParts, ← List.append_nil v.parts]
    exact run_firstItem stack v []
  | v :: w :: more => exact run_firstItem stack v _

theorem run_firstField (stack : List Pending) {fields : List (String × Json)} (h : fields ≠ []) :
    run limit ⟨stack, .firstName []⟩ (fieldParts fields) =
      run limit ⟨stack, .name []⟩ (fieldParts fields) := by
  match fields with
  | [] => exact absurd rfl h
  | [f] => rfl
  | f :: g :: more => rfl

/-- An array is put together if its items are. -/
theorem run_brackets {items : List Json} {stack : List Pending}
    (h : items ≠ [] → stack.length + 1 < limit →
      run limit ⟨.array [] :: stack, .value⟩ (itemParts items) =
        if stack.length + 1 + itemsDepth items < limit then
          some ⟨.array items.reverse :: stack, .more⟩ else none) :
    run limit ⟨stack, .value⟩ (arr items).parts =
      if stack.length + (arr items).depth < limit then some (add (arr items) stack) else none := by
  have hopen : run limit ⟨stack, .value⟩ (arr items).parts =
      (if stack.length + 1 < limit then some ⟨.array [] :: stack, .firstItem⟩ else none).bind
        (run limit · (itemParts items ++ [.closeBracket])) := rfl
  rw [hopen]
  refine bind_ite (q := stack.length + 1 + itemsDepth items < limit) (by rw [depth]; omega)
    fun hd => ?_
  by_cases hne : items = []
  · subst hne
    exact (if_pos hd).symm
  · rw [run_append, run_firstItems _ hne, h hne hd]
    split_ifs
    · simp [run, step]
    · rfl

/-- An object is put together if its fields are, and its fields are put in order. -/
theorem run_braces {fields : List (String × Json)} {stack : List Pending}
    (h : fields ≠ [] → stack.length + 1 < limit →
      run limit ⟨stack, .name []⟩ (fieldParts fields) =
        if stack.length + 1 + fieldsDepth fields < limit then
          some ⟨.object fields.reverse "" :: stack, .more⟩ else none) :
    run limit ⟨stack, .value⟩ (obj fields).parts =
      if stack.length + (obj fields).depth < limit then some (add (object fields) stack)
      else none := by
  have hopen : run limit ⟨stack, .value⟩ (obj fields).parts =
      (if stack.length + 1 < limit then some ⟨stack, .firstName []⟩ else none).bind
        (run limit · (fieldParts fields ++ [.closeBrace])) := rfl
  rw [hopen]
  refine bind_ite (q := stack.length + 1 + fieldsDepth fields < limit) (by rw [depth]; omega)
    fun hd => ?_
  by_cases hne : fields = []
  · subst hne
    exact (if_pos hd).symm
  · rw [run_append, run_firstField _ hne, h hne hd]
    split_ifs
    · simp [run, step]
    · rfl

mutual

/-- The tokens of a value are put together to the value, unless it is nested too deep. -/
theorem run_parts : ∀ (v : Json), v.isExact = true → ∀ (stack : List Pending),
    stack.length < limit → run limit ⟨stack, .value⟩ v.parts =
      if stack.length + v.depth < limit then some (add v stack) else none
  | .null, _, _, h => (if_pos h).symm
  | .bool _, _, _, h => (if_pos h).symm
  | .int _, _, _, h => (if_pos h).symm
  | .double _, hv, _, _ => by simp [isExact] at hv
  | .str _, _, _, h => (if_pos h).symm
  | .arr items, hv, _, _ =>
    run_brackets fun hne hd => by simpa using run_itemParts items hne hv [] hd
  | .obj fields, hv, stack, _ => by
    simp only [isExact, Bool.and_eq_true, decide_eq_true_eq] at hv
    have hbraces : run limit ⟨stack, .value⟩ (obj fields).parts =
        if stack.length + (obj fields).depth < limit then some (add (object fields) stack)
        else none :=
      run_braces fun hne hd => by simpa using run_fieldParts fields hne hv.2 [] hd
    rwa [object_of_pairwise hv.1] at hbraces

theorem run_itemParts : ∀ (items : List Json), items ≠ [] → areExact items = true →
    ∀ (acc : List Json) {stack : List Pending}, stack.length + 1 < limit →
    run limit ⟨.array acc :: stack, .value⟩ (itemParts items) =
      if stack.length + 1 + itemsDepth items < limit then
        some ⟨.array (items.reverse ++ acc) :: stack, .more⟩ else none
  | [], hne, _, _, _, _ => absurd rfl hne
  | [v], _, hv, acc, stack, h => by
    simp only [areExact, Bool.and_true] at hv
    have hfirst := run_parts v hv (.array acc :: stack) h
    rw [itemParts, hfirst, itemsDepth, itemsDepth, Nat.max_zero]
    rfl
  | v :: w :: more, _, hv, acc, stack, h => by
    rw [areExact, Bool.and_eq_true] at hv
    have hfirst := run_parts v hv.1 (.array acc :: stack) h
    have hmore := run_itemParts (w :: more) (List.cons_ne_nil w more) hv.2 (v :: acc) h
    rw [itemParts, run_append, hfirst]
    · refine bind_ite (q := stack.length + 1 + itemsDepth (w :: more) < limit) ?_
        fun _ => hmore.trans (by simp)
      rw [itemsDepth, List.length_cons]
      omega
    · nofun

theorem run_fieldParts : ∀ (fields : List (String × Json)), fields ≠ [] → haveExact fields = true →
    ∀ (acc : List (String × Json)) {stack : List Pending}, stack.length + 1 < limit →
    run limit ⟨stack, .name acc⟩ (fieldParts fields) =
      if stack.length + 1 + fieldsDepth fields < limit then
        some ⟨.object (fields.reverse ++ acc) "" :: stack, .more⟩ else none
  | [], hne, _, _, _, _ => absurd rfl hne
  | [(k, v)], _, hv, acc, stack, h => by
    simp only [haveExact, Bool.and_true] at hv
    have hvalue := run_parts v hv (.object acc k :: stack) h
    rw [fieldsDepth, fieldsDepth, Nat.max_zero]
    exact hvalue
  | (k, v) :: f :: more, _, hv, acc, stack, h => by
    rw [haveExact, Bool.and_eq_true] at hv
    have hvalue := run_parts v hv.1 (.object acc k :: stack) h
    have hmore := run_fieldParts (f :: more) (List.cons_ne_nil f more) hv.2 ((k, v) :: acc) h
    have hname : run limit ⟨stack, .name acc⟩ (fieldParts ((k, v) :: f :: more)) =
        run limit ⟨.object acc k :: stack, .value⟩ (v.parts ++ .comma :: fieldParts (f :: more)) := rfl
    rw [hname, run_append, hvalue]
    refine bind_ite (q := stack.length + 1 + fieldsDepth (f :: more) < limit) ?_
      fun _ => hmore.trans (by simp)
    rw [fieldsDepth, List.length_cons]
    omega

end

end Assembly

/-! ## Texts -/

theorem parse_eq_of_lexes {v w : Json} (h : Lexes v.chars v.parts)
    (hrun : Assembly.run maxDepth ⟨[], .value⟩ v.parts =
      if ([] : List Pending).length + v.depth < maxDepth then some (Assembly.add w []) else none) :
    parse v.text = if v.depth < maxDepth then some w else none := by
  have htokens : tokens v.text.toList = some v.parts := by
    rw [text, String.toList_ofList]
    exact h.tokens_eq
  rw [List.length_nil, Nat.zero_add] at hrun
  rw [parse, parseWithin, htokens, Option.bind_eq_bind, Option.bind_some, Assembly.start, hrun]
  split_ifs <;> rfl

/-- A value reads back from its text, unless it is nested too deep. -/
theorem parse_text {v : Json} (h : v.isExact = true) :
    parse v.text = if v.depth < maxDepth then some v else none := by
  refine parse_eq_of_lexes ?_ (Assembly.run_parts v h [] (by decide))
  simpa using lexes_chars v h endsValue_nil .nil

/-- An object reads back from its text with its fields in order, unless it is nested too deep. -/
theorem parse_text_obj {fields : List (String × Json)} (h : haveExact fields = true) :
    parse (obj fields).text =
      if (obj fields).depth < maxDepth then some (object fields) else none := by
  refine parse_eq_of_lexes ?_ (Assembly.run_braces fun hne hd => ?_)
  · simpa using lexes_obj h .nil
  · simpa using Assembly.run_fieldParts fields hne h [] hd

end MarketFeed.Json
