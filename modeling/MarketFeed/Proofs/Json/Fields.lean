import Mathlib.Data.List.Induction
import Mathlib.Data.List.Nodup
import Mathlib.Tactic.SplitIfs
import MarketFeed.Json.Parser

/-!
# Fields of objects

An object that was read has its fields in the order of their names (`isOrdered_of_parse`), so each
name stands in it once (`eq_of_mem_fields`).
-/

namespace MarketFeed.Json

/-- The fields of an object are in the order of their names. -/
def IsOrdered : Json → Prop
  | .obj fields => fields.Pairwise (·.1 < ·.1)
  | _ => True

/-! ## Fields that are put in their places -/

theorem lt_of_not_lt {a b : String} (h : ¬a < b) (hne : a ≠ b) : b < a := by
  refine Decidable.byContradiction fun h' => hne ?_
  exact String.le_antisymm (String.not_lt.mp h') (String.not_lt.mp h)

theorem name_of_mem_insertField {name : String} {v : Json} {fields : List (String × Json)}
    {f : String × Json} (h : f ∈ insertField name v fields) : f.1 = name ∨ f ∈ fields := by
  induction fields with
  | nil =>
    rw [insertField, List.mem_singleton] at h
    exact .inl (by rw [h])
  | cons g rest ih =>
    obtain ⟨k, w⟩ := g
    rw [insertField] at h
    split_ifs at h
    · rcases List.mem_cons.mp h with rfl | h
      · exact .inl rfl
      · exact .inr h
    · rcases List.mem_cons.mp h with rfl | h
      · exact .inl rfl
      · exact .inr (List.mem_cons_of_mem _ h)
    · rcases List.mem_cons.mp h with rfl | h
      · exact .inr List.mem_cons_self
      · exact (ih h).imp_right (List.mem_cons_of_mem _)

theorem pairwise_insertField {fields : List (String × Json)} (h : fields.Pairwise (·.1 < ·.1))
    (name : String) (v : Json) : (insertField name v fields).Pairwise (·.1 < ·.1) := by
  induction fields with
  | nil => exact List.pairwise_singleton _ _
  | cons f rest ih =>
    obtain ⟨k, w⟩ := f
    obtain ⟨hk, hrest⟩ := List.pairwise_cons.mp h
    rw [insertField]
    split_ifs with hlt heq
    · refine List.pairwise_cons.mpr ⟨fun g hg => ?_, h⟩
      rcases List.mem_cons.mp hg with rfl | hg
      · exact hlt
      · exact String.lt_trans hlt (hk g hg)
    · subst heq
      exact List.pairwise_cons.mpr ⟨hk, hrest⟩
    · refine List.pairwise_cons.mpr ⟨fun g hg => ?_, ih hrest⟩
      rcases name_of_mem_insertField hg with hname | hg
      · rw [hname]
        exact lt_of_not_lt hlt heq
      · exact hk g hg

theorem isOrdered_object (fields : List (String × Json)) : (object fields).IsOrdered := by
  have hfold : ∀ acc : List (String × Json), acc.Pairwise (·.1 < ·.1) →
      (fields.foldl (fun acc f => insertField f.1 f.2 acc) acc).Pairwise (·.1 < ·.1) := by
    induction fields with
    | nil => exact fun _ h => h
    | cons f rest ih => exact fun acc h => ih _ (pairwise_insertField h f.1 f.2)
  exact hfold [] .nil

/-- The fields of an object but that of a name. -/
def eraseField (name : String) (fields : List (String × Json)) : List (String × Json) :=
  fields.filter (·.1 ≠ name)

theorem eraseField_eq_self {name : String} {fields : List (String × Json)}
    (h : ∀ f ∈ fields, f.1 ≠ name) : eraseField name fields = fields :=
  List.filter_eq_self.mpr fun f hf => decide_eq_true (h f hf)

/-- The place of a field among the others: there it is put, and there it is left out. -/
theorem insertField_eq_append {fields : List (String × Json)} (h : (obj fields).IsOrdered)
    (name : String) (v : Json) : ∃ before after,
      insertField name v fields = before ++ (name, v) :: after ∧
      eraseField name fields = before ++ after := by
  induction fields with
  | nil => exact ⟨[], [], rfl, rfl⟩
  | cons f rest ih =>
    obtain ⟨k, w⟩ := f
    obtain ⟨hk, hrest⟩ := List.pairwise_cons.mp h
    rw [insertField]
    split_ifs with hlt heq
    · refine ⟨[], (k, w) :: rest, rfl, eraseField_eq_self fun g hg => ?_⟩
      rcases List.mem_cons.mp hg with rfl | hg
      · exact (String.ne_of_lt hlt).symm
      · exact (String.ne_of_lt (String.lt_trans hlt (hk g hg))).symm
    · subst heq
      refine ⟨[], rest, rfl, ?_⟩
      rw [eraseField, List.filter_cons_of_neg (by simp)]
      exact eraseField_eq_self fun g hg => (String.ne_of_lt (hk g hg)).symm
    · obtain ⟨before, after, hinsert, herase⟩ := ih hrest
      refine ⟨(k, w) :: before, after, congrArg _ hinsert, ?_⟩
      rw [eraseField, List.filter_cons_of_pos (by simpa using Ne.symm heq)]
      exact congrArg _ herase

theorem eq_of_mem_fields {fields : List (String × Json)} (h : (obj fields).IsOrdered) {name : String}
    {v w : Json} (hv : (name, v) ∈ fields) (hw : (name, w) ∈ fields) : v = w := by
  have hnodup : (fields.map Prod.fst).Nodup :=
    List.pairwise_map.mpr (List.Pairwise.imp String.ne_of_lt h)
  exact (Prod.mk.inj (List.inj_on_of_nodup_map hnodup hv hw rfl)).2

/-! ## Fields by their names -/

theorem mem_of_field? {name : String} {v : Json} {fields : List (String × Json)}
    (h : (obj fields).field? name = some v) : (name, v) ∈ fields := by
  obtain ⟨⟨k, w⟩, hfind, rfl⟩ := Option.map_eq_some_iff.mp h
  have hname := List.find?_some hfind
  rw [← beq_iff_eq.mp hname]
  exact List.mem_of_find?_eq_some hfind

theorem field?_eq_some_iff {fields : List (String × Json)} (h : (obj fields).IsOrdered)
    (name : String) (v : Json) : (obj fields).field? name = some v ↔ (name, v) ∈ fields := by
  refine ⟨mem_of_field?, fun hv => ?_⟩
  cases hw : (obj fields).field? name with
  | some w => rw [eq_of_mem_fields h (mem_of_field? hw) hv]
  | none =>
    rw [field?, Option.map_eq_none_iff, List.find?_eq_none] at hw
    exact absurd (beq_self_eq_true name) (hw _ hv)

theorem field?_eq_none_iff (fields : List (String × Json)) (name : String) :
    (obj fields).field? name = none ↔ ∀ v, (name, v) ∉ fields := by
  rw [field?, Option.map_eq_none_iff, List.find?_eq_none]
  constructor
  · intro h v hv
    exact h _ hv (beq_self_eq_true name)
  · rintro h ⟨k, v⟩ hf hname
    rw [show k = name from beq_iff_eq.mp hname] at hf
    exact h v hf

theorem field?_cons (name k : String) (v : Json) (rest : List (String × Json)) :
    (obj ((k, v) :: rest)).field? name = if k = name then some v else (obj rest).field? name := by
  by_cases h : k = name <;> simp [field?, h]

theorem field?_insertField (name k : String) (v : Json) (fields : List (String × Json)) :
    (obj (insertField k v fields)).field? name =
      if k = name then some v else (obj fields).field? name := by
  induction fields with
  | nil => exact field?_cons name k v []
  | cons f rest ih =>
    obtain ⟨l, w⟩ := f
    rw [insertField]
    by_cases hlt : k < l
    · rw [if_pos hlt, field?_cons]
    by_cases heq : k = l
    · subst heq
      rw [if_neg hlt, if_pos rfl, field?_cons, field?_cons]
      split_ifs <;> rfl
    · rw [if_neg hlt, if_neg heq, field?_cons, field?_cons, ih]
      by_cases hl : l = name
      · rw [if_pos hl, if_pos hl, if_neg (fun h => heq (h.trans hl.symm))]
      · rw [if_neg hl, if_neg hl]

theorem mem_insertField {name : String} {v : Json} {fields : List (String × Json)}
    {f : String × Json} (h : f ∈ insertField name v fields) : f = (name, v) ∨ f ∈ fields := by
  induction fields with
  | nil => exact .inl (List.mem_singleton.mp h)
  | cons g rest ih =>
    rw [insertField] at h
    split_ifs at h
    · exact List.mem_cons.mp h
    · exact (List.mem_cons.mp h).imp_right (List.mem_cons_of_mem _)
    · rcases List.mem_cons.mp h with rfl | h
      · exact .inr List.mem_cons_self
      · exact (ih h).imp_right (List.mem_cons_of_mem _)

theorem mem_of_mem_object {fields : List (String × Json)} {f : String × Json}
    (h : f ∈ fields.foldl (fun acc f => insertField f.1 f.2 acc) []) : f ∈ fields := by
  induction fields using List.reverseRecOn with
  | nil => cases h
  | append_singleton fields g ih =>
    rw [List.foldl_append] at h
    rcases mem_insertField h with rfl | h
    · simp
    · exact List.mem_append_left _ (ih h)

/-- The field of a name in an object is the last one that was put there. -/
theorem field?_object (fields : List (String × Json)) (name : String) :
    (object fields).field? name = (fields.filter (·.1 == name)).getLast?.map (·.2) := by
  have hfold : object fields = obj (fields.foldl (fun acc f => insertField f.1 f.2 acc) []) := rfl
  rw [hfold]
  induction fields using List.reverseRecOn with
  | nil => rfl
  | append_singleton fields f ih =>
    have hinsert := field?_insertField name f.1 f.2
      (fields.foldl (fun acc f => insertField f.1 f.2 acc) [])
    rw [ih rfl] at hinsert
    rw [List.foldl_append, List.filter_append]
    refine hinsert.trans ?_
    by_cases hname : f.1 = name <;> simp [hname]

/-! ## Values that were read -/

theorem NumberText.isOrdered {t : NumberText} {v : Json} (h : t.value? = some v) : v.IsOrdered := by
  have hdouble : ∀ {x? : Option Binary64}, x?.map Json.double = some v → v.IsOrdered := by
    intro x? hx
    obtain ⟨x, -, rfl⟩ := Option.map_eq_some_iff.mp hx
    trivial
  unfold value? at h
  dsimp only at h
  split at h
  · split_ifs at h
    · rw [← Option.some.inj h]
      trivial
    · rw [← Option.some.inj h]
      trivial
    · exact hdouble h
  · split at h
    · exact hdouble h
    · split_ifs at h
      · rw [← Option.some.inj h]
        trivial
      · exact hdouble h
      · exact hdouble h

/-- A token that is a value has its fields in order: it has none. -/
def Token.IsOrdered : Token → Prop
  | .atom v => v.IsOrdered
  | _ => True

theorem number?_isOrdered {negative : Bool} {cs rest : List Char} {t : Token}
    (h : number? negative cs = some (t, rest)) : t.IsOrdered := by
  unfold number? at h
  obtain ⟨⟨text, rest'⟩, -, h⟩ := Option.bind_eq_some_iff.mp h
  obtain ⟨v, hv, h⟩ := Option.bind_eq_some_iff.mp h
  rw [← (Prod.mk.inj (Option.some.inj h)).1]
  exact NumberText.isOrdered hv

theorem token?_isOrdered {c : Char} {cs rest : List Char} {t : Token}
    (h : token? c cs = some (t, rest)) : t.IsOrdered := by
  unfold token? at h
  split at h
  case h_7 =>
    obtain ⟨read, -, h⟩ := Option.map_eq_some_iff.mp h
    cases h
    trivial
  case h_11 => exact number?_isOrdered h
  case h_12 =>
    split_ifs at h
    exact number?_isOrdered h
  all_goals
    cases h
    trivial

theorem isOrdered_of_mem_tokens {fuel : Nat} {cs : List Char} {ts : List Token}
    (h : tokensWith fuel cs = some ts) : ∀ t ∈ ts, t.IsOrdered := by
  induction fuel generalizing cs ts with
  | zero =>
    cases cs with
    | nil => cases h; nofun
    | cons c rest => cases h
  | succ fuel ih =>
    cases cs with
    | nil => cases h; nofun
    | cons c rest =>
      rw [tokensWith] at h
      split_ifs at h
      · exact ih h
      · obtain ⟨⟨t, behind⟩, ht, h⟩ := Option.bind_eq_some_iff.mp h
        obtain ⟨more, hmore, h⟩ := Option.bind_eq_some_iff.mp h
        rw [← Option.some.inj h]
        exact List.forall_mem_cons.mpr ⟨token?_isOrdered ht, ih hmore⟩

namespace Assembly

/-- A value that is complete has its fields in order. -/
def IsOrdered (a : Assembly) : Prop := ∀ v, a.result? = some v → v.IsOrdered

theorem isOrdered_add {v : Json} (h : v.IsOrdered) (stack : List Pending) :
    (add v stack).IsOrdered := by
  intro w hw
  cases stack with
  | nil => exact Option.some.inj hw ▸ h
  | cons p stack => cases p <;> cases hw

theorem isOrdered_begin {limit : Nat} {stack : List Pending} {t : Token} {a : Assembly}
    (ht : t.IsOrdered) (h : begin limit stack t = some a) : a.IsOrdered := by
  cases t with
  | atom v => exact Option.some.inj h ▸ isOrdered_add ht stack
  | str s => exact Option.some.inj h ▸ isOrdered_add (v := .str s) trivial stack
  | openBracket =>
    obtain ⟨-, h⟩ := Option.ite_none_right_eq_some.mp h
    cases h
    nofun
  | openBrace =>
    obtain ⟨-, h⟩ := Option.ite_none_right_eq_some.mp h
    cases h
    nofun
  | _ => cases h

theorem isOrdered_step {limit : Nat} {a a' : Assembly} {t : Token} (ht : t.IsOrdered)
    (h : a.step limit t = some a') : a'.IsOrdered := by
  unfold step at h
  split at h
  case h_1 => exact Option.some.inj h ▸ isOrdered_add (v := .arr []) trivial _
  case h_2 | h_3 => exact isOrdered_begin ht h
  case h_4 => exact Option.some.inj h ▸ isOrdered_add (v := .obj []) .nil _
  case h_10 => exact Option.some.inj h ▸ isOrdered_add (v := .arr _) trivial _
  case h_11 => exact Option.some.inj h ▸ isOrdered_add (isOrdered_object _) _
  case h_12 => cases h
  all_goals
    cases h
    nofun

theorem isOrdered_run {limit : Nat} {a a' : Assembly} {ts : List Token}
    (hts : ∀ t ∈ ts, t.IsOrdered) (ha : a.IsOrdered) (h : run limit a ts = some a') :
    a'.IsOrdered := by
  induction ts generalizing a with
  | nil => exact Option.some.inj h ▸ ha
  | cons t ts ih =>
    obtain ⟨ht, hts⟩ := List.forall_mem_cons.mp hts
    obtain ⟨b, hb, h⟩ := Option.bind_eq_some_iff.mp h
    exact ih hts (isOrdered_step ht hb) h

end Assembly

/-- What a text spells has its fields in order. -/
theorem isOrdered_of_parse {s : String} {v : Json} (h : parse s = some v) : v.IsOrdered := by
  obtain ⟨ts, hts, h⟩ := Option.bind_eq_some_iff.mp h
  obtain ⟨a, ha, h⟩ := Option.bind_eq_some_iff.mp h
  have hstart : Assembly.start.IsOrdered := nofun
  exact Assembly.isOrdered_run (isOrdered_of_mem_tokens hts) hstart ha v h

end MarketFeed.Json
