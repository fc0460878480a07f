import MarketFeed.Message
import MarketFeed.Proofs.Json.Derivation
import MarketFeed.Proofs.Record.Written
import MarketFeed.Proofs.Text.Utf8

/-!
# Classes of frames

What a frame holds, said from its text alone. A frame carries a text, the text spells a value, and an
object says what its fields say (`Message.SaidBy`). Main fact: what becomes of a frame is determined
by that (`frame_classified`).
-/

namespace MarketFeed

/-! ## What a frame says -/

/-- A frame carries a text, as it stands or as its bytes. -/
inductive Frame.Carries : Frame → String → Prop
  | text (s : String) : Carries (.text s) s
  | bytes (s : String) : Carries (.binary (Utf8.encode s)) s

/-- Whether a frame is there to carry a text. -/
def Frame.isData : Frame → Bool
  | .text _ | .binary _ => true
  | _ => false

/-- A value names a kind: by itself, or as the only name of an object, over `null`. -/
inductive EventKind.NamedBy (kind : EventKind) : Json → Prop
  | text : NamedBy kind (.str kind.name)
  | object : NamedBy kind (.obj [(kind.name, .null)])

/-- A value is a subscription: an object of its two texts, or an array of just these. -/
inductive Subscription.WrittenAs (s : Subscription) : Json → Prop
  | object {fields : List (String × Json)} (hchannel : ("channel", .str s.channel) ∈ fields)
    (hinst : ("instId", .str s.instId) ∈ fields) : WrittenAs s (.obj fields)
  | array : WrittenAs s (.arr [.str s.channel, .str s.instId])

/-- What the field of a name says as text: a string itself, another value its JSON text. -/
inductive SaidAs (fields : List (String × Json)) (name : String) : Option String → Prop
  | missing (h : ∀ v, (name, v) ∉ fields) : SaidAs fields name none
  | null (h : (name, .null) ∈ fields) : SaidAs fields name none
  | text {s : String} (h : (name, .str s) ∈ fields) : SaidAs fields name (some s)
  | other {v : Json} (h : (name, v) ∈ fields) (hnull : v ≠ .null) (htext : ∀ s, v ≠ .str s) :
    SaidAs fields name (some v.text)

/-- The message that the fields of an object say. -/
inductive Message.SaidBy (fields : List (String × Json)) : Message → Prop
  | subscribed {event arg : Json} {s : Subscription} (hevent : ("event", event) ∈ fields)
    (hkind : EventKind.subscribe.NamedBy event) (harg : ("arg", arg) ∈ fields)
    (hs : s.WrittenAs arg) : SaidBy fields (.control (.subscribed s))
  | unsubscribed {event arg : Json} {s : Subscription} (hevent : ("event", event) ∈ fields)
    (hkind : EventKind.unsubscribe.NamedBy event) (harg : ("arg", arg) ∈ fields)
    (hs : s.WrittenAs arg) : SaidBy fields (.control (.unsubscribed s))
  | refused {event : Json} {code message : Option String} (hevent : ("event", event) ∈ fields)
    (hkind : EventKind.error.NamedBy event) (hcode : SaidAs fields "code" code)
    (hmessage : SaidAs fields "msg" message) : SaidBy fields (.control (.refused code message))
  | data {arg data : Json} {s : Subscription} (hevent : ∀ v, ("event", v) ∉ fields)
    (harg : ("arg", arg) ∈ fields) (hs : s.WrittenAs arg)
    (hdata : ("data", data) ∈ fields ∨ data = .null ∧ ∀ v, ("data", v) ∉ fields) :
    SaidBy fields (.data ⟨s.channel, s.instId, data⟩)

/-! ## Conversions -/

namespace EventKind

theorem find_table_eq_some_iff (name : String) (kind : EventKind) :
    (∃ k, table.find? (·.1 == name) = some (k, kind)) ↔ name = kind.name := by
  constructor
  · rintro ⟨k, hfind⟩
    have hname := List.find?_some hfind
    have hmem := List.mem_of_find?_eq_some hfind
    simp only [table, List.mem_cons, Prod.mk.injEq, List.not_mem_nil, or_false] at hmem
    rw [← beq_iff_eq.mp hname]
    rcases hmem with ⟨rfl, rfl⟩ | ⟨rfl, rfl⟩ | ⟨rfl, rfl⟩ <;> rfl
  · rintro rfl
    cases kind <;> exact ⟨_, rfl⟩

theorem read_name_eq_ok_iff (name : String) (kind : EventKind) :
    codec.read (.str name) = .ok kind ↔ name = kind.name := by
  rw [← find_table_eq_some_iff]
  simp only [codec, Codec.names]
  cases table.find? (·.1 == name) with
  | none => simp
  | some entry => simp [Prod.ext_iff]

/-- The only name of an object is read as by itself, if it stands over `null`. -/
theorem read_object_eq_ok_iff (name : String) (content : Json) (kind : EventKind) :
    codec.read (.obj [(name, content)]) = .ok kind ↔
      codec.read (.str name) = .ok kind ∧ content = .null := by
  simp only [codec, Codec.names]
  cases table.find? (·.1 == name) with
  | none => simp [bind, Except.bind]
  | some entry => cases content <;> simp [bind, Except.bind]

/-- A value reads as the kind that it names. -/
theorem read_eq_ok_iff (v : Json) (kind : EventKind) :
    codec.read v = .ok kind ↔ kind.NamedBy v := by
  match v with
  | .str name =>
    rw [read_name_eq_ok_iff]
    constructor
    · rintro rfl
      exact .text
    · rintro ⟨⟩
      rfl
  | .obj [(name, content)] =>
    rw [read_object_eq_ok_iff, read_name_eq_ok_iff]
    constructor
    · rintro ⟨rfl, rfl⟩
      exact .object
    · rintro ⟨⟩
      exact ⟨rfl, rfl⟩
  | .obj [] => exact ⟨nofun, nofun⟩
  | .obj (_ :: _ :: _) => exact ⟨nofun, nofun⟩
  | .null | .bool _ | .int _ | .double _ | .arr _ => exact ⟨nofun, nofun⟩

end EventKind

namespace Subscription

/-- An entry of another name fills no slot. -/
theorem putAll_cons_of_ne {name : String} (hchannel : name ≠ "channel") (hinst : name ≠ "instId")
    (v : Json) (rest : List (String × Json)) (c? i? : Option String) :
    Slots.putAll schema.fields (c?, i?, ()) ((name, v) :: rest) =
      Slots.putAll schema.fields (c?, i?, ()) rest := by
  have hput : Slots.put name v schema.fields (c?, i?, ()) = .ok (c?, i?, ()) := by
    simp [Slots.put, schema, Field.required, Ne.symm hchannel, Ne.symm hinst, bind, Except.bind]
  exact congrArg (Except.bind · (Slots.putAll schema.fields · rest)) hput

theorem complete_eq_ok_iff (c? i? : Option String) (c i : String) :
    Slots.complete schema.fields (c?, i?, ()) = .ok (c, i, ()) ↔ c? = some c ∧ i? = some i := by
  cases c? with
  | none => exact ⟨nofun, nofun⟩
  | some c' =>
    cases i? with
    | none => exact ⟨nofun, nofun⟩
    | some i' =>
      show Except.ok (c', i', ()) = .ok (c, i, ()) ↔ _
      constructor
      · rintro ⟨⟩
        exact ⟨rfl, rfl⟩
      · rintro ⟨⟨⟩, ⟨⟩⟩
        rfl

theorem readArray_eq_ok_iff (items : List Json) (c i : String) :
    schema.readArray items = .ok (c, i, ()) ↔ items = [.str c, .str i] := by
  constructor
  · intro h
    match items with
    | [] => cases h
    | [v] => cases v <;> cases h
    | [v, w] =>
      cases v <;> cases w <;> cases h
      rfl
    | v :: w :: _ :: _ => cases v <;> cases w <;> cases h
  · rintro rfl
    rfl

/-- A text that fills a slot is in the entries, if it is in the first of them or in the rest. -/
theorem mem_cons_of_filled {name t s : String} {rest : List (String × Json)}
    (h : some t = some s ∨ (name, .str s) ∈ rest) :
    (name, Json.str s) ∈ (name, .str t) :: rest := by
  rcases h with h | h
  · rw [Option.some.inj h]
    exact List.mem_cons_self
  · exact List.mem_cons_of_mem _ h

/-- A slot that is full after the entries of an object was full before, or an entry has filled it. -/
theorem mem_of_putAll {entries : List (String × Json)} {c? i? : Option String} {c i : String}
    (h : Slots.putAll schema.fields (c?, i?, ()) entries = .ok (some c, some i, ())) :
    (c? = some c ∨ ("channel", .str c) ∈ entries) ∧
      (i? = some i ∨ ("instId", .str i) ∈ entries) := by
  induction entries generalizing c? i? with
  | nil =>
    cases h
    exact ⟨.inl rfl, .inl rfl⟩
  | cons entry rest ih =>
    obtain ⟨name, v⟩ := entry
    by_cases hchannel : name = "channel"
    · subst hchannel
      cases v with
      | str t =>
        have hrest : Slots.putAll schema.fields (some t, i?, ()) rest = _ := h
        obtain ⟨hc, hi⟩ := ih hrest
        exact ⟨.inr (mem_cons_of_filled hc), hi.imp_right (List.mem_cons_of_mem _)⟩
      | _ => cases h
    by_cases hinst : name = "instId"
    · subst hinst
      cases v with
      | str t =>
        have hrest : Slots.putAll schema.fields (c?, some t, ()) rest = _ := h
        obtain ⟨hc, hi⟩ := ih hrest
        exact ⟨hc.imp_right (List.mem_cons_of_mem _), .inr (mem_cons_of_filled hi)⟩
      | _ => cases h
    · rw [putAll_cons_of_ne hchannel hinst] at h
      obtain ⟨hc, hi⟩ := ih h
      exact ⟨hc.imp_right (List.mem_cons_of_mem _), hi.imp_right (List.mem_cons_of_mem _)⟩

/-- The entries fill both slots, if those of their names are texts. -/
theorem putAll_of_mem {c i : String} {entries : List (String × Json)}
    (hc : ∀ v, ("channel", v) ∈ entries → v = .str c)
    (hi : ∀ v, ("instId", v) ∈ entries → v = .str i) {c? i? : Option String}
    (hc? : c? = some c ∨ ("channel", .str c) ∈ entries)
    (hi? : i? = some i ∨ ("instId", .str i) ∈ entries) :
    Slots.putAll schema.fields (c?, i?, ()) entries = .ok (some c, some i, ()) := by
  induction entries generalizing c? i? with
  | nil =>
    obtain rfl : c? = some c := by simpa using hc?
    obtain rfl : i? = some i := by simpa using hi?
    rfl
  | cons entry rest ih =>
    obtain ⟨name, v⟩ := entry
    have hrest : ∀ {c? i? : Option String}, (c? = some c ∨ ("channel", .str c) ∈ rest) →
        (i? = some i ∨ ("instId", .str i) ∈ rest) →
        Slots.putAll schema.fields (c?, i?, ()) rest = .ok (some c, some i, ()) :=
      ih (fun v hv => hc v (List.mem_cons_of_mem _ hv)) fun v hv => hi v (List.mem_cons_of_mem _ hv)
    by_cases hchannel : name = "channel"
    · subst hchannel
      obtain rfl := hc v List.mem_cons_self
      exact hrest (.inl rfl) (by simpa using hi?)
    by_cases hinst : name = "instId"
    · subst hinst
      obtain rfl := hi v List.mem_cons_self
      exact hrest (by simpa using hc?) (.inl rfl)
    · rw [putAll_cons_of_ne hchannel hinst]
      exact hrest (by simpa [Ne.symm hchannel] using hc?) (by simpa [Ne.symm hinst] using hi?)

theorem readObject_eq_ok_iff {fields : List (String × Json)} (h : (Json.obj fields).IsOrdered)
    (c i : String) :
    schema.readObject fields = .ok (c, i, ()) ↔
      ("channel", .str c) ∈ fields ∧ ("instId", .str i) ∈ fields := by
  have hread : schema.readObject fields =
      (Slots.putAll schema.fields (none, none, ()) fields).bind
        (Slots.complete schema.fields ·) := rfl
  rw [hread]
  constructor
  · intro hok
    cases hput : Slots.putAll schema.fields (none, none, ()) fields with
    | error mismatch =>
      rw [hput] at hok
      cases hok
    | ok slots =>
      obtain ⟨c?, i?, ⟨⟩⟩ := slots
      rw [hput] at hok
      obtain ⟨rfl, rfl⟩ := (complete_eq_ok_iff c? i? c i).mp hok
      obtain ⟨hc, hi⟩ := mem_of_putAll hput
      exact ⟨hc.resolve_left nofun, hi.resolve_left nofun⟩
  · rintro ⟨hc, hi⟩
    have hput : Slots.putAll schema.fields (none, none, ()) fields = .ok (some c, some i, ()) :=
      putAll_of_mem (fun v hv => Json.eq_of_mem_fields h hv hc)
        (fun v hv => Json.eq_of_mem_fields h hv hi) (.inr hc) (.inr hi)
    rw [hput]
    rfl

theorem read_eq_ok_iff_exists (v : Json) (s : Subscription) :
    codec.read v = .ok s ↔ schema.codec.read v = .ok (s.channel, s.instId, ()) := by
  have hread : codec.read v = (schema.codec.read v).map fun said => ⟨said.1, said.2.1⟩ := rfl
  rw [hread]
  cases schema.codec.read v with
  | error mismatch => exact ⟨nofun, nofun⟩
  | ok values =>
    obtain ⟨c, i, ⟨⟩⟩ := values
    constructor
    · rintro ⟨⟩
      rfl
    · rintro ⟨⟩
      rfl

/-- A tidy value reads as the subscription that is written so. -/
theorem read_eq_ok_iff {v : Json} (h : v.IsTidy) (s : Subscription) :
    codec.read v = .ok s ↔ s.WrittenAs v := by
  rw [read_eq_ok_iff_exists]
  cases v with
  | obj fields =>
    have hordered : (Json.obj fields).IsOrdered := by
      cases h
      assumption
    refine (readObject_eq_ok_iff hordered s.channel s.instId).trans ⟨fun h => .object h.1 h.2, ?_⟩
    rintro ⟨⟩
    exact ⟨‹_›, ‹_›⟩
  | arr items =>
    refine (readArray_eq_ok_iff items s.channel s.instId).trans ⟨?_, ?_⟩
    · rintro rfl
      exact .array
    · rintro ⟨⟩
      rfl
  | _ => exact ⟨nofun, nofun⟩

end Subscription

/-! ## Objects -/

section Object

variable {fields : List (String × Json)} (h : (Json.obj fields).IsTidy)

include h

theorem Json.IsTidy.isOrdered : (Json.obj fields).IsOrdered := by
  cases h
  assumption

theorem Json.IsTidy.of_mem {name : String} {v : Json} (hv : (name, v) ∈ fields) : v.IsTidy := by
  cases h with
  | obj hfields _ => exact hfields _ hv

theorem readArg_eq_ok_iff (s : Subscription) :
    readArg (.obj fields) = .ok s ↔ ∃ arg, ("arg", arg) ∈ fields ∧ s.WrittenAs arg := by
  have hmem := Json.field?_eq_some_iff h.isOrdered "arg"
  unfold readArg
  cases harg : (Json.obj fields).field? "arg" with
  | none =>
    refine ⟨nofun, ?_⟩
    rintro ⟨arg, hin, -⟩
    rw [← hmem, harg] at hin
    cases hin
  | some arg =>
    have hin := (hmem arg).mp harg
    have hread := Subscription.read_eq_ok_iff (h.of_mem hin) s
    dsimp only
    constructor
    · intro hok
      split at hok
      · rename_i s' hs
        cases hok
        exact ⟨arg, hin, hread.mp hs⟩
      · cases hok
    · rintro ⟨arg', hin', hs⟩
      rw [Json.eq_of_mem_fields h.isOrdered hin' hin] at hs
      rw [hread.mpr hs]

theorem readLoosely_eq_iff (name : String) (said : Option String) :
    readLoosely (.obj fields) name = said ↔ SaidAs fields name said := by
  have hmem := Json.field?_eq_some_iff h.isOrdered name
  have hunique : ∀ {v w : Json}, (name, v) ∈ fields → (name, w) ∈ fields → v = w :=
    Json.eq_of_mem_fields h.isOrdered
  unfold readLoosely
  cases hv : (Json.obj fields).field? name with
  | none =>
    have hmissing := (Json.field?_eq_none_iff fields name).mp hv
    constructor
    · rintro rfl
      exact .missing hmissing
    · intro hsaid
      cases hsaid with
      | missing => rfl
      | null hin => exact absurd hin (hmissing _)
      | text hin => exact absurd hin (hmissing _)
      | other hin => exact absurd hin (hmissing _)
  | some v =>
    have hin := (hmem v).mp hv
    constructor
    · rintro rfl
      cases v with
      | null => exact .null hin
      | str s => exact .text hin
      | _ => exact .other hin nofun nofun
    · intro hsaid
      cases hsaid with
      | missing hmissing => exact absurd hin (hmissing v)
      | null hin' => rw [hunique hin hin']
      | text hin' => rw [hunique hin hin']
      | other hin' hnull htext =>
        rw [hunique hin hin']
        cases ‹Json› with
        | null => exact absurd rfl hnull
        | str s => exact absurd rfl (htext s)
        | _ => rfl

theorem Ack.ofJson_eq {event : Json} {kind : EventKind} (hevent : ("event", event) ∈ fields)
    (hkind : kind.NamedBy event) :
    Ack.ofJson (.obj fields) = match kind with
      | .subscribe => (readArg (.obj fields)).map .subscribed
      | .unsubscribe => (readArg (.obj fields)).map .unsubscribed
      | .error => .ok
        (.refused (readLoosely (.obj fields) "code") (readLoosely (.obj fields) "msg")) := by
  unfold Ack.ofJson
  rw [(Json.field?_eq_some_iff h.isOrdered "event" event).mpr hevent]
  dsimp only
  rw [(EventKind.read_eq_ok_iff event kind).mpr hkind]
  cases kind <;> rfl

theorem Ack.ofJson_eq_ok_iff {event : Json} (hevent : ("event", event) ∈ fields) (ack : Ack) :
    Ack.ofJson (.obj fields) = .ok ack ↔ Message.SaidBy fields (.control ack) := by
  constructor
  · intro hok
    cases hread : EventKind.codec.read event with
    | error mismatch =>
      unfold Ack.ofJson at hok
      rw [(Json.field?_eq_some_iff h.isOrdered "event" event).mpr hevent] at hok
      dsimp only at hok
      rw [hread] at hok
      cases hok
    | ok kind =>
      have hkind := (EventKind.read_eq_ok_iff event kind).mp hread
      rw [Ack.ofJson_eq h hevent hkind] at hok
      cases kind with
      | subscribe =>
        obtain ⟨s, hs, rfl⟩ := exists_of_map_eq_ok hok
        obtain ⟨arg, harg, hs⟩ := (readArg_eq_ok_iff h s).mp hs
        exact .subscribed hevent hkind harg hs
      | unsubscribe =>
        obtain ⟨s, hs, rfl⟩ := exists_of_map_eq_ok hok
        obtain ⟨arg, harg, hs⟩ := (readArg_eq_ok_iff h s).mp hs
        exact .unsubscribed hevent hkind harg hs
      | error =>
        cases hok
        exact .refused hevent hkind ((readLoosely_eq_iff h "code" _).mp rfl)
          ((readLoosely_eq_iff h "msg" _).mp rfl)
  · intro hsaid
    cases hsaid with
    | subscribed hevent hkind harg hs =>
      rw [Ack.ofJson_eq h hevent hkind]
      dsimp only
      rw [(readArg_eq_ok_iff h _).mpr ⟨_, harg, hs⟩]
      rfl
    | unsubscribed hevent hkind harg hs =>
      rw [Ack.ofJson_eq h hevent hkind]
      dsimp only
      rw [(readArg_eq_ok_iff h _).mpr ⟨_, harg, hs⟩]
      rfl
    | refused hevent hkind hcode hmessage =>
      rw [Ack.ofJson_eq h hevent hkind]
      dsimp only
      rw [(readLoosely_eq_iff h "code" _).mpr hcode, (readLoosely_eq_iff h "msg" _).mpr hmessage]

theorem DataEvent.ofJson_eq_ok_iff (hevent : ∀ v, ("event", v) ∉ fields) (event : DataEvent) :
    DataEvent.ofJson (.obj fields) = .ok event ↔ Message.SaidBy fields (.data event) := by
  have hmem := Json.field?_eq_some_iff h.isOrdered "data"
  constructor
  · intro hok
    obtain ⟨s, hs, rfl⟩ := exists_of_map_eq_ok hok
    obtain ⟨arg, harg, hs⟩ := (readArg_eq_ok_iff h s).mp hs
    refine .data hevent harg hs ?_
    cases hdata : (Json.obj fields).field? "data" with
    | some data => exact .inl ((hmem data).mp hdata)
    | none => exact .inr ⟨rfl, (Json.field?_eq_none_iff fields "data").mp hdata⟩
  · intro hsaid
    cases hsaid with
    | data _ harg hs hdata =>
      unfold DataEvent.ofJson
      rw [(readArg_eq_ok_iff h _).mpr ⟨_, harg, hs⟩]
      rcases hdata with hdata | ⟨rfl, hdata⟩
      · rw [(hmem _).mpr hdata]
        rfl
      · rw [(Json.field?_eq_none_iff fields "data").mpr hdata]
        rfl

/-- An object holds the message that its fields say. -/
theorem Message.ofJson_eq_ok_iff (m : Message) :
    Message.ofJson (.obj fields) = .ok (some m) ↔ m.SaidBy fields := by
  have hmem := Json.field?_eq_some_iff h.isOrdered "event"
  cases hevent : (Json.obj fields).field? "event" with
  | some event =>
    have hin := (hmem event).mp hevent
    have hcontrol : Message.ofJson (.obj fields) =
        (Ack.ofJson (.obj fields)).map fun ack => some (.control ack) := by
      simp [Message.ofJson, isControl, hevent, Json.isObject]
    rw [hcontrol]
    constructor
    · intro hok
      obtain ⟨ack, hack, heq⟩ := exists_of_map_eq_ok hok
      cases heq
      exact (Ack.ofJson_eq_ok_iff h hin ack).mp hack
    · intro hsaid
      cases m with
      | control ack =>
        rw [(Ack.ofJson_eq_ok_iff h hin ack).mpr hsaid]
        rfl
      | data event =>
        cases hsaid with
        | data hmissing => exact absurd hin (hmissing _)
  | none =>
    have hmissing := (Json.field?_eq_none_iff fields "event").mp hevent
    have hdata : Message.ofJson (.obj fields) =
        (DataEvent.ofJson (.obj fields)).map fun event => some (.data event) := by
      simp [Message.ofJson, isControl, hevent, Json.isObject]
    rw [hdata]
    constructor
    · intro hok
      obtain ⟨event, hevent, heq⟩ := exists_of_map_eq_ok hok
      cases heq
      exact (DataEvent.ofJson_eq_ok_iff h hmissing event).mp hevent
    · intro hsaid
      cases m with
      | data event =>
        rw [(DataEvent.ofJson_eq_ok_iff h hmissing event).mpr hsaid]
        rfl
      | control ack => cases hsaid <;> exact absurd ‹_› (hmissing _)

end Object

namespace Message

theorem ofJson_eq_ok_none_iff (v : Json) : ofJson v = .ok none ↔ v.isObject = false := by
  unfold ofJson
  cases v.isObject with
  | false => simp
  | true =>
    simp only [Bool.not_true, Bool.false_eq_true, if_false, iff_false, reduceCtorEq]
    split_ifs
    · intro h
      obtain ⟨ack, -, heq⟩ := exists_of_map_eq_ok h
      cases heq
    · intro h
      obtain ⟨event, -, heq⟩ := exists_of_map_eq_ok h
      cases heq

theorem isFatal_of_readArg {v : Json} {fault : MessageFault} (h : readArg v = .error fault) :
    fault.isFatal = false := by
  unfold readArg at h
  split at h
  · cases h
    rfl
  · split at h <;> cases h
    rfl

theorem isFatal_of_map {α β : Type} {f : α → β} {r : Except MessageFault α} {fault : MessageFault}
    (hr : r = .error fault → fault.isFatal = false) (h : r.map f = .error fault) :
    fault.isFatal = false := by
  cases r with
  | error e => exact hr (congrArg Except.error (Except.error.inj h))
  | ok a => cases h

theorem isFatal_of_ack {v : Json} {fault : MessageFault} (h : Ack.ofJson v = .error fault) :
    fault.isFatal = false := by
  unfold Ack.ofJson at h
  split at h
  · cases h
    rfl
  · split at h
    · cases h
      rfl
    · exact isFatal_of_map isFatal_of_readArg h
    · exact isFatal_of_map isFatal_of_readArg h
    · cases h

/-- A value of the wrong form breaks no stream. -/
theorem isFatal_of_ofJson {v : Json} {fault : MessageFault} (h : ofJson v = .error fault) :
    fault.isFatal = false := by
  unfold ofJson at h
  split_ifs at h
  · exact isFatal_of_map isFatal_of_ack h
  · exact isFatal_of_map (isFatal_of_map isFatal_of_readArg) h

/-- Only some fields of an object count. -/
def counts (field : String × Json) : Bool :=
  ["event", "arg", "data", "code", "msg"].contains field.1

/-- Objects whose fields that count are the same hold the same. -/
theorem ofJson_object_congr {fields fields' : List (String × Json)}
    (h : fields.filter counts = fields'.filter counts) :
    ofJson (Json.object fields) = ofJson (Json.object fields') := by
  have hfield : ∀ name ∈ ["event", "arg", "data", "code", "msg"],
      (Json.object fields).field? name = (Json.object fields').field? name := by
    intro name hname
    have hfilter : ∀ fields : List (String × Json),
        (fields.filter counts).filter (·.1 == name) = fields.filter (·.1 == name) := by
      intro fields
      rw [List.filter_filter]
      refine List.filter_congr fun field _ => ?_
      by_cases hk : field.1 = name
      · simp [counts, hk, hname]
      · simp [hk]
    rw [Json.field?_object, Json.field?_object, ← hfilter fields, ← hfilter fields', h]
  have hevent := hfield "event" (by simp)
  have harg : readArg (Json.object fields) = readArg (Json.object fields') := by
    unfold readArg
    rw [hfield "arg" (by simp)]
  have hack : Ack.ofJson (Json.object fields) = Ack.ofJson (Json.object fields') := by
    unfold Ack.ofJson readLoosely
    rw [hevent, harg, hfield "code" (by simp), hfield "msg" (by simp)]
  have hdata : DataEvent.ofJson (Json.object fields) = DataEvent.ofJson (Json.object fields') := by
    unfold DataEvent.ofJson
    rw [harg, hfield "data" (by simp)]
  have hobject : ∀ fields, (Json.object fields).isObject = true := fun _ => rfl
  unfold ofJson isControl
  rw [hobject, hobject, hevent, hack, hdata]

/-! ## Frames -/

theorem ofFrame_of_carries {f : Frame} {s : String} (h : f.Carries s) : ofFrame f = ofText s := by
  cases h with
  | text => rfl
  | bytes =>
    unfold ofFrame
    dsimp only
    rw [Utf8.decode_encode]

theorem ofText_of_spells {s : String} {v : Json} (h : Json.Spells s v) : ofText s = ofJson v := by
  rw [ofText, (Json.parse_eq_some_iff s v).mpr h]

theorem ofText_of_not_spells {s : String} (h : ∀ v, ¬Json.Spells s v) :
    ofText s = .error (.notJson s) := by
  cases hparse : Json.parse s with
  | none => rw [ofText, hparse]
  | some v => exact absurd ((Json.parse_eq_some_iff s v).mp hparse) (h v)

theorem ofFrame_of_not_carries {bytes : List UInt8} (h : ∀ s, Utf8.encode s ≠ bytes) :
    ∃ fault, ofFrame (.binary bytes) = .error (.notText fault) := by
  unfold ofFrame
  dsimp only
  cases hdecode : Utf8.decode bytes with
  | error fault => exact ⟨fault, rfl⟩
  | ok s => exact absurd ((Utf8.decode_eq_ok_iff bytes s).mp hdecode) (h s)

end Message

namespace Frame

/-- Bytes that are no text, or a text that spells no value. -/
def Unreadable (f : Frame) : Prop :=
  (∃ bytes, f = .binary bytes ∧ ∀ s, Utf8.encode s ≠ bytes) ∨
    ∃ s, f.Carries s ∧ ∀ v, ¬Json.Spells s v

/-- A frame that is not there to carry a text, or a text of a value that is no object. -/
def Blank (f : Frame) : Prop :=
  f.isData = false ∨ ∃ s v, f.Carries s ∧ Json.Spells s v ∧ v.isObject = false

/-- A text of an object that says a message. -/
def Says (f : Frame) (m : Message) : Prop :=
  ∃ s fields, f.Carries s ∧ Json.Spells s (.obj fields) ∧ m.SaidBy fields

/-- A text of an object that says no message. -/
def Misformed (f : Frame) : Prop :=
  ∃ s fields, f.Carries s ∧ Json.Spells s (.obj fields) ∧ ∀ m : Message, ¬m.SaidBy fields

theorem unreadable_or_blank_or_says_or_misformed (f : Frame) :
    f.Unreadable ∨ f.Blank ∨ (∃ m, f.Says m) ∨ f.Misformed := by
  by_cases hdata : f.isData = true
  · by_cases hcarries : ∃ s, f.Carries s
    · obtain ⟨s, hs⟩ := hcarries
      by_cases hspells : ∃ v, Json.Spells s v
      · obtain ⟨v, hv⟩ := hspells
        cases v with
        | obj fields =>
          by_cases hsaid : ∃ m : Message, m.SaidBy fields
          · obtain ⟨m, hm⟩ := hsaid
            exact .inr (.inr (.inl ⟨m, s, fields, hs, hv, hm⟩))
          · exact .inr (.inr (.inr ⟨s, fields, hs, hv, not_exists.mp hsaid⟩))
        | _ => exact .inr (.inl (.inr ⟨s, _, hs, hv, rfl⟩))
      · exact .inl (.inr ⟨s, hs, not_exists.mp hspells⟩)
    · cases f with
      | text s => exact absurd ⟨s, .text s⟩ hcarries
      | binary bytes =>
        refine .inl (.inl ⟨bytes, rfl, ?_⟩)
        rintro s rfl
        exact hcarries ⟨s, .bytes s⟩
      | _ => cases hdata
  · exact .inr (.inl (.inl (eq_false_of_ne_true hdata)))

end Frame

namespace Message

theorem ofFrame_of_unreadable {f : Frame} (h : f.Unreadable) :
    ∃ fault, ofFrame f = .error fault ∧ fault.isFatal = true := by
  rcases h with ⟨bytes, rfl, h⟩ | ⟨s, hs, h⟩
  · obtain ⟨fault, hfault⟩ := ofFrame_of_not_carries h
    exact ⟨_, hfault, rfl⟩
  · exact ⟨.notJson s, by rw [ofFrame_of_carries hs, ofText_of_not_spells h], rfl⟩

theorem ofFrame_of_blank {f : Frame} (h : f.Blank) : ofFrame f = .ok none := by
  rcases h with h | ⟨s, v, hs, hv, h⟩
  · cases f <;> first | rfl | cases h
  · rw [ofFrame_of_carries hs, ofText_of_spells hv]
    exact (ofJson_eq_ok_none_iff v).mpr h

theorem ofFrame_of_says {f : Frame} {m : Message} (h : f.Says m) : ofFrame f = .ok (some m) := by
  obtain ⟨s, fields, hs, hv, hm⟩ := h
  rw [ofFrame_of_carries hs, ofText_of_spells hv]
  exact (ofJson_eq_ok_iff hv.isTidy m).mpr hm

theorem ofFrame_of_misformed {f : Frame} (h : f.Misformed) :
    ∃ fault, ofFrame f = .error fault ∧ fault.isFatal = false := by
  obtain ⟨s, fields, hs, hv, hm⟩ := h
  rw [ofFrame_of_carries hs, ofText_of_spells hv]
  match hresult : ofJson (.obj fields) with
  | .error fault => exact ⟨fault, rfl, isFatal_of_ofJson hresult⟩
  | .ok none => cases (ofJson_eq_ok_none_iff (.obj fields)).mp hresult
  | .ok (some m) => exact absurd ((ofJson_eq_ok_iff hv.isTidy m).mp hresult) (hm m)

/-- What becomes of a frame, with what the frame is in each case. -/
theorem ofFrame_cases (f : Frame) :
    (f.Unreadable ∧ ∃ fault, ofFrame f = .error fault ∧ fault.isFatal = true) ∨
      (f.Blank ∧ ofFrame f = .ok none) ∨ (∃ m, f.Says m ∧ ofFrame f = .ok (some m)) ∨
      (f.Misformed ∧ ∃ fault, ofFrame f = .error fault ∧ fault.isFatal = false) := by
  rcases f.unreadable_or_blank_or_says_or_misformed with h | h | ⟨m, h⟩ | h
  · exact .inl ⟨h, ofFrame_of_unreadable h⟩
  · exact .inr (.inl ⟨h, ofFrame_of_blank h⟩)
  · exact .inr (.inr (.inl ⟨m, h, ofFrame_of_says h⟩))
  · exact .inr (.inr (.inr ⟨h, ofFrame_of_misformed h⟩))

theorem isFatal_iff_unreadable (f : Frame) :
    (∃ fault, ofFrame f = .error fault ∧ fault.isFatal = true) ↔ f.Unreadable := by
  refine ⟨?_, ofFrame_of_unreadable⟩
  rintro ⟨fault, hf, hfatal⟩
  rcases ofFrame_cases f with ⟨h, -⟩ | ⟨-, h⟩ | ⟨m, -, h⟩ | ⟨-, fault', h, hfatal'⟩
  · exact h
  · cases hf.symm.trans h
  · cases hf.symm.trans h
  · cases hf.symm.trans h
    rw [hfatal] at hfatal'
    cases hfatal'

theorem not_isFatal_iff_misformed (f : Frame) :
    (∃ fault, ofFrame f = .error fault ∧ fault.isFatal = false) ↔ f.Misformed := by
  refine ⟨?_, ofFrame_of_misformed⟩
  rintro ⟨fault, hf, hfatal⟩
  rcases ofFrame_cases f with ⟨-, fault', h, hfatal'⟩ | ⟨-, h⟩ | ⟨m, -, h⟩ | ⟨h, -⟩
  · cases hf.symm.trans h
    rw [hfatal] at hfatal'
    cases hfatal'
  · cases hf.symm.trans h
  · cases hf.symm.trans h
  · exact h

theorem ofFrame_eq_ok_none_iff (f : Frame) : ofFrame f = .ok none ↔ f.Blank := by
  refine ⟨fun hf => ?_, ofFrame_of_blank⟩
  rcases ofFrame_cases f with ⟨-, fault, h, -⟩ | ⟨h, -⟩ | ⟨m, -, h⟩ | ⟨-, fault, h, -⟩
  · cases hf.symm.trans h
  · exact h
  · cases hf.symm.trans h
  · cases hf.symm.trans h

theorem ofFrame_eq_ok_some_iff (f : Frame) (m : Message) :
    ofFrame f = .ok (some m) ↔ f.Says m := by
  refine ⟨fun hf => ?_, ofFrame_of_says⟩
  rcases ofFrame_cases f with ⟨-, fault, h, -⟩ | ⟨-, h⟩ | ⟨m', hm, h⟩ | ⟨-, fault, h, -⟩
  · cases hf.symm.trans h
  · cases hf.symm.trans h
  · cases hf.symm.trans h
    exact hm
  · cases hf.symm.trans h

end Message

/-! ## The main fact -/

theorem MessageFault.isFatal_iff (fault : MessageFault) :
    fault.isFatal = true ↔ ∃ reason, fault.toError = .deserialization reason := by
  unfold toError
  cases fault.isFatal <;> simp

theorem MessageFault.not_isFatal_iff (fault : MessageFault) :
    fault.isFatal = false ↔ ∃ reason, fault.toError = .parse reason := by
  unfold toError
  cases fault.isFatal <;> simp

/-- **Every frame is classified by what it carries**, a text as it stands or as its bytes, and by the
value that the text spells:

* it is unreadable exactly if it is bytes that are no text, or its text spells no value;
* it holds nothing exactly if it is a ping, a pong, a close or a raw frame, or its value is no object;
* it holds a message exactly if its value is an object whose fields say this message: with an event,
  what the kind and the argument of the event say, or a refusal with its code and text; without one,
  data for the stream that the argument names;
* it is misformed exactly if its value is an object that says no message;
* the bytes of a text hold what the text holds, and fields other than the five that count change
  nothing. -/
theorem frame_classified :
    (∀ f, (∃ fault reason, Message.ofFrame f = .error fault ∧
      fault.toError = .deserialization reason) ↔ f.Unreadable) ∧
    (∀ f, Message.ofFrame f = .ok none ↔ f.Blank) ∧
    (∀ f m, Message.ofFrame f = .ok (some m) ↔ f.Says m) ∧
    (∀ f, (∃ fault reason, Message.ofFrame f = .error fault ∧ fault.toError = .parse reason) ↔
      f.Misformed) ∧
    (∀ s, Message.ofFrame (.binary (Utf8.encode s)) = Message.ofFrame (.text s)) ∧
    (∀ (f f' : Frame) s s' fields fields', f.Carries s → Json.Spells s (Json.object fields) →
      f'.Carries s' → Json.Spells s' (Json.object fields') →
      fields.filter Message.counts = fields'.filter Message.counts →
      Message.ofFrame f = Message.ofFrame f') := by
  refine ⟨fun f => ?_, Message.ofFrame_eq_ok_none_iff, Message.ofFrame_eq_ok_some_iff, fun f => ?_,
    fun s => ?_, ?_⟩
  · simp only [exists_and_left, ← MessageFault.isFatal_iff]
    exact Message.isFatal_iff_unreadable f
  · simp only [exists_and_left, ← MessageFault.not_isFatal_iff]
    exact Message.not_isFatal_iff_misformed f
  · exact (Message.ofFrame_of_carries (.bytes s)).trans (Message.ofFrame_of_carries (.text s)).symm
  · intro f f' s s' fields fields' hs hfields hs' hfields' h
    rw [Message.ofFrame_of_carries hs, Message.ofText_of_spells hfields,
      Message.ofFrame_of_carries hs', Message.ofText_of_spells hfields',
      Message.ofJson_object_congr h]

/-- A refusal with a number for a code. The same one as bytes, with a field that does not count, says
the same. -/
theorem stray_field_unheard :
    Message.ofFrame (.text "\x7b\"code\":7,\"event\":\"error\"\x7d") =
        .ok (some (.control (.refused (some "7") none))) ∧
      Message.ofFrame
          (.binary (Utf8.encode "\x7b\"code\":7,\"connId\":\"a\",\"event\":\"error\"\x7d")) =
        Message.ofFrame (.text "\x7b\"code\":7,\"event\":\"error\"\x7d") := by
  have hsaid : Json.Spells "\x7b\"code\":7,\"event\":\"error\"\x7d"
      (Json.object [("code", .int 7), ("event", .str "error")]) :=
    Json.spells_of_parse rfl
  have hmore : Json.Spells "\x7b\"code\":7,\"connId\":\"a\",\"event\":\"error\"\x7d"
      (Json.object [("code", .int 7), ("connId", .str "a"), ("event", .str "error")]) :=
    Json.spells_of_parse rfl
  have hrefused : Message.SaidBy [("code", .int 7), ("event", .str "error")]
      (.control (.refused (some "7") none)) := by
    have hcode : SaidAs [("code", .int 7), ("event", .str "error")] "code"
        (some (Json.int 7).text) := .other (by simp) nofun nofun
    have hevent : EventKind.error.NamedBy (.str "error") := .text
    exact .refused (by simp) hevent hcode (.missing (by simp))
  obtain ⟨-, -, hmessage, -, -, hsame⟩ := frame_classified
  exact ⟨(hmessage _ _).mpr ⟨_, _, .text _, hsaid, hrefused⟩,
    hsame _ _ _ _ _ _ (.bytes _) hmore (.text _) hsaid rfl⟩

end MarketFeed
