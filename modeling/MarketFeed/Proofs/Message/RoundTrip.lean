import Mathlib.Data.List.Permutation
import MarketFeed.Message
import MarketFeed.Proofs.Json.RoundTrip

/-!
# What is written is what is read

Both sides of the wire agree on every string and on every value whose numbers are whole: a request
reads as the subscriptions that it was made of, and an acknowledgement or an event as what it is
about (`wire_format_agrees`).
-/

namespace MarketFeed

namespace Subscription

theorem read_toJson (s : Subscription) : codec.read s.toJson = .ok s := rfl

theorem isExact_toJson (s : Subscription) : s.toJson.isExact = true := by
  have hnames : ["channel", "instId"].Pairwise (· < ·) := by decide
  exact (Bool.and_eq_true _ _).mpr ⟨decide_eq_true hnames, rfl⟩

theorem depth_toJson (s : Subscription) : s.toJson.depth = 1 := rfl

theorem mapM_read_toJson (subs : List Subscription) :
    (subs.map toJson).mapM codec.read = .ok subs := by
  have hread : (subs.map toJson).mapM codec.read = .ok (subs.map id) :=
    Codec.read_list fun s _ => read_toJson s
  rwa [List.map_id] at hread

theorem areExact_map_toJson (subs : List Subscription) :
    Json.areExact (subs.map toJson) = true := by
  induction subs with
  | nil => rfl
  | cons s rest ih => rw [List.map_cons, Json.areExact, isExact_toJson, ih]; rfl

theorem itemsDepth_map_toJson_le (subs : List Subscription) :
    Json.itemsDepth (subs.map toJson) ≤ 1 := by
  induction subs with
  | nil => exact Nat.zero_le 1
  | cons s rest ih =>
    rw [List.map_cons, Json.itemsDepth, depth_toJson]
    omega

end Subscription

/-- The text of a request reads as the request. -/
theorem Operation.parse_request (op : Operation) (subs : List Subscription) :
    Json.parse (op.request subs).text = some (op.request subs) := by
  have hexact : (op.request subs).isExact = true := by
    have hnames : ["args", "op"].Pairwise (· < ·) := by decide
    refine (Bool.and_eq_true _ _).mpr ⟨decide_eq_true hnames, ?_⟩
    simp [Json.haveExact, Json.isExact, Subscription.areExact_map_toJson]
  have hdepth : (op.request subs).depth < Json.maxDepth := by
    have hitems := Subscription.itemsDepth_map_toJson_le subs
    simp only [request, Json.depth, Json.fieldsDepth, Json.maxDepth]
    omega
  rw [Json.parse_text hexact, if_pos hdepth]

namespace Message

/-- The message in the text of an object is the one in the object with its fields in order. -/
theorem ofText_obj {fields : List (String × Json)} (h : Json.haveExact fields = true)
    (hdepth : Json.fieldsDepth fields ≤ 126) :
    ofText (Json.obj fields).text = ofJson (Json.object fields) := by
  have hlt : (Json.obj fields).depth < Json.maxDepth := by
    rw [Json.depth, Json.maxDepth]
    omega
  rw [ofText, Json.parse_text_obj h, if_pos hlt]

/-- An acknowledgement of either kind reads as what it is, whichever of its fields comes first. -/
theorem ofText_ack (kind : EventKind) (s : Subscription) {fields : List (String × Json)}
    (h : fields.Perm [("event", .str kind.name), ("arg", s.toJson)]) :
    ofText (Json.obj fields).text =
      ofJson (.obj [("arg", s.toJson), ("event", .str kind.name)]) := by
  have hs := s.isExact_toJson
  rcases List.perm_pair.mp h with rfl | rfl
  all_goals
    rw [ofText_obj (by simp [Json.haveExact, hs, Json.isExact])
      (by simp [Json.fieldsDepth, Subscription.depth_toJson, Json.depth])]
    rfl

/-- An event reads as what it is, whichever of its fields comes first, unless its payload is nested
too deep. -/
theorem ofText_event (s : Subscription) {v : Json} (hv : v.isExact = true)
    {fields : List (String × Json)} (h : fields.Perm [("arg", s.toJson), ("data", v)]) :
    ofText (Json.obj fields).text = .ok (some (.data ⟨s.channel, s.instId, v⟩)) ↔
      v.depth ≤ 126 := by
  have hexact : Json.haveExact fields = true := by
    have hs := s.isExact_toJson
    rcases List.perm_pair.mp h with rfl | rfl <;> simp [Json.haveExact, hs, hv]
  have hdepth : Json.fieldsDepth fields = max 1 v.depth := by
    rcases List.perm_pair.mp h with rfl | rfl
    · simp [Json.fieldsDepth, Subscription.depth_toJson]
    · simp [Json.fieldsDepth, Subscription.depth_toJson, Nat.max_comm]
  have hobject : Json.object fields = .obj [("arg", s.toJson), ("data", v)] := by
    rcases List.perm_pair.mp h with rfl | rfl <;> rfl
  constructor
  · intro hread
    by_contra hdeep
    have hnone : Json.parse (Json.obj fields).text = none := by
      rw [Json.parse_text_obj hexact, Json.depth, Json.maxDepth, hdepth, if_neg (by omega)]
    rw [ofText, hnone] at hread
    cases hread
  · intro hle
    rw [ofText_obj hexact (by omega), hobject]
    rfl

end Message

/-- **What one side writes, the other side reads, whatever characters there are in it.** A request
reads as an object that asks to subscribe to the same subscriptions in the same order. An
acknowledgement reads as one of its kind for its subscription, and an event as its channel, its
instrument and its payload; in both the fields may come in either order. The payload is any value
whose numbers are whole and within 64 bits, as long as it is nested no more than 126 deep. -/
theorem wire_format_agrees :
    (∀ subs : List Subscription, ∃ text request items, Frame.subscribing subs = .text text ∧
      Json.parse text = some request ∧ request.isObject = true ∧
      request.field? "op" = some (.str "subscribe") ∧ request.field? "args" = some (.arr items) ∧
      items.mapM Subscription.codec.read = .ok subs) ∧
    (∀ (s : Subscription) (fields : List (String × Json)),
      fields.Perm [("event", .str "subscribe"), ("arg", s.toJson)] →
      Message.ofFrame (.text (Json.obj fields).text) = .ok (some (.control (.subscribed s)))) ∧
    (∀ (s : Subscription) (fields : List (String × Json)),
      fields.Perm [("event", .str "unsubscribe"), ("arg", s.toJson)] →
      Message.ofFrame (.text (Json.obj fields).text) = .ok (some (.control (.unsubscribed s)))) ∧
    ∀ (s : Subscription) (v : Json) (fields : List (String × Json)), v.isExact = true →
      fields.Perm [("arg", s.toJson), ("data", v)] →
      (Message.ofFrame (.text (Json.obj fields).text) =
        .ok (some (.data ⟨s.channel, s.instId, v⟩)) ↔ v.depth ≤ 126) := by
  refine ⟨fun subs => ?_, fun s fields h => ?_, fun s fields h => ?_, fun s v fields hv h => ?_⟩
  · exact ⟨_, Operation.subscribe.request subs, subs.map Subscription.toJson, rfl,
      Operation.subscribe.parse_request subs, rfl, rfl, rfl, Subscription.mapM_read_toJson subs⟩
  · exact Message.ofText_ack .subscribe s h
  · exact Message.ofText_ack .unsubscribe s h
  · exact Message.ofText_event s hv h

/-- A channel and an instrument with quotes, a backslash, a control character and one beyond the
first plane, under a payload with such a name and the least and the greatest number. -/
theorem odd_event_agrees :
    let s : Subscription := ⟨"tick\"ers\\", "\x01😀"⟩
    let v : Json := .obj [("", .arr [.int Json.minInt, .int Json.maxInt, .null]),
      ("\n\"\\😀", .arr [.obj [], .str "\x1f", .bool true])]
    v.isExact = true ∧ v.depth = 3 ∧
      Message.ofFrame (.text (Json.obj [("data", v), ("arg", s.toJson)]).text) =
        .ok (some (.data ⟨s.channel, s.instId, v⟩)) := by
  intro s v
  have hexact : v.isExact = true := by decide +kernel
  have hdepth : v.depth = 3 := by decide +kernel
  exact ⟨hexact, hdepth, (wire_format_agrees.2.2.2 s v _ hexact (List.Perm.swap _ _ [])).mpr
    (by omega)⟩

end MarketFeed
