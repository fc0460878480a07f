import MarketFeed.Message
import MarketFeed.Proofs.Json.Quote

/-!
# The text of requests

The text of a subscription says which one it is, wherever it stands, and so the text of a request
says what is requested (`subscribing_injective`).
-/

namespace MarketFeed

namespace Subscription

theorem chars_toJson (s : Subscription) (rest : List Char) :
    s.toJson.chars ++ rest =
      '\x7b' :: (Json.quote "channel" ++ ':' :: (Json.quote s.channel ++ ',' ::
        (Json.quote "instId" ++ ':' :: (Json.quote s.instId ++ '\x7d' :: rest)))) := by
  simp [toJson, Json.chars, Json.fieldChars]

/-- A text that begins with a subscription begins with no other one. -/
theorem chars_toJson_append_inj {s s' : Subscription} {rest rest' : List Char}
    (h : s.toJson.chars ++ rest = s'.toJson.chars ++ rest') : s = s' ∧ rest = rest' := by
  rw [chars_toJson, chars_toJson] at h
  simp only [List.cons.injEq, List.append_cancel_left_eq, true_and] at h
  obtain ⟨hchannel, hbehind⟩ := Json.quote_append_inj h
  simp only [List.cons.injEq, List.append_cancel_left_eq, true_and] at hbehind
  obtain ⟨hinst, hrest⟩ := Json.quote_append_inj hbehind
  exact ⟨by cases s; cases s'; simp_all, (List.cons.inj hrest).2⟩

/-- Different subscriptions have different texts. -/
theorem canonical_injective : Function.Injective canonical := by
  intro s s' h
  have hchars : s.toJson.chars ++ [] = s'.toJson.chars ++ [] := by
    rw [List.append_nil, List.append_nil]
    exact String.ofList_injective h
  exact (chars_toJson_append_inj hchars).1

end Subscription

theorem itemChars_append_inj {subs subs' : List Subscription} {rest rest' : List Char}
    (h : Json.itemChars (subs.map Subscription.toJson) ++ ']' :: rest =
      Json.itemChars (subs'.map Subscription.toJson) ++ ']' :: rest') : subs = subs' := by
  induction subs generalizing subs' with
  | nil =>
    cases subs' with
    | nil => rfl
    | cons s' more' => cases more' <;> simp [Json.itemChars, Subscription.toJson, Json.chars] at h
  | cons s more ih =>
    cases subs' with
    | nil => cases more <;> simp [Json.itemChars, Subscription.toJson, Json.chars] at h
    | cons s' more' =>
      -- each list ends behind its first item or goes on with a comma
      cases more with
      | nil =>
        cases more' with
        | nil =>
          simp only [List.map_cons, List.map_nil, Json.itemChars] at h
          rw [(Subscription.chars_toJson_append_inj h).1]
        | cons t' more' =>
          simp only [List.map_cons, List.map_nil, Json.itemChars, List.append_assoc,
            List.cons_append] at h
          exact absurd (List.cons.inj (Subscription.chars_toJson_append_inj h).2).1 (by decide)
      | cons t more =>
        cases more' with
        | nil =>
          simp only [List.map_cons, List.map_nil, Json.itemChars, List.append_assoc,
            List.cons_append] at h
          exact absurd (List.cons.inj (Subscription.chars_toJson_append_inj h).2).1 (by decide)
        | cons t' more' =>
          simp only [List.map_cons, Json.itemChars, List.append_assoc, List.cons_append] at h ih
          obtain ⟨hs, hrest⟩ := Subscription.chars_toJson_append_inj h
          have hmore := @ih (t' :: more') (List.cons.inj hrest).2
          rw [hs, hmore]

/-- A request says what is requested. -/
theorem Frame.subscribing_injective : Function.Injective Frame.subscribing := by
  intro subs subs' h
  have hchars := String.ofList_injective (Frame.text.inj h)
  simp only [Operation.request, Json.chars, Json.fieldChars, List.cons_append, List.append_assoc,
    List.cons.injEq, List.append_cancel_left_eq, true_and] at hchars
  exact itemChars_append_inj hchars

end MarketFeed
