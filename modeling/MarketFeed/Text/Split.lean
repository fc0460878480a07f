/-!
# Splitting

Text cut at every mark. There is one part more than there are marks, and the parts with marks
between them are the text again.
-/

namespace MarketFeed.Split

def parts (mark : Char) : List Char → List (List Char)
  | [] => [[]]
  | c :: cs =>
    if c = mark then [] :: parts mark cs
    else
      match parts mark cs with
      | part :: rest => (c :: part) :: rest
      | [] => [[c]]

theorem parts_ne_nil (mark : Char) (cs : List Char) : parts mark cs ≠ [] := by
  cases cs with
  | nil => simp [parts]
  | cons c cs =>
    rw [parts]
    split
    · exact List.cons_ne_nil _ _
    · split <;> exact List.cons_ne_nil _ _

/-- The parts with marks between them give the text back. -/
theorem intercalate_parts (mark : Char) (cs : List Char) :
    [mark].intercalate (parts mark cs) = cs := by
  induction cs with
  | nil => rfl
  | cons c cs ih =>
    rw [parts]
    split
    · subst c
      cases h : parts mark cs with
      | nil => exact absurd h (parts_ne_nil mark cs)
      | cons part rest => rw [h] at ih; simp [List.intercalate_cons_cons, ih]
    · cases h : parts mark cs with
      | nil => exact absurd h (parts_ne_nil mark cs)
      | cons part rest =>
        rw [h] at ih
        cases rest with
        | nil => simpa using ih
        | cons next rest => simpa [List.intercalate_cons_cons] using ih

end MarketFeed.Split
