set_option autoImplicit false

/-! # Texts within texts

Plain containment, the cut at a separator, and the removal of characters. -/

namespace Floorplan.Text

/-- Does `needle` occur in the text as a contiguous piece? -/
def containsChars (needle : List Char) : List Char → Bool
  | [] => needle.isEmpty
  | c :: rest => needle.isPrefixOf (c :: rest) || containsChars needle rest

/-- Containment is being an infix. -/
theorem containsChars_iff {needle s : List Char} :
    containsChars needle s = true ↔ needle <:+: s := by
  induction s with
  | nil => simp [containsChars]
  | cons c rest ih => simp [containsChars, ih, List.infix_cons_iff]

/-- Does any of the words occur in the text? -/
def containsAny (words : List String) (s : List Char) : Bool :=
  words.any fun w => containsChars w.toList s

/-- The pieces between the separators; there is one piece more than there are separators. -/
def splitAt (separator : Char) : List Char → List (List Char)
  | [] => [[]]
  | c :: rest =>
    match splitAt separator rest with
    | [] => [[c]]
    | piece :: pieces => if c = separator then [] :: piece :: pieces else (c :: piece) :: pieces

theorem splitAt_ne_nil (separator : Char) (s : List Char) : splitAt separator s ≠ [] := by
  cases s with
  | nil => simp [splitAt]
  | cons c rest =>
    unfold splitAt
    split
    · simp
    · split <;> simp

/-- One piece more than separators. -/
theorem length_splitAt (separator : Char) (s : List Char) :
    (splitAt separator s).length = s.count separator + 1 := by
  induction s with
  | nil => simp [splitAt]
  | cons c rest ih =>
    unfold splitAt
    split
    · exact absurd ‹_› (splitAt_ne_nil _ _)
    · rename_i piece pieces h
      rw [h] at ih
      by_cases hc : c = separator
      · subst hc; simp at ih ⊢; omega
      · simp [hc] at ih ⊢; omega

/-- The text without any of the characters. -/
def without (dropped : List Char) (s : List Char) : List Char :=
  s.filter fun c => !dropped.contains c

end Floorplan.Text
