import Floorplan.Proofs.Text.LetterCase
import Floorplan.Intent.Family

set_option autoImplicit false

/-! # Patterns that do not tell capitals from small letters

A pattern that spells no letter exactly matches a text at the same places, in the same ways and with the
same groups when the ASCII capitals of the text are replaced by small letters (`Pattern.ways_lowered`,
`Pattern.find?_map_toLower`). So the numbers that it finds are the same, and the names that it finds are
the same but for the case of ASCII letters. -/

namespace Floorplan

/-! ## What does not depend on case -/

/-- Does the class not name a letter of one case? -/
def CharClass.isCaseless : CharClass → Bool
  | exactly c => !c.isAlpha
  | oneOf cs | noneOf cs => cs.all fun c => !c.isAlpha
  | eitherCase _ | blank | digit | sameLine => true

/-- Does the pattern name no letter of one case? -/
def Pattern.isCaseless : Pattern → Bool
  | nothing | atEnd => true
  | one c | many c | few c => c.isCaseless
  | andThen p q | orElse p q => p.isCaseless && q.isCaseless
  | group _ p => p.isCaseless

theorem foldLetter_toLower (c : Char) : foldLetter c.toLower = foldLetter c :=
  Text.apply_toLower (by decide) c

theorem CharClass.contains_toLower {c : CharClass} (hc : c.isCaseless = true) (x : Char) :
    c.contains x.toLower = c.contains x := by
  have hletters : ∀ {cs : List Char}, (cs.all fun c => !c.isAlpha) = true →
      (cs.contains x.toLower) = cs.contains x := by
    intro cs hcs
    have hnone : ∀ c ∈ cs, c.isAlpha = false := by simpa using hcs
    simp only [List.contains_eq_mem, Text.mem_toLower_iff hnone x]
  cases c with
  | exactly c =>
    have hletter : c.isAlpha = false := by simpa [isCaseless] using hc
    simp only [contains, Text.toLower_eq_iff hletter]
  | eitherCase c => simp only [contains, foldLetter_toLower]
  | blank => exact Text.isBlank_toLower x
  | digit => exact Text.isDigit_toLower x
  | sameLine =>
    have hfeed : x.toLower = '\n' ↔ x = '\n' := Text.toLower_eq_iff (by decide)
    simp only [contains, ne_eq, hfeed]
  | oneOf cs => exact hletters hc
  | noneOf cs => exact congrArg (!·) (hletters hc)

/-! ## Ways to match -/

/-- The same place in a text without capitals. -/
def Cursor.lowered (k : Cursor) : Cursor :=
  { rest := k.rest.map Char.toLower
    groups := k.groups.map fun g => (g.1, g.2.1.map Char.toLower, g.2.2.map Char.toLower) }

/-- The same match in a text without capitals. -/
def Match.lowered (m : Match) : Match :=
  { start := m.start.map Char.toLower
    stop := m.stop.map Char.toLower
    groups := m.groups.map fun g => (g.1, g.2.1.map Char.toLower, g.2.2.map Char.toLower) }

namespace CharClass

variable {c : CharClass}

theorem restsGreedy_map_toLower (hc : c.isCaseless = true) (s : List Char) :
    c.restsGreedy (s.map Char.toLower) = (c.restsGreedy s).map (List.map Char.toLower) := by
  induction s with
  | nil => rfl
  | cons x s ih =>
    simp only [List.map_cons, restsGreedy, contains_toLower hc, ih]
    split <;> simp

theorem restsReluctant_map_toLower (hc : c.isCaseless = true) (s : List Char) :
    c.restsReluctant (s.map Char.toLower) = (c.restsReluctant s).map (List.map Char.toLower) := by
  induction s with
  | nil => rfl
  | cons x s ih =>
    simp only [List.map_cons, restsReluctant, contains_toLower hc, ih]
    split <;> simp

end CharClass

namespace Pattern

variable {p : Pattern}

/-- **A pattern without letters of one case matches in the same ways** in a text without capitals. -/
theorem ways_lowered (hp : p.isCaseless = true) (k : Cursor) :
    p.ways k.lowered = (p.ways k).map Cursor.lowered := by
  induction p generalizing k with
  | nothing => rfl
  | atEnd =>
    simp only [ways, Cursor.lowered, List.isEmpty_map]
    split <;> rfl
  | one c =>
    simp only [ways, Cursor.lowered]
    cases k.rest with
    | nil => rfl
    | cons x xs =>
      simp only [List.map_cons, CharClass.contains_toLower hp]
      split <;> rfl
  | many c =>
    simp only [ways, Cursor.lowered, CharClass.restsGreedy_map_toLower hp, List.map_map,
      Function.comp_def]
  | few c =>
    simp only [ways, Cursor.lowered, CharClass.restsReluctant_map_toLower hp, List.map_map,
      Function.comp_def]
  | andThen p q ihp ihq =>
    obtain ⟨hp, hq⟩ := Bool.and_eq_true_iff.1 hp
    simp only [ways, ihp hp, List.flatMap_map, List.map_flatMap, ihq hq]
  | orElse p q ihp ihq =>
    obtain ⟨hp, hq⟩ := Bool.and_eq_true_iff.1 hp
    simp only [ways, ihp hp, ihq hq, List.map_append]
  | group i p ih =>
    simp only [ways, ih hp, List.map_map]
    rfl

theorem matchAt?_map_toLower (hp : p.isCaseless = true) (s : List Char) :
    p.matchAt? (s.map Char.toLower) = (p.matchAt? s).map Match.lowered := by
  have hways := ways_lowered hp ⟨s, []⟩
  simp only [Cursor.lowered, List.map_nil] at hways
  rw [matchAt?_eq, matchAt?_eq, hways, List.head?_map, Option.map_map, Option.map_map]
  rfl

/-- A pattern without letters of one case is found at the same place. -/
theorem find?_map_toLower (hp : p.isCaseless = true) (s : List Char) :
    p.find? (s.map Char.toLower) = (p.find? s).map Match.lowered := by
  induction s with
  | nil => exact matchAt?_map_toLower hp []
  | cons x s ih =>
    have hfirst := matchAt?_map_toLower hp (x :: s)
    rw [List.map_cons] at hfirst ⊢
    rw [find?, find?, hfirst, ih]
    cases p.matchAt? (x :: s) <;> rfl

end Pattern

/-! ## What is found -/

namespace Match

variable (m : Match) (i : Nat)

theorem group?_lowered : m.lowered.group? i = (m.group? i).map (List.map Char.toLower) := by
  have hlookup : m.lowered.groups.lookup i
      = (m.groups.lookup i).map fun ends => (ends.1.map Char.toLower, ends.2.map Char.toLower) := by
    simp only [lowered]
    induction m.groups with
    | nil => rfl
    | cons g groups ih =>
      obtain ⟨j, start, stop⟩ := g
      simp only [List.map_cons, List.lookup_cons, ih]
      cases i == j <;> rfl
  simp only [group?, hlookup, Option.map_map, Function.comp_def, between, List.length_map,
    List.map_take]

theorem number?_lowered : m.lowered.number? i = m.number? i := by
  simp only [number?, group?_lowered, Option.bind_map, Function.comp_def, Text.word?_map_toLower]

theorem name?_lowered : m.lowered.name? i = (m.name? i).map String.toLower := by
  simp only [name?, group?_lowered, Option.bind_map, Option.map_bind]
  congr 1
  funext u
  simp only [Function.comp_apply, Text.trimChars_map_toLower]
  cases Text.trimChars u with
  | nil => rfl
  | cons c t =>
    simp only [List.map_cons, Option.map_some, Text.toLower_ofList]

end Match

end Floorplan
