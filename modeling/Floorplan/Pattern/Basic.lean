import Floorplan.Text.Blank
import Floorplan.Text.Digit

set_option autoImplicit false

/-! # Text patterns and the ways they match

A pattern describes how the beginning of a text may look. One text can match in several ways: a
repetition may stop early or late, an alternative may be the left or the right one. `Pattern.ways`
lists all of them in order of preference (the left alternative first, a greedy repetition from the
longest, a reluctant one from the shortest), and the first of them is *the* match.

`Pattern.run` looks for the first way that the continuation accepts without listing the others;
`run_eq_findSome?` says that this is all it does. Only single characters are repeated, so both are
structural recursions. -/

namespace Floorplan

/-- A set of characters that a pattern accepts at one place. -/
inductive CharClass where
  /-- This character. -/
  | exactly (c : Char)
  /-- This letter in either case. -/
  | eitherCase (c : Char)
  /-- White space. -/
  | blank
  /-- A decimal digit of any script. -/
  | digit
  /-- Anything but a line feed. -/
  | sameLine
  /-- One of the characters. -/
  | oneOf (cs : List Char)
  /-- None of the characters. -/
  | noneOf (cs : List Char)
  deriving DecidableEq, Repr

/-- The small ASCII letter that a character is compared as when case does not matter: the long s and
the Kelvin sign are forms of `s` and `k`. -/
def foldLetter (c : Char) : Char :=
  if c = 'ſ' then 's' else if c = '\u212A' then 'k' else c.toLower

/-- Does the class hold the character? -/
def CharClass.contains : CharClass → Char → Bool
  | exactly c, x => x = c
  | eitherCase c, x => foldLetter x = foldLetter c
  | blank, x => Text.isBlank x
  | digit, x => Text.isDigit x
  | sameLine, x => x ≠ '\n'
  | oneOf cs, x => cs.contains x
  | noneOf cs, x => !cs.contains x

/-- How the beginning of a text may look. -/
inductive Pattern where
  /-- The empty text. -/
  | nothing
  /-- The end of the text. -/
  | atEnd
  /-- One character of the class. -/
  | one (c : CharClass)
  /-- Any number of characters of the class, preferably many. -/
  | many (c : CharClass)
  /-- Any number of characters of the class, preferably few. -/
  | few (c : CharClass)
  /-- The one and then the other. -/
  | andThen (p q : Pattern)
  /-- The one or the other, preferably the one. -/
  | orElse (p q : Pattern)
  /-- The pattern, with the text it matches remembered under a number. -/
  | group (i : Nat) (p : Pattern)
  deriving DecidableEq, Repr

/-- A place in a text: what is left to read, and for each group that has been read the text left at
its beginning and at its end, the latest group first. -/
structure Cursor where
  rest : List Char
  groups : List (Nat × List Char × List Char) := []
  deriving DecidableEq, Repr

/-- What may be left after any number of characters of the class, the longest run first. -/
def CharClass.restsGreedy (c : CharClass) : List Char → List (List Char)
  | [] => [[]]
  | x :: xs => if c.contains x then c.restsGreedy xs ++ [x :: xs] else [x :: xs]

/-- What may be left after any number of characters of the class, the shortest run first. -/
def CharClass.restsReluctant (c : CharClass) : List Char → List (List Char)
  | [] => [[]]
  | x :: xs => (x :: xs) :: (if c.contains x then c.restsReluctant xs else [])

/-- Every way to match at the cursor, in order of preference. -/
def Pattern.ways : Pattern → Cursor → List Cursor
  | nothing, k => [k]
  | atEnd, k => if k.rest.isEmpty then [k] else []
  | one c, k =>
    match k.rest with
    | [] => []
    | x :: xs => if c.contains x then [{ k with rest := xs }] else []
  | many c, k => (c.restsGreedy k.rest).map fun r => { k with rest := r }
  | few c, k => (c.restsReluctant k.rest).map fun r => { k with rest := r }
  | andThen p q, k => (p.ways k).flatMap q.ways
  | orElse p q, k => p.ways k ++ q.ways k
  | group i p, k =>
    (p.ways k).map fun m => { m with groups := (i, k.rest, m.rest) :: m.groups }

/-! ## Finding the first acceptable way -/

/-- The first accepted rest after any number of characters of the class, the longest run first. -/
def CharClass.tryGreedy {β : Type} (c : CharClass) (accept : List Char → Option β) :
    List Char → Option β
  | [] => accept []
  | x :: xs =>
    if c.contains x then
      match c.tryGreedy accept xs with
      | some b => some b
      | none => accept (x :: xs)
    else accept (x :: xs)

/-- The first accepted rest after any number of characters of the class, the shortest run first. -/
def CharClass.tryReluctant {β : Type} (c : CharClass) (accept : List Char → Option β) :
    List Char → Option β
  | [] => accept []
  | x :: xs =>
    match accept (x :: xs) with
    | some b => some b
    | none => if c.contains x then c.tryReluctant accept xs else none

/-- What the first accepted way to match at the cursor is accepted as. -/
def Pattern.run {β : Type} : Pattern → (Cursor → Option β) → Cursor → Option β
  | nothing, accept, k => accept k
  | atEnd, accept, k => if k.rest.isEmpty then accept k else none
  | one c, accept, k =>
    match k.rest with
    | [] => none
    | x :: xs => if c.contains x then accept { k with rest := xs } else none
  | many c, accept, k => c.tryGreedy (fun r => accept { k with rest := r }) k.rest
  | few c, accept, k => c.tryReluctant (fun r => accept { k with rest := r }) k.rest
  | andThen p q, accept, k => p.run (q.run accept) k
  | orElse p q, accept, k =>
    match p.run accept k with
    | some b => some b
    | none => q.run accept k
  | group i p, accept, k =>
    p.run (fun m => accept { m with groups := (i, k.rest, m.rest) :: m.groups }) k

theorem CharClass.tryGreedy_eq {β : Type} (c : CharClass) (accept : List Char → Option β)
    (s : List Char) : c.tryGreedy accept s = (c.restsGreedy s).findSome? accept := by
  induction s with
  | nil => simp [tryGreedy, restsGreedy]
  | cons x xs ih =>
    unfold tryGreedy restsGreedy
    split
    · rw [ih, List.findSome?_append]
      cases h : (c.restsGreedy xs).findSome? accept <;> simp
    · simp

theorem CharClass.tryReluctant_eq {β : Type} (c : CharClass) (accept : List Char → Option β)
    (s : List Char) : c.tryReluctant accept s = (c.restsReluctant s).findSome? accept := by
  induction s with
  | nil => simp [tryReluctant, restsReluctant]
  | cons x xs ih =>
    unfold tryReluctant restsReluctant
    rw [List.findSome?_cons]
    cases accept (x :: xs) with
    | some b => rfl
    | none => by_cases h : c.contains x = true <;> simp [h, ih]

/-- Running a pattern is searching its list of ways. -/
theorem Pattern.run_eq_findSome? {β : Type} (p : Pattern) (accept : Cursor → Option β)
    (k : Cursor) : p.run accept k = (p.ways k).findSome? accept := by
  induction p generalizing accept k with
  | nothing => simp [run, ways]
  | atEnd => unfold run ways; split <;> simp
  | one c =>
    unfold run ways
    split
    · simp
    · split <;> simp
  | many c => simp [run, ways, CharClass.tryGreedy_eq, List.findSome?_map, Function.comp_def]
  | few c => simp [run, ways, CharClass.tryReluctant_eq, List.findSome?_map, Function.comp_def]
  | andThen p q ihp ihq =>
    simp only [run, ways, ihp]
    rw [show q.run accept = fun m => (q.ways m).findSome? accept from funext fun m => ihq accept m]
    induction p.ways k with
    | nil => simp
    | cons m ms ih =>
      rw [List.findSome?_cons, List.flatMap_cons, List.findSome?_append, ih]
      cases (q.ways m).findSome? accept <;> simp
  | orElse p q ihp ihq =>
    simp only [run, ways, ihp, ihq, List.findSome?_append]
    cases (p.ways k).findSome? accept <;> simp
  | group i p ih => simp [run, ways, ih, List.findSome?_map, Function.comp_def]

end Floorplan
