import Floorplan.Pattern.Basic

set_option autoImplicit false

/-! # Finding a pattern in a text

A search tries the pattern at every place from the left; the first place where it matches decides,
and there the most preferred way. Repeated search goes on behind each match. A match may also be
refused because of the text behind it. -/

namespace Floorplan

/-- A match: the text left at its beginning and at its end, and the groups read in it. -/
structure Match where
  start : List Char
  stop : List Char
  groups : List (Nat × List Char × List Char)
  deriving DecidableEq, Repr

namespace Match

/-- The text between two places of which the second is further on. -/
def between (start stop : List Char) : List Char := start.take (start.length - stop.length)

/-- The matched text. -/
def text (m : Match) : List Char := between m.start m.stop

/-- The text of a group, if the match has read it. -/
def group? (m : Match) (i : Nat) : Option (List Char) :=
  (m.groups.lookup i).map fun ends => between ends.1 ends.2

end Match

namespace Pattern

/-- The match at the very beginning of the text. -/
def matchAt? (p : Pattern) (s : List Char) : Option Match :=
  p.run (fun k => some ⟨s, k.rest, k.groups⟩) ⟨s, []⟩

/-- The match at the beginning is the first of all ways. -/
theorem matchAt?_eq (p : Pattern) (s : List Char) :
    p.matchAt? s = (p.ways ⟨s, []⟩).head?.map fun k => ⟨s, k.rest, k.groups⟩ := by
  rw [matchAt?, run_eq_findSome?]
  cases p.ways ⟨s, []⟩ <;> simp

/-- Does the text begin with the pattern? -/
def startsText (p : Pattern) (s : List Char) : Bool := (p.matchAt? s).isSome

/-- The leftmost match in the text. -/
def find? (p : Pattern) : List Char → Option Match
  | [] => p.matchAt? []
  | c :: rest =>
    match p.matchAt? (c :: rest) with
    | some m => some m
    | none => p.find? rest

/-- Does the pattern match anywhere in the text? -/
def occursIn (p : Pattern) (s : List Char) : Bool := (p.find? s).isSome

/-- All matches from the left, each search beginning behind the match before it. A match that leaves
as much text as there was is the last one. -/
def findAll (p : Pattern) (s : List Char) : List Match :=
  match p.find? s with
  | none => []
  | some m => if m.stop.length < s.length then m :: p.findAll m.stop else [m]
termination_by s.length

/-- The first match that `ahead` does not follow. Words may end in a plural `s`: a match that ends in
one also counts if `ahead` does not match in front of that letter. -/
def findUnlessFollowed? (p ahead : Pattern) (s : List Char) : Option Match :=
  (p.findAll s).find? fun m =>
    !ahead.startsText m.stop ||
      (m.text.getLast? == some 's' && !ahead.startsText ('s' :: m.stop))

/-! ## Building patterns -/

/-- The letters of a word, in either case. -/
def word (w : String) : Pattern := w.toList.foldr (fun c p => andThen (one (.eitherCase c)) p) nothing

/-- The characters of a text as they are. -/
def exactly (w : String) : Pattern := w.toList.foldr (fun c p => andThen (one (.exactly c)) p) nothing

/-- The patterns one after the other. -/
def sequence (ps : List Pattern) : Pattern := ps.foldr andThen nothing

/-- One of the patterns, preferably an early one. -/
def choice : List Pattern → Pattern
  | [] => nothing
  | [p] => p
  | p :: q :: rest => orElse p (choice (q :: rest))

/-- The pattern, preferably, or nothing. -/
def optional (p : Pattern) : Pattern := orElse p nothing

/-- At least one character of the class, preferably many. -/
def oneOrMore (c : CharClass) : Pattern := andThen (one c) (many c)

/-- At least one character of the class, preferably few. -/
def oneOrFewMore (c : CharClass) : Pattern := andThen (one c) (few c)

/-- White space that separates two words. -/
def gap : Pattern := oneOrMore .blank

/-- White space that may be missing. -/
def space : Pattern := many .blank

/-- A run of decimal digits, remembered as group `i`. -/
def count (i : Nat) : Pattern := group i (oneOrMore .digit)

end Pattern

end Floorplan
