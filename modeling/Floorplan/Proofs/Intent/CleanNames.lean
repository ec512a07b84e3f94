import Floorplan.Proofs.Intent.Named
import Floorplan.Proofs.Pattern.Count
import Floorplan.Proofs.Text.Split

set_option autoImplicit false

/-! # The names in an intent are clean

A single name stands in the text as it is, but for the white space and the quotes around it, or it is the
name of a building that is created without one. The names of a list stand between the brackets in which
the request ends: the phrase in front of them holds no bracket, so the brackets are the only ones
(`Phrase.InBrackets`), and what is between them is cut at every comma. Main result:
`Intent.parse?_clean`. -/

namespace Floorplan

open Pattern
open Phrase (Unquoted)

/-! ## Lists of names -/

namespace Intent

variable {n : String} {u : List Char}

/-- What a name in a list is made of. -/
theorem clean_of_mem_bracketNames (h : n ∈ bracketNames u) :
    Text.Trimmed n.toList ∧ ∀ x ∈ n.toList, x ∈ u ∧ x ≠ ',' ∧ x ∉ listQuotes := by
  obtain ⟨piece, hpiece, rfl⟩ := List.mem_map.1 h
  rw [String.toList_ofList]
  refine ⟨Text.trimmed_trimChars _, fun x hx => ?_⟩
  obtain ⟨hx, hquote⟩ := List.mem_filter.1 ((Text.trimChars_infix_self _).subset hx)
  obtain ⟨hmem, hcomma⟩ := Text.mem_of_mem_splitAt hpiece x hx
  exact ⟨hmem, hcomma, by simpa using hquote⟩

theorem length_bracketNames (u : List Char) : (bracketNames u).length = u.count ',' + 1 := by
  rw [bracketNames, List.length_map, Text.length_splitAt]

end Intent

namespace Phrase

variable {k m : Cursor} {i : Nat} {s : List Char} {found : Match}

/-- The list in brackets is read from one bracket up to the next, and its group holds what is between
    them. -/
theorem exists_of_mem_ways_bracketed (h : m ∈ (bracketed i).ways k) :
    ∃ u, u ≠ [] ∧ ']' ∉ u ∧ k.rest = '[' :: (u ++ ']' :: m.rest) ∧
      m.groups = (i, u ++ ']' :: m.rest, ']' :: m.rest) :: k.groups := by
  obtain ⟨l₁, hopen, h⟩ := List.mem_flatMap.1 h
  obtain ⟨l₂, hlist, h⟩ := List.mem_flatMap.1 h
  obtain ⟨l₃, hclose, h⟩ := List.mem_flatMap.1 h
  obtain rfl : m = l₃ := List.mem_singleton.1 h
  obtain ⟨l, hnames, rfl⟩ := List.mem_map.1 hlist
  obtain ⟨x, hx, hfirst⟩ := reads_of_mem_ways hopen
  obtain ⟨y, u, hu, hbetween⟩ := reads_oneOrMore.1 (reads_of_mem_ways hnames)
  obtain ⟨z, hz, hlast⟩ := reads_of_mem_ways hclose
  obtain rfl : x = '[' := by simpa [CharClass.contains] using hx
  obtain rfl : z = ']' := by simpa [CharClass.contains] using hz
  have hlast : l.rest = ']' :: m.rest := hlast
  have hgroups : m.groups = (i, l₁.rest, l.rest) :: k.groups := by
    rw [groups_of_isGroupless rfl hclose, groups_of_isGroupless rfl hnames,
      groups_of_isGroupless rfl hopen]
  refine ⟨y :: u, List.cons_ne_nil y u, fun hmem => ?_, ?_, ?_⟩
  · simpa [CharClass.contains] using hu _ hmem
  · rw [hfirst, hbetween, hlast]
  · rw [hgroups, hbetween, hlast]

/-- `u` stands between the brackets in which the first match of a phrase ends: the first one in the match
    that opens, and the only one that closes. -/
structure InBrackets (p : Pattern) (s u : List Char) : Prop where
  found : ∃ m v, p.find? s = some m ∧ m.text = v ++ '[' :: (u ++ [']']) ∧ '[' ∉ v
  closed_once : ']' ∉ u
  ne_nil : u ≠ []

/-- The list of names that a phrase asks for is found in brackets. -/
theorem inBrackets_of_find? (front : List Pattern) {u : List Char}
    (hfront : (Pattern.sequence front).skips '[' = true)
    (h : (Pattern.sequence (front ++ [bracketed i])).find? s = some found)
    (hu : found.group? i = some u) :
    InBrackets (Pattern.sequence (front ++ [bracketed i])) s u := by
  obtain ⟨-, hways⟩ := exists_of_find? h
  obtain ⟨l, hl, hlist⟩ := mem_ways_sequence_append.1 (List.mem_of_mem_head? hways)
  obtain ⟨l', hlist, hend⟩ := List.mem_flatMap.1 hlist
  obtain rfl : _ = l' := List.mem_singleton.1 hend
  obtain ⟨t, hne, hclosed, hrest, hgroups⟩ := exists_of_mem_ways_bracketed hlist
  obtain ⟨v, hv, hbefore⟩ := (reads_of_mem_ways hl).within (within_of_skips hfront)
  simp only at hrest hgroups hbefore
  obtain rfl : t = u := by simpa [Match.group?, hgroups] using hu
  have htext : found.start = (v ++ '[' :: (t ++ [']'])) ++ found.stop := by
    simp [hbefore, hrest]
  refine ⟨⟨found, v, h, ?_, fun hmem => hv _ hmem rfl⟩, hclosed, hne⟩
  rw [Match.text, htext, Match.between_append]

/-- The phrase by which several names are given at once. -/
def bulk : BulkTarget → Pattern
  | .floors => bulkFloors
  | .components kind _ => bulkComponents kind

theorem inBrackets_bulkFloors {u : List Char} (h : bulkFloors.find? s = some found)
    (hu : found.group? 1 = some u) : InBrackets bulkFloors s u :=
  inBrackets_of_find?
    [renameVerb, between ["all"], singularOrPlural "floor", between ["to"]]
    (by decide) h hu

theorem inBrackets_bulkComponents {kind : ComponentKind} {u : List Char}
    (h : (bulkComponents kind).find? s = some found) (hu : found.group? 2 = some u) :
    InBrackets (bulkComponents kind) s u :=
  inBrackets_of_find?
    [renameVerb, between ["all"], singularOrPlural kind.noun, between ["in", "on"],
      word "floor", gap, count 1, between ["to"]]
    (by cases kind <;> decide) h hu

end Phrase

namespace Intent

variable {s : List Char} {n : String} {i : Intent}

/-! ## What the bulk family finds -/

theorem inBrackets_of_bulkRename? {target : BulkTarget} {names : List String}
    (h : bulkRename? s = some (.bulkRename target names)) :
    ∃ u, Phrase.InBrackets (Phrase.bulk target) s u ∧ names = bracketNames u := by
  have hcomponents : ∀ {kind m}, (Phrase.bulkComponents kind).find? s = some m →
      bulkComponents? kind m = some (.bulkRename target names) →
      ∃ u, Phrase.InBrackets (Phrase.bulk target) s u ∧ names = bracketNames u := by
    intro kind m hm h
    simp only [bulkComponents?, Option.bind_eq_bind, Option.bind_eq_some_iff] at h
    obtain ⟨floor, -, u, hu, h⟩ := h
    cases h
    exact ⟨u, Phrase.inBrackets_bulkComponents hm hu, rfl⟩
  obtain ⟨-, h⟩ := Option.ite_none_right_eq_some.1 h
  split at h
  · obtain ⟨u, hu, h⟩ := Option.map_eq_some_iff.1 h
    cases h
    exact ⟨u, Phrase.inBrackets_bulkFloors ‹_› hu, rfl⟩
  · split at h
    · exact hcomponents ‹_› h
    · obtain ⟨m, hm, h⟩ := Option.bind_eq_some_iff.1 h
      exact hcomponents hm h

/-! ## Clean names -/

/-- The name that an intent mentions if it mentions one. -/
def soleName? : Intent → Option String
  | switchBuilding name | renameBuilding name | renameFloor _ name | renameComponent _ _ _ name =>
    some name
  | createBuilding spec => spec.name
  | _ => none

/-- A name from a text, with nothing around it. -/
structure CleanName (s : List Char) (n : String) : Prop where
  ne_nil : n.toList ≠ []
  trimmed : Text.Trimmed n.toList
  unquoted : ∀ x ∈ n.toList, Unquoted x
  source : n.toList <:+: s ∨ n = defaultName

/-- A list of names that stood in brackets behind a phrase: as many names as the commas cut, each without
    white space around it and without what belongs to the list. -/
structure CleanList (p : Pattern) (s : List Char) (names : List String) : Prop where
  ne_nil : names ≠ []
  length_eq : ∃ u, Phrase.InBrackets p s u ∧ names.length = u.count ',' + 1
  trimmed : ∀ n ∈ names, Text.Trimmed n.toList
  no_marks : ∀ n ∈ names, ∀ x ∈ n.toList, x ∉ [',', ']'] ∧ x ∉ listQuotes

theorem cleanName_of_nameOf (h : NameOf Unquoted s n) : CleanName s n :=
  ⟨h.ne_nil, h.trimmed, h.chars, .inl h.piece⟩

theorem cleanName_defaultName (s : List Char) : CleanName s defaultName :=
  ⟨nameable_defaultName.ne_nil, nameable_defaultName.trimmed, nameable_defaultName.unquoted, .inr rfl⟩

theorem cleanList_bracketNames {p : Pattern} {u : List Char} (h : Phrase.InBrackets p s u) :
    CleanList p s (bracketNames u) := by
  have hlength := length_bracketNames u
  refine ⟨List.ne_nil_of_length_eq_add_one hlength, ⟨u, h, hlength⟩,
    fun n hn => (clean_of_mem_bracketNames hn).1, fun n hn x hx => ?_⟩
  obtain ⟨hmem, hcomma, hquote⟩ := (clean_of_mem_bracketNames hn).2 x hx
  have hclosed : x ≠ ']' := fun hx => h.closed_once (hx ▸ hmem)
  exact ⟨by simp [hcomma, hclosed], hquote⟩

theorem cleanName_of_recognize? (h : i.family.recognize? s = some i) (hn : i.soleName? = some n) :
    CleanName s n := by
  cases i with
  | switchBuilding name =>
    cases hn
    obtain ⟨n, hname, heq⟩ := Option.map_eq_some_iff.1 h
    cases heq
    exact cleanName_of_nameOf (nameOf_of_firstName? Phrase.groupsWithin_switch hname)
  | renameBuilding name =>
    cases hn
    obtain ⟨n, hname, heq⟩ := Option.map_eq_some_iff.1 h
    cases heq
    exact cleanName_of_nameOf (nameOf_of_firstName? Phrase.groupsWithin_renameBuilding hname)
  | renameFloor floor name =>
    cases hn
    exact cleanName_of_nameOf (nameOf_of_renameFloor? h)
  | renameComponent kind floor index name =>
    cases hn
    cases kind <;> exact cleanName_of_nameOf (nameOf_of_renameComponent? h)
  | createBuilding spec =>
    obtain ⟨spec', heq, hname⟩ := exists_of_createBuilding? h
    cases heq
    have hn : spec.name = some n := hn
    rcases hname with hname | hname
    · obtain rfl : n = defaultName := Option.some.inj (hn.symm.trans hname)
      exact cleanName_defaultName s
    · exact cleanName_of_nameOf (nameOf_of_creationName? (hname.symm.trans hn))
  | _ => cases hn

/-- **Names that are read from a text are clean**: a single name is one of the text's own pieces or the
    default, and a list is what the brackets of its phrase hold. -/
theorem parse?_clean {text : String} {hasActive : Bool} {f : Family}
    (h : parse? text hasActive = some (f, i)) :
    (∀ n, i.soleName? = some n → CleanName text.toList n) ∧
      ∀ target names, i = .bulkRename target names →
        CleanList (Phrase.bulk target) text.toList names := by
  have hrecognized := recognize?_of_parse? h
  obtain rfl := family_of_recognize? hrecognized
  refine ⟨fun n hn => cleanName_of_recognize? hrecognized hn, ?_⟩
  rintro target names rfl
  obtain ⟨u, hu, rfl⟩ := inBrackets_of_bulkRename? hrecognized
  exact cleanList_bracketNames hu

/-- A place in a list may stay empty, and quotes of every kind are taken off. -/
theorem clean_ground_and_mill :
    let list := "please rename all floors to [ \"Ground\", , “Second” ,'Roof' ] today"
    let names := ["Ground", "", "Second", "Roof"]
    let line := "call the building ' Old Mill ' please"
    parse? list true = some (.bulkRename, .bulkRename .floors names) ∧
      parse? line true = some (.buildingRename, .renameBuilding "Old Mill") ∧
      CleanList Phrase.bulkFloors list.toList names ∧ CleanName line.toList "Old Mill" := by
  intro list names line
  have hlist : parse? list true = some (.bulkRename, .bulkRename .floors names) := by decide +kernel
  have hline : parse? line true = some (.buildingRename, .renameBuilding "Old Mill") := by
    decide +kernel
  exact ⟨hlist, hline, (parse?_clean hlist).2 .floors names rfl, (parse?_clean hline).1 _ rfl⟩

end Intent

end Floorplan
