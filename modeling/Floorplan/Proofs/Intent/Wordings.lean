import Floorplan.Proofs.Intent.Clause
import Floorplan.Proofs.Intent.Named
import Floorplan.Proofs.Intent.Quoting

set_option autoImplicit false

/-! # The wordings of one renaming

A renaming can be asked for in several wordings, and the name can be written with quotes and without. All
wordings come to the same, for a component (`Writable.renameComponent?_eq`), a floor
(`Writable.renameFloor?_eq`) and the building (`Writable.renameBuilding?_eq`). For that the name must not
have the words in it by which one wording is told from the others. -/

namespace Floorplan

open Pattern Phrase
open Text (Mentions)

/-- The requests that one component be renamed: with either verb and each of the prepositions, with the
    floor in front of the name or behind it. -/
def componentWordings (kind : ComponentKind) (index floor name : String) : List String :=
  ["rename", "change"].flatMap fun verb => ["in", "on", "of"].flatMap fun preposition =>
    [verb ++ " " ++ kind.noun ++ " " ++ index ++ " " ++ preposition ++ " floor " ++ floor
       ++ " to " ++ name,
     verb ++ " " ++ kind.noun ++ " " ++ index ++ " to " ++ name
       ++ " " ++ preposition ++ " floor " ++ floor]

/-- The requests that a floor be renamed. -/
def floorWordings (floor name : String) : List String :=
  ["rename floor " ++ floor ++ " to " ++ name, "change floor " ++ floor ++ " to " ++ name,
   "floor " ++ floor ++ ": " ++ name, "floor " ++ floor ++ " = " ++ name,
   "call floor " ++ floor ++ " " ++ name]

/-- The requests that the active building be renamed. -/
def buildingWordings (name : String) : List String :=
  (["change", "rename", "update", "set"].flatMap fun verb =>
    [verb ++ " name to " ++ name, verb ++ " building name to " ++ name]) ++
  ["name: " ++ name, "name = " ++ name, "building name: " ++ name, "building name = " ++ name,
   "call building " ++ name, "call the building " ++ name]

variable {name verb w : String} {kind : ComponentKind} {d e s : List Char} {n k i : Nat}
  {g : List (Nat × List Char × List Char)}

/-! ## Parts that several wordings share -/

/-- Either sign is read with the white space around it. -/
theorem leads_assignment (hw : w ∈ [":", " ="]) (s : List Char) :
    assignment.Leads ⟨w.toList ++ ' ' :: s, g⟩ ⟨Text.trimLeft s, g⟩ := by
  simp only [List.mem_cons, List.not_mem_nil, or_false] at hw
  rcases hw with rfl | rfl
  · exact (leads_space _).andThen ((leads_one rfl).andThen ((leads_space _).andThen (leads_nothing _)))
  · exact (leads_space _).andThen ((leads_one rfl).andThen ((leads_space _).andThen (leads_nothing _)))

/-- No sign is read where something else stands behind the white space. -/
theorem not_reads_assignment (hs : ∀ x ∈ (Text.trimLeft s).head?, x ≠ ':' ∧ x ≠ '=') (r : List Char) :
    ¬ assignment.Reads s r := by
  rintro ⟨_, ⟨v, hblank, rfl⟩, u, ⟨x, hx, rfl⟩, -⟩
  have hsign : x = ':' ∨ x = '=' := by simpa [CharClass.contains] using hx
  have hnot : Text.isBlank x = false := by
    rcases hsign with rfl | rfl <;> rfl
  have hleft : Text.trimLeft (v ++ x :: u) = x :: u :=
    (List.dropWhile_append_of_pos hblank).trans (Text.trimLeft_cons _ hnot)
  obtain ⟨hcolon, hequals⟩ := hs x (by rw [hleft]; rfl)
  exact hsign.elim hcolon hequals

/-- A number has no letters. -/
theorem not_mentions_digits {ws : List String} (hd : ∀ x ∈ d, Text.isDigit x = true)
    (hws : ∀ w ∈ ws, ∃ x ∈ w.toList, ¬ Text.isDigit x = true) : ¬ Mentions ws d :=
  Text.not_mentions_of_letters (fun x hx => ⟨Text.smallForm_of_isDigit (hd x hx), hd x hx⟩) hws

/-- What is mentioned on neither side of a blank is not mentioned. -/
theorem not_mentions_append {ws : List String} {t : List Char} (hws : ∀ w ∈ ws, ' ' ∉ w.toList)
    (hs : ¬ Mentions ws s) (ht : ¬ Mentions ws t) : ¬ Mentions ws (s ++ ' ' :: t) := by
  rw [Text.mentions_append_cons_iff (by decide) hws, not_or]
  exact ⟨hs, ht⟩

namespace Writable

/-! ## Components -/

theorem renameComponent?_floorFirst (h : Writable name) (q : Quoting)
    (hverb : verb ∈ ["rename", "change"]) (hw : w ∈ ["in", "on", "of"]) (hd : Text.word? d = some n)
    (he : Text.word? e = some k) :
    Intent.renameComponent? kind (verb.toList ++ ' ' :: (kind.noun.toList ++ ' ' :: (d ++ ' ' ::
      (w.toList ++ ' ' :: ("floor".toList ++ ' ' :: (e ++ ' ' :: ("to".toList ++ ' ' ::
        (q.write name).toList))))))) = some (.renameComponent kind k n (Text.trim name)) := by
  obtain ⟨hdne, hdd⟩ := Text.isDigit_of_word? hd
  obtain ⟨hene, hed⟩ := Text.isDigit_of_word? he
  obtain ⟨start, stop, hholds, hname⟩ := h.leads_name q 3
  have hleads := leads_component (g := []) kind hverb hdne hdd (isDigit_blank _)
    (leads_place (i := 2) apart_prepositions hw hene hed (isDigit_blank _)
      ((leads_to _).andThen ((hname _).andThen (leads_nothing _))))
  have hfind : (renameFloorFirst kind).find? _ = _ := hleads.find?_eq
  generalize hm : (⟨_, _, _⟩ : Match) = m at hfind
  have hindex : m.number? 1 = some n := (Match.number?_of_lookup (by rw [← hm]; rfl)).trans hd
  have hfloor : m.number? 2 = some k := (Match.number?_of_lookup (by rw [← hm]; rfl)).trans he
  have hgiven : m.name? 3 = some (Text.trim name) := h.name?_of_lookup (by rw [← hm]; rfl) hholds
  simp only [Intent.renameComponent?, hfind, hindex, hfloor, hgiven]
  rfl

theorem leads_to_write (h : Writable name) (q : Quoting) (s : List Char) :
    (between ["to"]).Leads ⟨' ' :: ("to".toList ++ ' ' :: ((q.write name).toList ++ s)), g⟩
      ⟨Text.trimLeft (q.write name).toList ++ s, g⟩ := by
  rw [← h.trimLeft_write_append]
  exact leads_to _

theorem not_mentions_verb_nameFirst (kind : ComponentKind) (q : Quoting)
    (hfree : ¬ Mentions ["rename", "change"] name.toList)
    (hw : w ∈ ["in", "on", "of"]) (hd : ∀ x ∈ d, Text.isDigit x = true)
    (he : ∀ x ∈ e, Text.isDigit x = true) :
    ¬ Mentions ["rename", "change"] (kind.noun.toList ++ ' ' :: (d ++ ' ' :: ("to".toList ++ ' ' ::
      ((q.write name).toList ++ ' ' :: (w.toList ++ ' ' :: ("floor".toList ++ ' ' :: e)))))) := by
  have hnoun : ¬ Mentions ["rename", "change"] kind.noun.toList := by cases kind <;> decide
  have hprepositions : ∀ w ∈ ["in", "on", "of"], ¬ Mentions ["rename", "change"] w.toList := by decide
  have hname : ¬ Mentions ["rename", "change"] (q.write name).toList :=
    fun h => hfree (Quoting.mentions_write (by decide) h)
  refine not_mentions_append (by decide) hnoun ?_
  refine not_mentions_append (by decide) (not_mentions_digits hd (by decide)) ?_
  refine not_mentions_append (by decide) (by decide) ?_
  refine not_mentions_append (by decide) hname ?_
  refine not_mentions_append (by decide) (hprepositions w hw) ?_
  exact not_mentions_append (by decide) (by decide) (not_mentions_digits he (by decide))

theorem renameComponent?_nameFirst (h : Writable name) (q : Quoting)
    (hfree : ¬ Mentions ["rename", "change"] name.toList) (hverb : verb ∈ ["rename", "change"])
    (hw : w ∈ ["in", "on", "of"]) (hd : Text.word? d = some n) (he : Text.word? e = some k) :
    Intent.renameComponent? kind (verb.toList ++ ' ' :: (kind.noun.toList ++ ' ' :: (d ++ ' ' ::
      ("to".toList ++ ' ' :: ((q.write name).toList ++ ' ' :: (w.toList ++ ' ' ::
        ("floor".toList ++ ' ' :: e))))))) = some (.renameComponent kind k n (Text.trim name)) := by
  obtain ⟨hdne, hdd⟩ := Text.isDigit_of_word? hd
  obtain ⟨hene, hed⟩ := Text.isDigit_of_word? he
  obtain ⟨start, stop, hholds, hname⟩ := h.leads_name_before q 2 (unquoted_place hw hed)
    fun t ht r => not_reads_place hw hed ht _ r
  have hleads := leads_component (g := []) kind hverb hdne hdd (isDigit_blank _)
    ((h.leads_to_write q _).andThen (hname _ _ (leads_place_atEnd hw 3 hene hed)))
  have hfind : (renameNameFirst kind).find? _ = _ := hleads.find?_eq
  generalize hm : (⟨_, _, _⟩ : Match) = m at hfind
  have hindex : m.number? 1 = some n := (Match.number?_of_lookup (by rw [← hm]; rfl)).trans hd
  have hfloor : m.number? 3 = some k :=
    (Match.number?_of_lookup (t := []) (by rw [← hm, List.append_nil]; rfl)).trans he
  have hgiven : m.name? 2 = some (Text.trim name) := h.name?_of_lookup (by rw [← hm]; rfl) hholds
  have hother := find?_renameFloorFirst_eq_none hverb hdne hdd
    (not_mentions_verb_nameFirst kind q hfree hw hdd hed)
  simp only [Intent.renameComponent?, hother, hfind, hindex, hfloor, hgiven, Option.bind_eq_bind,
    Option.bind_some]
  rfl

/-- **All wordings of the renaming of a component** come to the same. -/
theorem renameComponent?_eq (h : Writable name) (q : Quoting) {index floor : String}
    (hfree : ¬ Mentions ["rename", "change"] name.toList) (hindex : Text.word? index.toList = some n)
    (hfloor : Text.word? floor.toList = some k) :
    ∀ t ∈ componentWordings kind index floor (q.write name),
      Intent.renameComponent? kind t.toList = some (.renameComponent kind k n (Text.trim name)) := by
  intro t ht
  simp only [componentWordings, List.mem_flatMap] at ht
  obtain ⟨verb, hverb, w, hw, ht⟩ := ht
  rcases List.mem_pair.1 ht with rfl | rfl
  · rw [← h.renameComponent?_floorFirst q hverb hw hindex hfloor]
    simp
  · rw [← h.renameComponent?_nameFirst q hfree hverb hw hindex hfloor]
    simp

/-! ## Floors -/

/-- The first pattern that is found gives the floor and its name. -/
theorem renameFloor?_of_leads (h : Writable name) (before : List Pattern) {after : List Pattern}
    {p : Pattern} {start stop t : List Char} (hall : renameFloor = before ++ p :: after)
    (hbefore : ∀ p ∈ before, p.find? s = none)
    (hp : p.Leads ⟨s, []⟩ ⟨[], [(2, start, stop), (1, d ++ t, t)]⟩) (hholds : Holds name start stop)
    (hd : Text.word? d = some n) : Intent.renameFloor? s = some (.renameFloor n (Text.trim name)) := by
  have hfind := hp.find?_eq
  generalize hm : (⟨_, _, _⟩ : Match) = m at hfind
  have hfloor : m.number? 1 = some n := (Match.number?_of_lookup (by rw [← hm]; rfl)).trans hd
  have hgiven : m.name? 2 = some (Text.trim name) := h.name?_of_lookup (by rw [← hm]; rfl) hholds
  rw [Intent.renameFloor?, hall]
  refine List.findSome?_eq_some_iff.2 ⟨before, p, after, rfl, ?_, fun q hq => ?_⟩
  · rw [hfind, Option.bind_eq_bind, Option.bind_some, hfloor, hgiven]
    rfl
  · rw [hbefore q hq]
    rfl

/-- The word "floor" is read with the white space between a verb and a number. -/
theorem leads_floor_between (hne : d ≠ []) (hd : ∀ x ∈ d, Text.isDigit x = true) (s : List Char) :
    (between ["floor"]).Leads ⟨' ' :: ("floor".toList ++ ' ' :: (d ++ s)), g⟩ ⟨d ++ s, g⟩ := by
  have hfloor := leads_between (g := g) (by decide) (List.mem_singleton_self "floor") (d ++ s)
  have hhead := Text.isBlank_head_append hne (Text.isBlank_head_of_digits hd) s
  rwa [Text.trimLeft_of_head hhead] at hfloor

theorem renameFloor?_to (h : Writable name) (q : Quoting) (hverb : verb ∈ ["rename", "change"])
    (hd : Text.word? d = some n) : Intent.renameFloor? (verb.toList ++ ' ' :: ("floor".toList ++ ' ' ::
      (d ++ ' ' :: ("to".toList ++ ' ' :: (q.write name).toList))))
        = some (.renameFloor n (Text.trim name)) := by
  obtain ⟨hne, hdigits⟩ := Text.isDigit_of_word? hd
  obtain ⟨start, stop, hholds, hname⟩ := h.leads_name q 2
  have hleads := (leads_anyWord (g := []) apart_renameVerbs hverb _).andThen
    ((leads_floor_between hne hdigits _).andThen ((leads_count 1 hne hdigits (isDigit_blank _)).andThen
      ((leads_to _).andThen ((hname _).andThen (leads_nothing _)))))
  exact h.renameFloor?_of_leads [] rfl (by simp) hleads hholds hd

/-- Where no verb stands in front of the word "floor", and the word is not mentioned again, no verb is
    followed by a floor. -/
theorem find?_renameFloorTo_eq_none {u : String} (hu : u ∈ ["floor ", "call floor "])
    (hs : ¬ Mentions ["floor"] s) : (Pattern.sequence [renameVerb, between ["floor"], count 1,
      between ["to"], quotableName 2]).find? (u.toList ++ s) = none := by
  have hbegin : ∀ u ∈ ["floor ", "call floor "], ∀ v ∈ u.toList.tails, v ≠ [] →
      (Pattern.sequence [renameVerb, between ["floor"], count 1, between ["to"],
        quotableName 2]).leftovers v = [] := by decide
  have hfloor : between ["floor"] ∈ [renameVerb, between ["floor"], count 1, between ["to"],
      quotableName 2] := List.mem_cons_of_mem _ List.mem_cons_self
  exact find?_append_eq_none (hbegin u hu)
    (find?_eq_none_of_part hfloor (find?_between_eq_none (by simp) (by decide) hs))

theorem not_mentions_floor (q : Quoting) (hfree : ¬ Mentions ["floor"] name.toList)
    (hd : ∀ x ∈ d, Text.isDigit x = true) (hw : w ∈ ["", ":", " ="]) :
    ¬ Mentions ["floor"] (d ++ (w.toList ++ ' ' :: (q.write name).toList)) := by
  have hsigns : ∀ w ∈ ["", ":", " ="], ∀ x ∈ w.toList, Text.smallForm x = [x] ∧ x ≠ 'f' := by decide
  have hfront : ¬ Mentions ["floor"] (d ++ w.toList) := by
    refine Text.not_mentions_of_letters (f := (· ≠ 'f')) (List.forall_mem_append.2 ⟨?_, hsigns w hw⟩)
      (by decide)
    intro x hx
    exact ⟨Text.smallForm_of_isDigit (hd x hx), Text.ne_of_isDigit (by decide) (hd x hx)⟩
  have hname : ¬ Mentions ["floor"] (q.write name).toList :=
    fun h => hfree (Quoting.mentions_write (by decide) h)
  rw [← List.append_assoc]
  exact not_mentions_append (by decide) hfront hname

theorem renameFloor?_sign (h : Writable name) (q : Quoting) (hfree : ¬ Mentions ["floor"] name.toList)
    (hw : w ∈ [":", " ="]) (hd : Text.word? d = some n) :
    Intent.renameFloor? ("floor ".toList ++ (d ++ (w.toList ++ ' ' :: (q.write name).toList)))
      = some (.renameFloor n (Text.trim name)) := by
  obtain ⟨hne, hdigits⟩ := Text.isDigit_of_word? hd
  obtain ⟨start, stop, hholds, hname⟩ := h.leads_name q 2
  have hsigns : ∀ w ∈ [":", " ="], w ∈ ["", ":", " ="] ∧ w.toList ≠ [] ∧
      ∀ x ∈ w.toList.head?, Text.isDigit x = false := by decide
  obtain ⟨hsign, hnil, hhead⟩ := hsigns w hw
  have hrest : ∀ x ∈ (w.toList ++ ' ' :: (q.write name).toList).head?, Text.isDigit x = false := by
    rwa [List.head?_append_of_ne_nil _ hnil]
  have hleads := (leads_word (w := "floor") (g := []) rfl _).andThen
    ((leads_gap_before hne (Text.isBlank_head_of_digits hdigits) _).andThen
      ((leads_count 1 hne hdigits hrest).andThen
        ((leads_assignment hw _).andThen ((hname _).andThen (leads_nothing _)))))
  refine h.renameFloor?_of_leads [_] rfl (List.forall_mem_singleton.2 ?_) hleads hholds hd
  exact find?_renameFloorTo_eq_none (by decide) (not_mentions_floor q hfree hdigits hsign)

/-- Behind the number of the floor stands the name and no sign. -/
theorem not_reads_floorSign (q : Quoting) (hd : ∀ x ∈ d, Text.isDigit x = true)
    (hhead : ∀ x ∈ (Text.trim name).toList.head?, x ≠ ':' ∧ x ≠ '=') {p : Pattern} (r : List Char) :
    ¬ (andThen (count i) (andThen assignment p)).Reads (d ++ ' ' :: (q.write name).toList) r := by
  rintro ⟨_, hcount, _, hsign, -⟩
  obtain ⟨v, hv, rfl⟩ := exists_of_reads_count (isDigit_blank _) hcount
  refine not_reads_assignment (fun x hx => ?_) _ hsign
  cases v with
  | cons y v =>
    have hy := hd y (hv.subset List.mem_cons_self)
    rw [List.cons_append, Text.trimLeft_cons _ (Text.isBlank_of_isDigit hy)] at hx
    cases hx
    exact ⟨Text.ne_of_isDigit (by decide) hy, Text.ne_of_isDigit (by decide) hy⟩
  | nil =>
    have hblank : Text.trimLeft (' ' :: (q.write name).toList) = Text.trimLeft (q.write name).toList :=
      rfl
    rw [List.nil_append, hblank] at hx
    rcases q.toList_write name with heq | ⟨c, hc, heq⟩
    · rw [heq, ← Text.head?_trimChars] at hx
      exact hhead x (by simpa [Text.trim] using hx)
    · rw [heq, Text.trimLeft_cons _ (Quoting.isBlank_quote hc)] at hx
      cases hx
      have hquotes : ∀ c ∈ ['"', '\''], c ≠ ':' ∧ c ≠ '=' := by decide
      exact hquotes x hc

theorem find?_floorSign_eq_none (q : Quoting) (hfree : ¬ Mentions ["floor"] name.toList)
    (hhead : ∀ x ∈ (Text.trim name).toList.head?, x ≠ ':' ∧ x ≠ '=') (hne : d ≠ [])
    (hd : ∀ x ∈ d, Text.isDigit x = true) :
    (Pattern.sequence [word "floor", gap, count 1, assignment, quotableName 2]).find?
      ("call floor ".toList ++ (d ++ ' ' :: (q.write name).toList)) = none := by
  have hnone : ¬ Mentions ["floor"] (d ++ ' ' :: (q.write name).toList) :=
    not_mentions_floor (w := "") q hfree hd (by decide)
  have hbegin : ∀ u ∈ ["call ", "loor "], ∀ v ∈ u.toList.tails, v ≠ [] → (Pattern.sequence
      [word "floor", gap, count 1, assignment, quotableName 2]).leftovers v = [] := by decide
  have hbehind := find?_append_eq_none (hbegin "loor " (by decide))
    (find?_eq_none_of_part List.mem_cons_self (find?_word_eq_none (by decide) hnone))
  have htext : "call floor ".toList ++ (d ++ ' ' :: (q.write name).toList)
      = "call ".toList ++ 'f' :: ("loor ".toList ++ (d ++ ' ' :: (q.write name).toList)) := rfl
  rw [htext]
  refine find?_append_eq_none (hbegin "call " (by decide)) ((find?_of_not_reads ?_).trans hbehind)
  -- Only where the word "floor" stands it is read, and no sign is behind the number.
  rintro r ⟨_, hword, _, hgap, hsign⟩
  have hfloor : (word "floor").Reads
      ("floor".toList ++ ' ' :: (d ++ ' ' :: (q.write name).toList)) _ := hword
  cases eq_of_reads_word hfloor
  cases eq_of_reads_gap (Text.isBlank_head_append hne (Text.isBlank_head_of_digits hd) _) hgap
  exact not_reads_floorSign q hd hhead r hsign

theorem renameFloor?_call (h : Writable name) (q : Quoting) (hfree : ¬ Mentions ["floor"] name.toList)
    (hhead : ∀ x ∈ (Text.trim name).toList.head?, x ≠ ':' ∧ x ≠ '=') (hd : Text.word? d = some n) :
    Intent.renameFloor? ("call floor ".toList ++ (d ++ ' ' :: (q.write name).toList))
      = some (.renameFloor n (Text.trim name)) := by
  obtain ⟨hne, hdigits⟩ := Text.isDigit_of_word? hd
  obtain ⟨start, stop, hholds, hname⟩ := h.leads_name q 2
  have hleads := (leads_word (w := "call") (g := []) rfl _).andThen
    ((leads_floor_between hne hdigits _).andThen ((leads_count 1 hne hdigits (isDigit_blank _)).andThen
      ((leads_gap rfl _).andThen ((hname _).andThen (leads_nothing _)))))
  have hto := find?_renameFloorTo_eq_none (u := "call floor ") (by decide)
    (not_mentions_floor (w := "") q hfree hdigits (by decide))
  have hsign := find?_floorSign_eq_none q hfree hhead hne hdigits
  exact h.renameFloor?_of_leads [_, _] rfl
    (List.forall_mem_cons.2 ⟨hto, List.forall_mem_singleton.2 hsign⟩) hleads hholds hd

/-- **All wordings of the renaming of a floor** come to the same. -/
theorem renameFloor?_eq (h : Writable name) (q : Quoting) {floor : String}
    (hfree : ¬ Mentions ["floor"] name.toList)
    (hhead : ∀ x ∈ (Text.trim name).toList.head?, x ≠ ':' ∧ x ≠ '=')
    (hfloor : Text.word? floor.toList = some n) : ∀ t ∈ floorWordings floor (q.write name),
      Intent.renameFloor? t.toList = some (.renameFloor n (Text.trim name)) := by
  intro t ht
  simp only [floorWordings, List.mem_cons, List.not_mem_nil, or_false] at ht
  have hrename : "rename" ∈ ["rename", "change"] := by decide
  have hchange : "change" ∈ ["rename", "change"] := by decide
  rcases ht with rfl | rfl | rfl | rfl | rfl
  · rw [← h.renameFloor?_to q hrename hfloor]
    simp
  · rw [← h.renameFloor?_to q hchange hfloor]
    simp
  · rw [← h.renameFloor?_sign (w := ":") q hfree (by decide) hfloor]
    simp
  · rw [← h.renameFloor?_sign (w := " =") q hfree (by decide) hfloor]
    simp
  · rw [← h.renameFloor?_call q hfree hhead hfloor]
    simp

/-! ## The building -/

/-- The first pattern that is found gives the name. -/
theorem renameBuilding?_of_leads (h : Writable name) (before : List Pattern) {after : List Pattern}
    {p : Pattern} {start stop : List Char} (hall : renameBuilding = before ++ p :: after)
    (hbefore : ∀ p ∈ before, p.find? s = none) (hp : p.Leads ⟨s, []⟩ ⟨[], [(1, start, stop)]⟩)
    (hholds : Holds name start stop) :
    Intent.renameBuilding? s = some (.renameBuilding (Text.trim name)) := by
  have hgiven : Match.name? ⟨s, [], [(1, start, stop)]⟩ 1 = some (Text.trim name) :=
    h.name?_of_lookup rfl hholds
  have hfirst : Intent.firstName? renameBuilding s = some (Text.trim name) := by
    rw [hall]
    exact Intent.firstName?_eq_some hbefore hp.find?_eq hgiven
  rw [Intent.renameBuilding?, hfirst]
  rfl

/-- A word that may be missing is read in front of a word that it is not read in. -/
theorem leads_optionalWord {u v : String} (hw : w.toList = [] ∨ w.toList = u.toList ++ [' '])
    (hne : v.toList ≠ []) (hv : ∀ x ∈ v.toList.head?, Text.isBlank x = false)
    (hnot : (Pattern.sequence [word u, gap]).leftovers v.toList = []) (s : List Char) :
    (optionalWord u).Leads ⟨w.toList ++ (v.toList ++ s), g⟩ ⟨v.toList ++ s, g⟩ := by
  rcases hw with hw | hw
  · rw [hw]
    exact leads_optional_of_not (not_reads_of_leftovers hnot s)
  · have htext : w.toList ++ (v.toList ++ s) = u.toList ++ ' ' :: (v.toList ++ s) := by simp [hw]
    rw [htext]
    exact ((leads_word rfl _).andThen
      ((leads_gap_before hne hv s).andThen (leads_nothing _))).optional

/-- The word "building" may stand in front of the word "name". -/
theorem leads_optionalBuilding (hw : w ∈ ["", "building "]) (s : List Char) :
    (optionalWord "building").Leads ⟨w.toList ++ ("name".toList ++ s), g⟩ ⟨"name".toList ++ s, g⟩ := by
  have hall : ∀ w ∈ ["", "building "], w.toList = [] ∨ w.toList = "building".toList ++ [' '] := by decide
  exact leads_optionalWord (hall w hw) (by decide) (by decide) (by decide) s

theorem renameBuilding?_to (h : Writable name) (q : Quoting)
    (hverb : verb ∈ ["change", "rename", "update", "set"]) (hw : w ∈ ["", "building "]) :
    Intent.renameBuilding? (verb.toList ++ ' ' :: (w.toList ++ ("name".toList ++ ' ' ::
      ("to".toList ++ ' ' :: (q.write name).toList)))) = some (.renameBuilding (Text.trim name)) := by
  obtain ⟨start, stop, hholds, hname⟩ := h.leads_name q 1
  have hfront : ∀ w ∈ ["", "building "], ∀ x ∈ (w.toList ++ "name".toList).head?,
      Text.isBlank x = false := by decide
  have hhead := Text.isBlank_head_append (by simp) (hfront w hw)
    (' ' :: ("to".toList ++ ' ' :: (q.write name).toList))
  rw [List.append_assoc] at hhead
  have hleads := (leads_anyWord (g := []) (by decide) hverb _).andThen
    ((leads_gap_of_head (x := ' ') rfl hhead).andThen ((leads_optionalBuilding hw _).andThen
      ((leads_word rfl _).andThen ((leads_to _).andThen ((hname _).andThen (leads_nothing _))))))
  exact h.renameBuilding?_of_leads [] rfl (by simp) hleads hholds

theorem not_mentions_name (q : Quoting) (hfree : ¬ Mentions ["name"] name.toList)
    (hs : ¬ Mentions ["name"] s) : ¬ Mentions ["name"] (s ++ ' ' :: (q.write name).toList) :=
  not_mentions_append (by decide) hs fun hname => hfree (Quoting.mentions_write (by decide) hname)

theorem renameBuilding?_sign (h : Writable name) (q : Quoting) {sign : String}
    (hfree : ¬ Mentions ["name"] name.toList) (hw : w ∈ ["", "building "])
    (hsign : sign ∈ [":", " ="]) :
    Intent.renameBuilding? (w.toList ++ ("name".toList ++ (sign.toList ++ ' ' :: (q.write name).toList)))
      = some (.renameBuilding (Text.trim name)) := by
  obtain ⟨start, stop, hholds, hname⟩ := h.leads_name q 1
  have hleads := (leads_optionalBuilding (g := []) hw _).andThen ((leads_word rfl _).andThen
    ((leads_assignment hsign _).andThen ((hname _).andThen (leads_nothing _))))
  refine h.renameBuilding?_of_leads [_] rfl (List.forall_mem_singleton.2 ?_) hleads hholds
  have hbegin : ∀ w ∈ ["", "building "], ∀ v ∈ (w.toList ++ "name".toList).tails, v ≠ [] →
      (Pattern.sequence [anyWord ["change", "rename", "update", "set"], gap, optionalWord "building",
        word "name", between ["to"], quotableName 1]).leftovers v = [] := by decide
  have hsigns : ∀ w ∈ [":", " ="], ¬ Mentions ["name"] w.toList := by decide
  have hmem : word "name" ∈ [anyWord ["change", "rename", "update", "set"], gap, optionalWord "building",
        word "name", between ["to"], quotableName 1] := by simp
  have hnone := find?_word_eq_none (by decide) (not_mentions_name q hfree (hsigns sign hsign))
  rw [← List.append_assoc]
  exact find?_append_eq_none (hbegin w hw) (find?_eq_none_of_part hmem hnone)

theorem renameBuilding?_call (h : Writable name) (q : Quoting)
    (hfree : ¬ Mentions ["name"] name.toList) (hw : w ∈ ["", "the "]) :
    Intent.renameBuilding? ("call ".toList ++ (w.toList ++ ("building".toList ++ ' ' ::
      (q.write name).toList))) = some (.renameBuilding (Text.trim name)) := by
  obtain ⟨start, stop, hholds, hname⟩ := h.leads_name q 1
  have hall : ∀ w ∈ ["", "the "], (w.toList = [] ∨ w.toList = "the".toList ++ [' ']) ∧
      (∀ x ∈ (w.toList ++ "building".toList).head?, Text.isBlank x = false) ∧
        ¬ Mentions ["name"] ("call ".toList ++ (w.toList ++ "building".toList)) := by decide
  obtain ⟨hthe, hfront, hcall⟩ := hall w hw
  have hhead := Text.isBlank_head_append (by simp) hfront (' ' :: (q.write name).toList)
  rw [List.append_assoc] at hhead
  have hleads := (leads_word (w := "call") (g := []) rfl _).andThen
    ((leads_gap_of_head (x := ' ') rfl hhead).andThen
      ((leads_optionalWord hthe (by decide) (by decide) (by decide) _).andThen ((leads_word rfl _).andThen
        ((leads_gap rfl _).andThen ((hname _).andThen (leads_nothing _))))))
  -- The other patterns have the word "name".
  have hnone := find?_word_eq_none (by decide) (not_mentions_name q hfree hcall)
  rw [List.append_assoc, List.append_assoc] at hnone
  refine h.renameBuilding?_of_leads [_, _] rfl ?_ hleads hholds
  refine List.forall_mem_cons.2 ⟨find?_eq_none_of_part ?_ hnone, List.forall_mem_singleton.2
    (find?_eq_none_of_part ?_ hnone)⟩ <;> simp

/-- **All wordings of the renaming of the building** come to the same. -/
theorem renameBuilding?_eq (h : Writable name) (q : Quoting) (hfree : ¬ Mentions ["name"] name.toList) :
    ∀ t ∈ buildingWordings (q.write name),
      Intent.renameBuilding? t.toList = some (.renameBuilding (Text.trim name)) := by
  have hplain : "" ∈ ["", "building "] := by decide
  have hbuilding : "building " ∈ ["", "building "] := by decide
  intro t ht
  rcases List.mem_append.1 ht with ht | ht
  · obtain ⟨verb, hverb, ht⟩ := List.mem_flatMap.1 ht
    rcases List.mem_pair.1 ht with rfl | rfl
    · rw [← h.renameBuilding?_to q hverb hplain]
      simp
    · rw [← h.renameBuilding?_to q hverb hbuilding]
      simp
  · simp only [List.mem_cons, List.not_mem_nil, or_false] at ht
    have hcolon : ":" ∈ [":", " ="] := by decide
    have hequals : " =" ∈ [":", " ="] := by decide
    rcases ht with rfl | rfl | rfl | rfl | rfl | rfl
    · rw [← h.renameBuilding?_sign q hfree hplain hcolon]
      simp
    · rw [← h.renameBuilding?_sign q hfree hplain hequals]
      simp
    · rw [← h.renameBuilding?_sign q hfree hbuilding hcolon]
      simp
    · rw [← h.renameBuilding?_sign q hfree hbuilding hequals]
      simp
    · rw [← h.renameBuilding?_call (w := "") q hfree (by decide)]
      simp
    · rw [← h.renameBuilding?_call (w := "the ") q hfree (by decide)]
      simp

/-! ## All of them -/

/-- **Every wording of a renaming is the same renaming.** However the name is written, in all wordings a
    component is given it if it has no verb of renaming in it, a floor if it has neither the word "floor"
    in it nor a sign in front, and the building if it has not the word "name" in it. -/
theorem wordings_agree (h : Writable name) (q : Quoting) :
    (Text.containsAny ["rename", "change"] (Text.lowerChars name.toList) = false →
      ∀ kind index floor n k, Text.word? index.toList = some n → Text.word? floor.toList = some k →
        ∀ t ∈ componentWordings kind index floor (q.write name),
          Intent.renameComponent? kind t.toList = some (.renameComponent kind k n (Text.trim name))) ∧
    (Text.containsAny ["floor"] (Text.lowerChars name.toList) = false →
      (∀ x ∈ (Text.trim name).toList.head?, x ≠ ':' ∧ x ≠ '=') →
      ∀ floor n, Text.word? floor.toList = some n → ∀ t ∈ floorWordings floor (q.write name),
        Intent.renameFloor? t.toList = some (.renameFloor n (Text.trim name))) ∧
    (Text.containsAny ["name"] (Text.lowerChars name.toList) = false →
      ∀ t ∈ buildingWordings (q.write name),
        Intent.renameBuilding? t.toList = some (.renameBuilding (Text.trim name))) := by
  refine ⟨fun hfree kind index floor n k hindex hfloor => ?_, fun hfree hhead floor n hfloor => ?_,
    fun hfree => ?_⟩
  · rw [Text.containsAny_lowerChars_eq_false (by decide)] at hfree
    exact h.renameComponent?_eq q hfree hindex hfloor
  · rw [Text.containsAny_lowerChars_eq_false (by decide)] at hfree
    exact h.renameFloor?_eq q hfree hhead hfloor
  · rw [Text.containsAny_lowerChars_eq_false (by decide)] at hfree
    exact h.renameBuilding?_eq q hfree

/-- Names that look like clauses, with white space around them, as they are and in quotes. -/
theorem annex_wordings :
    Intent.renameComponent? .restroom "change restroom 007 to  Annex in floor 3  on floor 02".toList
        = some (.renameComponent .restroom 2 7 "Annex in floor 3") ∧
      Intent.renameFloor? "call floor 7 ' Rename: Annex'".toList
        = some (.renameFloor 7 "Rename: Annex") ∧
      Intent.renameBuilding? "set building name to \"Floor = Annex \"".toList
        = some (.renameBuilding "Floor = Annex") := by
  have hspaced : Text.trim " Annex in floor 3 " = "Annex in floor 3" := by decide
  have hfront : Text.trim " Rename: Annex" = "Rename: Annex" := by decide
  have hbehind : Text.trim "Floor = Annex " = "Floor = Annex" := by decide
  rw [← hspaced, ← hfront, ← hbehind]
  refine ⟨?_, ?_, ?_⟩
  · exact (wordings_agree ⟨by decide, by decide⟩ .bare).1 (by decide) .restroom "007" "02" 7 2
      (by decide) (by decide) _ (by decide +kernel)
  · exact (wordings_agree ⟨by decide, by decide⟩ .single).2.1 (by decide) (by decide) "7" 7 (by decide) _
      (by decide +kernel)
  · exact (wordings_agree ⟨by decide, by decide⟩ .double).2.2 (by decide) _ (by decide +kernel)

end Writable

end Floorplan
