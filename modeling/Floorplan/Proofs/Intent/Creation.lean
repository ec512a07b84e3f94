import Floorplan.Proofs.Intent.Switch
import Floorplan.Proofs.Pattern.Count
import Floorplan.Proofs.Pattern.Mentions
import Floorplan.Proofs.Reply.Truthful

set_option autoImplicit false

/-! # Creating a building with quantities

"create Tower with 4 floors, 2 restrooms and 1 lift" names a building and counts what it has. The name is
what stands between the verb and the first "with" (`Creation.Typed.creationName?_eq`), and each quantity is
the number in front of the first of its units, so the quantities can come in any order
(`Creation.Typed.quantity?_eq`). Carrying out what is asked for appends a building of this shape and makes
it active (`Creation.createBuilding?_shape`). -/

namespace Floorplan

open Pattern
open Text (Mentions)

/-! ## Quantities -/

/-- What is counted in a building that is created. -/
inductive Measure where
  | floors
  | restrooms
  | corridors
  | lifts
  deriving DecidableEq, Repr

namespace Measure

/-- The measures. -/
def all : List Measure := [floors, restrooms, corridors, lifts]

theorem mem_all (m : Measure) : m ∈ all := by cases m <;> decide

/-- The words that the measure can be counted in. -/
def units : Measure → List String
  | floors => ["floor", "floors", "stories", "levels"]
  | restrooms => ["restroom", "restrooms", "bathroom", "bathrooms", "toilet", "toilets"]
  | corridors => ["corridor", "corridors", "hallway", "hallways"]
  | lifts => ["lift", "lifts", "elevator", "elevators"]

/-- How the pattern for the measure writes its units. -/
def forms : Measure → List Pattern
  | floors => [Phrase.singularOrPlural "floor", word "stories", word "levels"]
  | restrooms => ["restroom", "bathroom", "toilet"].map Phrase.singularOrPlural
  | corridors => ["corridor", "hallway"].map Phrase.singularOrPlural
  | lifts => ["lift", "elevator"].map Phrase.singularOrPlural

/-- What the pattern for the measure has behind the number. -/
def behind (m : Measure) : Pattern := sequence [space, choice m.forms]

/-- The pattern for the measure. -/
def pattern : Measure → Pattern
  | floors => Phrase.floorQuantity
  | restrooms => Phrase.restroomQuantity
  | corridors => Phrase.corridorQuantity
  | lifts => Phrase.liftQuantity

theorem pattern_eq (m : Measure) : m.pattern = andThen (count 1) m.behind := by
  cases m <;> rfl

theorem reads_behind {m : Measure} {w : String} (hw : w ∈ m.units) (s : List Char) :
    ∃ r, m.behind.Reads (' ' :: (w.toList ++ s)) r := by
  have hall : ∀ m ∈ all, m.behind.isOpen = true ∧
      ∀ w ∈ m.units, m.behind.startsText (' ' :: w.toList) = true := by decide +kernel
  obtain ⟨hopen, hstarts⟩ := hall m m.mem_all
  obtain ⟨r, hread⟩ := startsText_iff.1 (hstarts w hw)
  exact ⟨_, hread.append hopen s⟩

theorem not_reads_behind {m k : Measure} (hmk : m ≠ k) {w : String} (hw : w ∈ k.units)
    (s r : List Char) : ¬ m.behind.Reads (' ' :: (w.toList ++ s)) r := by
  have hall : ∀ m ∈ all, ∀ k ∈ all, m ≠ k → ∀ w ∈ k.units,
      m.behind.leftovers (' ' :: w.toList) = [] := by decide +kernel
  exact not_reads_of_leftovers (hall m m.mem_all k k.mem_all hmk w hw) s r

/-- The words that the units begin with. -/
def stems : Measure → List String
  | floors => ["floor", "stories", "levels"]
  | restrooms => ["restroom", "bathroom", "toilet"]
  | corridors => ["corridor", "hallway"]
  | lifts => ["lift", "elevator"]

theorem exists_stem {m : Measure} {p : Pattern} (hp : p ∈ m.forms) {s r : List Char}
    (h : p.Reads s r) : ∃ w ∈ m.stems, ∃ t, (word w).Reads s t := by
  have hplural : ∀ {w : String}, (Phrase.singularOrPlural w).Reads s r → ∃ t, (word w).Reads s t :=
    fun ⟨t, hread, _⟩ => ⟨t, hread⟩
  cases m <;> simp only [forms, List.map, List.mem_cons, List.not_mem_nil, or_false] at hp
  · rcases hp with rfl | rfl | rfl
    · exact ⟨"floor", by decide, hplural h⟩
    · exact ⟨"stories", by decide, r, h⟩
    · exact ⟨"levels", by decide, r, h⟩
  · rcases hp with rfl | rfl | rfl <;> exact ⟨_, by simp [stems], hplural h⟩
  · rcases hp with rfl | rfl <;> exact ⟨_, by simp [stems], hplural h⟩
  · rcases hp with rfl | rfl <;> exact ⟨_, by simp [stems], hplural h⟩

theorem not_reads_behind_digit (m : Measure) {x : Char} (hx : Text.isDigit x = true)
    (s r : List Char) : ¬ m.behind.Reads (x :: s) r := by
  rintro ⟨t, hspace, t', hchoice, -⟩
  rcases CharClass.runs_cons.1 hspace with rfl | ⟨hblank, -⟩
  · have hne : m.forms ≠ [] := by cases m <;> simp [forms]
    obtain ⟨p, hp, hread⟩ := (reads_choice hne).1 hchoice
    obtain ⟨w, hw, z, hword⟩ := exists_stem hp hread
    have hletters : ∀ m ∈ all, ∀ w ∈ m.stems, (w.toList.map foldLetter).head? ≠ none ∧
        ∀ y ∈ (w.toList.map foldLetter).head?, Text.isDigit y = false := by decide
    obtain ⟨hsome, hletter⟩ := hletters m m.mem_all w hw
    refine not_reads_words (List.cons_ne_nil w []) (fun w' hw' => ?_) hword
    rw [List.mem_singleton.1 hw', Text.foldLetter_of_isDigit hx]
    simp only [List.mem_cons, List.not_mem_nil, or_false, not_or]
    refine ⟨hsome, fun hhead => ?_⟩
    rw [hletter x hhead] at hx
    cases hx
  · have hblank : Text.isBlank x = true := hblank
    rw [Text.isBlank_of_isDigit hx] at hblank
    cases hblank

theorem isGroupless_behind (m : Measure) : m.behind.isGroupless = true := by
  cases m <;> decide

end Measure

/-- A quantity of a measure as it is typed. -/
structure Amount where
  measure : Measure
  number : String
  unit : String

namespace Amount

/-- The number is in ASCII digits and fits a word, and the unit is one of the measure. -/
structure Typed (a : Amount) : Prop where
  number : (Text.word? a.number.toList).isSome = true
  unit : a.unit ∈ a.measure.units

/-- The quantities with what stands in front of each of them. -/
def listed : List (String × Amount) → String
  | [] => ""
  | (joiner, a) :: rest => joiner ++ a.number ++ " " ++ a.unit ++ listed rest

variable {as : List (String × Amount)}

theorem toList_listed (joiner : String) (a : Amount) (as : List (String × Amount)) :
    (listed ((joiner, a) :: as)).toList
      = joiner.toList ++ (a.number.toList ++ ' ' :: (a.unit.toList ++ (listed as).toList)) := by
  simp [listed]

/-- **Which quantity is read for a measure**: the first one of it in the list. -/
theorem quantity?_listed (m : Measure) (hjoiners : ∀ a ∈ as, ∀ x ∈ a.1.toList, Text.isDigit x = false)
    (has : ∀ a ∈ as, a.2.Typed) {u : List Char} (hu : ∀ x ∈ u, Text.isDigit x = false) :
    Intent.quantity? m.pattern (u ++ (listed as).toList)
      = (as.find? fun a => a.2.measure = m).bind fun a => Text.word? a.2.number.toList := by
  rw [Intent.quantity?, m.pattern_eq]
  induction as generalizing u with
  | nil =>
    have hnone : (andThen (count 1) m.behind).find? [] = none := by
      refine find?_eq_none_iff.2 ?_
      rintro t ht r ⟨z, hcount, -⟩
      obtain ⟨x, v, -, heq⟩ := reads_count.1 hcount
      rw [List.suffix_nil.1 ht] at heq
      cases heq
    rw [listed, String.toList_empty, find?_count_skip hu, hnone]
    rfl
  | cons a as ih =>
    obtain ⟨joiner, a⟩ := a
    obtain ⟨hjoiner, hjoiners⟩ := List.forall_mem_cons.1 hjoiners
    obtain ⟨ha, has⟩ := List.forall_mem_cons.1 has
    obtain ⟨n, hn⟩ := Option.isSome_iff_exists.1 ha.number
    obtain ⟨hne, hascii⟩ := Text.isDigitChar_of_word? hn
    have hdigits : ∀ x ∈ a.number.toList, Text.isDigit x = true := fun x hx =>
      Text.isDigit_of_isDigitChar (hascii x hx)
    have hblank : ∀ s, ∀ x ∈ (' ' :: s : List Char).head?, Text.isDigit x = false :=
      fun s x hx => Option.some.inj hx ▸ by decide
    have hunit : ∀ x ∈ ' ' :: a.unit.toList, Text.isDigit x = false := by
      have hall : ∀ m ∈ Measure.all, ∀ w ∈ m.units, ∀ x ∈ ' ' :: w.toList,
          Text.isDigit x = false := by decide
      exact hall _ a.measure.mem_all _ ha.unit
    have hskip : ∀ x ∈ u ++ joiner.toList, Text.isDigit x = false := fun x hx =>
      (List.mem_append.1 hx).elim (hu x) (hjoiner x)
    rw [toList_listed, ← List.append_assoc, find?_count_skip hskip]
    by_cases hm : a.measure = m
    · subst hm
      obtain ⟨k, hfind, hgroup⟩ := find?_count_hit (i := 1) hne hdigits (hblank _)
        a.measure.isGroupless_behind (Measure.reads_behind ha.unit (listed as).toList)
      rw [hfind, Option.bind_some, Match.number?, hgroup]
      simp
    · rw [find?_count_pass hdigits (hblank _) (Measure.not_reads_behind (Ne.symm hm) ha.unit _)
        fun x t r hx => m.not_reads_behind_digit hx t r]
      have htail := ih hjoiners has hunit
      rw [List.find?_cons_of_neg (by simpa using hm)]
      exact htail

/-- The words that end a name, or make a name unnecessary. -/
def keywords : List String := ["with", "default"]

theorem not_mentions_cut {s t : List Char} {x : Char} (hx : x ∈ [' ', ','])
    (hs : ¬ Mentions keywords s) (ht : ¬ Mentions keywords t) : ¬ Mentions keywords (s ++ x :: t) := by
  have hsmall : ∀ x ∈ [' ', ','], Text.smallForm x = [x] ∧ ∀ w ∈ keywords, x ∉ w.toList := by decide
  obtain ⟨hform, hfree⟩ := hsmall x hx
  rw [Text.mentions_append_cons_iff hform hfree]
  exact not_or.2 ⟨hs, ht⟩

theorem Typed.not_mentions_number {a : Amount} (h : a.Typed) :
    ¬ Mentions keywords a.number.toList := by
  obtain ⟨n, hn⟩ := Option.isSome_iff_exists.1 h.number
  have hdigit := fun x hx => Text.isDigit_of_isDigitChar ((Text.isDigitChar_of_word? hn).2 x hx)
  exact Text.not_mentions_of_letters (f := fun x => Text.isDigit x = true)
    (fun x hx => ⟨Text.smallForm_of_isDigit (hdigit x hx), hdigit x hx⟩) (by decide)

theorem Typed.not_mentions_unit {a : Amount} (h : a.Typed) : ¬ Mentions keywords a.unit.toList := by
  have hall : ∀ m ∈ Measure.all, ∀ w ∈ m.units, ¬ Mentions keywords w.toList := by decide
  exact hall _ a.measure.mem_all _ h.unit

/-- None of these words is mentioned in a list of quantities. -/
theorem not_mentions_listed (hjoiners : ∀ a ∈ as, a.1 ∈ [", ", " and "]) (has : ∀ a ∈ as, a.2.Typed)
    {u : List Char} (hu : ¬ Mentions keywords u) : ¬ Mentions keywords (u ++ (listed as).toList) := by
  induction as generalizing u with
  | nil => rwa [listed, String.toList_empty, List.append_nil]
  | cons a as ih =>
    obtain ⟨joiner, a⟩ := a
    obtain ⟨hjoiner, hjoiners⟩ := List.forall_mem_cons.1 hjoiners
    obtain ⟨ha, has⟩ := List.forall_mem_cons.1 has
    have hrest := not_mentions_cut (x := ' ') (by decide) ha.not_mentions_number
      (ih hjoiners has ha.not_mentions_unit)
    simp only [List.mem_cons, List.not_mem_nil, or_false] at hjoiner
    rcases hjoiner with rfl | rfl
    · have hbehind := not_mentions_cut (x := ',') (by decide) hu
        (not_mentions_cut (s := []) (x := ' ') (by decide) (by decide) hrest)
      simpa [toList_listed] using hbehind
    · have hbehind := not_mentions_cut (x := ' ') (by decide) hu
        (not_mentions_cut (s := "and".toList) (x := ' ') (by decide) (by decide) hrest)
      simpa [toList_listed] using hbehind

end Amount

/-! ## The request -/

/-- A request to create a building with some quantities. -/
structure Creation where
  verb : String
  name : String
  first : Amount
  others : List (String × Amount)

namespace Creation

/-- All quantities, in the order in which they are listed. -/
def amounts (r : Creation) : List Amount := r.first :: r.others.map (·.2)

/-- The request as a text. -/
def text (r : Creation) : String :=
  r.verb ++ " " ++ r.name ++ Amount.listed ((" with ", r.first) :: r.others)

/-- The number that is listed for a measure. -/
def count? (r : Creation) (m : Measure) : Option Nat :=
  (r.amounts.find? fun a => a.measure = m).bind fun a => Text.word? a.number.toList

/-- What is asked for: the listed quantities, and the usual ones where none is listed. -/
def spec (r : Creation) : BuildingSpec :=
  { name := some (Text.trim r.name)
    floors := (r.count? .floors).getD 0
    restrooms := (r.count? .restrooms).getD 2
    corridors := (r.count? .corridors).getD 1
    lifts := (r.count? .lifts).getD 2 }

/-- The name has something in it, but no quote, no digit and none of the words that end it; floors are
    listed, and restrooms or corridors. -/
structure Complete (r : Creation) : Prop where
  verb : r.verb ∈ ["create", "build"]
  name_not_blank : Text.allBlank r.name = false
  name_unquoted : ∀ x ∈ r.name.toList, Phrase.Unquoted x
  name_no_digit : ∀ x ∈ r.name.toList, Text.isDigit x = false
  name_no_keyword : Text.containsAny ["with", "default"] (Text.lowerChars r.name.toList) = false
  amounts : ∀ a ∈ r.amounts, a.Typed
  joiners : ∀ a ∈ r.others, a.1 ∈ [", ", " and "]
  floors : ∃ a ∈ r.amounts, a.measure = .floors
  more : ∃ a ∈ r.amounts, a.measure = .restrooms ∨ a.measure = .corridors

/-- The request is complete, and the name does not begin with the word "building" in any case. -/
structure Typed (r : Creation) : Prop extends r.Complete where
  name_no_building : Intent.startsWithBuilding (Text.trimLeft r.name.toList) = false

variable {r : Creation}

/-! ## The quantities that are read -/

theorem Typed.quantity?_eq (h : r.Typed) (m : Measure) :
    Intent.quantity? m.pattern r.text.toList = r.count? m := by
  have hjoiners : ∀ a ∈ (" with ", r.first) :: r.others, ∀ x ∈ a.1.toList, Text.isDigit x = false := by
    have hall : ∀ j ∈ [" with ", ", ", " and "], ∀ x ∈ j.toList, Text.isDigit x = false := by decide
    refine List.forall_mem_cons.2 ⟨hall _ List.mem_cons_self, fun a ha => hall _ ?_⟩
    exact List.mem_cons_of_mem _ (h.joiners a ha)
  have hamounts : ∀ a ∈ (" with ", r.first) :: r.others, a.2.Typed := by
    refine List.forall_mem_cons.2 ⟨h.amounts _ List.mem_cons_self, fun a ha => h.amounts _ ?_⟩
    exact List.mem_cons_of_mem _ (List.mem_map_of_mem ha)
  have hfront : ∀ x ∈ r.verb.toList ++ ' ' :: r.name.toList, Text.isDigit x = false := by
    have hverb : ∀ w ∈ ["create", "build"], ∀ x ∈ w.toList, Text.isDigit x = false := by decide
    intro x hx
    rcases List.mem_append.1 hx with hx | hx
    · exact hverb _ h.verb x hx
    · rcases List.mem_cons.1 hx with rfl | hx
      · rfl
      · exact h.name_no_digit x hx
  have htext : r.text.toList = (r.verb.toList ++ ' ' :: r.name.toList) ++
      (Amount.listed ((" with ", r.first) :: r.others)).toList := by
    simp [text]
  have hfirst : r.amounts = ((" with ", r.first) :: r.others).map (·.2) := rfl
  rw [htext, Amount.quantity?_listed m hjoiners hamounts hfront, count?, hfirst, List.find?_map,
    Option.bind_map]
  rfl

/-! ## The name that is read -/

/-- What the request has behind the word "with". -/
def quantities (r : Creation) : List Char :=
  ' ' :: (r.first.number.toList ++ ' ' :: (r.first.unit.toList ++ (Amount.listed r.others).toList))

theorem toList_text (r : Creation) : r.text.toList
    = r.verb.toList ++ ' ' :: (r.name.toList ++ ' ' :: ("with".toList ++ r.quantities)) := by
  simp [text, quantities, Amount.toList_listed]

theorem Typed.not_mentions_quantities (h : r.Typed) : ¬ Mentions Amount.keywords r.quantities := by
  have hfirst := h.amounts r.first List.mem_cons_self
  have hothers : ∀ a ∈ r.others, a.2.Typed := fun a ha =>
    h.amounts _ (List.mem_cons_of_mem _ (List.mem_map_of_mem ha))
  exact Amount.not_mentions_cut (s := []) (by decide) (by decide)
    (Amount.not_mentions_cut (by decide) hfirst.not_mentions_number
      (Amount.not_mentions_listed h.joiners hothers hfirst.not_mentions_unit))

theorem Typed.not_mentions_name (h : r.Typed) : ¬ Mentions Amount.keywords r.name.toList :=
  (Text.containsAny_lowerChars_eq_false (by decide)).1 h.name_no_keyword

theorem find?_with {s : List Char} (hs : ¬ Mentions Amount.keywords s) :
    (word "with").find? s = none :=
  find?_word_eq_none (by decide) fun h => hs (h.of_subset (by decide))

/-- What ends a name. -/
def nameEnd : Pattern := sequence [gap, word "with"]

theorem Typed.not_reads_nameEnd (h : r.Typed) {t z : List Char}
    (ht : t <:+ "with".toList ++ r.quantities) : ¬ nameEnd.Reads t z := by
  have hquantities : nameEnd.find? r.quantities = none :=
    find?_eq_none_of_part (List.mem_cons_of_mem _ List.mem_cons_self)
      (find?_with h.not_mentions_quantities)
  exact find?_eq_none_iff.1 (find?_append_eq_none (by decide) hquantities) t ht z

/-- The name does not end before its last character that is not white space. -/
theorem Typed.not_reads_nameEnd_within (h : r.Typed) {w b : List Char}
    (hw : w ++ b <:+: r.name.toList) (hlast : ∃ x ∈ w, Text.isBlank x = false) (z : List Char) :
    ¬ nameEnd.Reads (w ++ (b ++ ' ' :: ("with".toList ++ r.quantities))) z := by
  rintro ⟨t, hgap, z', hwith, -⟩
  obtain ⟨x, u, hblank, heq⟩ := reads_gap.1 hgap
  have ht : t <:+ (w ++ b) ++ ' ' :: ("with".toList ++ r.quantities) := by
    rw [List.append_assoc, heq]
    exact List.suffix_append (x :: u) t
  rcases suffix_or_mentions (by decide) (by decide) (by decide) ht hwith with hin | hmention
  · -- All of the name would be white space.
    have hlength : w.length ≤ (x :: u).length := by
      have htotal := congrArg List.length heq
      have hle := hin.length_le
      simp only [List.length_append, List.length_cons] at htotal hle ⊢
      omega
    have hstarts : w <+: x :: u :=
      List.prefix_of_prefix_length_le (List.prefix_append w _) (heq ▸ List.prefix_append _ t) hlength
    obtain ⟨y, hy, hnot⟩ := hlast
    rw [hblank y (hstarts.subset hy)] at hnot
    cases hnot
  · exact h.not_mentions_name ((hmention.mono hw).of_subset (by decide))

/-- The word "building" in front of a name is not taken for a word of the request, unless it is the name
    and the phrase cannot go on behind it. -/
theorem Typed.not_reads_building (h : r.Typed) {t z : List Char}
    (hread : (sequence [word "building", gap]).Reads (Text.trimLeft r.name.toList ++
      ' ' :: ("with".toList ++ r.quantities)) t) : ¬ Phrase.nameBeforeWith.Reads t z := by
  obtain ⟨t₁, hword, t₂, hgap, rfl⟩ := hread
  obtain ⟨u, hu, heq⟩ := reads_word.1 hword
  have hfree : ' ' ∉ u := by
    intro hmem
    have hblank : ' ' ∈ u.map foldLetter := List.mem_map.2 ⟨' ', hmem, by decide⟩
    rw [hu] at hblank
    exact absurd hblank (by decide)
  obtain ⟨l, hl⟩ := Text.prefix_of_prefix_append_cons hfree (heq ▸ List.prefix_append u t₁)
  have ht₁ : t₁ = l ++ ' ' :: ("with".toList ++ r.quantities) := by
    rw [← hl, List.append_assoc] at heq
    exact (List.append_cancel_left heq).symm
  cases l with
  | nil =>
    rw [ht₁] at hgap
    cases eq_of_reads_gap (by rintro y ⟨⟩; rfl) hgap
    rintro ⟨t', hname, hend⟩
    exact h.not_reads_nameEnd hname.suffix hend
  | cons y l =>
    -- The name would begin with the word and white space.
    obtain ⟨x, v, hblank, hv⟩ := reads_gap.1 hgap
    rw [ht₁] at hv
    obtain ⟨rfl, -⟩ := List.cons.inj hv
    have hgap' : gap.Reads (y :: l) l :=
      reads_gap.2 ⟨y, [], by simpa using hblank y List.mem_cons_self, rfl⟩
    have hstarts : Intent.startsWithBuilding (Text.trimLeft r.name.toList) = true :=
      startsText_iff.2 ⟨l, y :: l, reads_word.2 ⟨u, hu, hl.symm⟩, l, hgap', rfl⟩
    rw [h.name_no_building] at hstarts
    cases hstarts

/-- The name is read without the white space around it. -/
theorem Typed.leads_name (h : r.Typed) : ∃ v, (andThen Phrase.nameBeforeWith nothing).Leads
    ⟨Text.trimLeft r.name.toList ++ ' ' :: ("with".toList ++ r.quantities), []⟩
    ⟨r.quantities, [(1, Text.trimChars r.name.toList ++ v, v)]⟩ := by
  obtain ⟨b, hb, hname⟩ := Text.exists_blank_trimRight (Text.trimLeft r.name.toList)
  have hsplit : Text.trimLeft r.name.toList = Text.trimChars r.name.toList ++ b := hname
  have hpiece : Text.trimChars r.name.toList ++ b <:+ r.name.toList :=
    hsplit ▸ Text.trimLeft_suffix _
  have hunquoted : ∀ x ∈ Text.trimChars r.name.toList, Phrase.Unquoted x := fun x hx =>
    h.name_unquoted x (hpiece.subset (List.mem_append_left b hx))
  have hgap : ∀ g, gap.Leads ⟨b ++ ' ' :: ("with".toList ++ r.quantities), g⟩
      ⟨"with".toList ++ r.quantities, g⟩ := by
    intro g
    have hblank : ∀ x ∈ b ++ [' '], CharClass.blank.contains x = true := fun x hx =>
      (List.mem_append.1 hx).elim (hb x) fun hx => List.mem_singleton.1 hx ▸ rfl
    have hleads := leads_oneOrMore (g := g) (r := "with".toList ++ r.quantities) (by simp) hblank
      (by rintro y ⟨⟩; rfl)
    rwa [List.append_assoc] at hleads
  have hend : ∀ g, nameEnd.Leads ⟨b ++ ' ' :: ("with".toList ++ r.quantities), g⟩
      ⟨r.quantities, g⟩ := fun g =>
    (hgap g).andThen ((leads_word rfl _).andThen (leads_nothing _))
  have hhead : ∀ x ∈ (b ++ ' ' :: ("with".toList ++ r.quantities)).head?, Phrase.Unquoted x := by
    intro x hx
    have hblank : ∀ x, Text.isBlank x = true → Phrase.Unquoted x := by
      refine fun x hx => ⟨?_, ?_⟩ <;>
        · rintro rfl
          exact absurd hx (by decide)
    cases b with
    | nil => exact Option.some.inj hx ▸ hblank ' ' rfl
    | cons y b => exact Option.some.inj hx ▸ hblank y (hb y List.mem_cons_self)
  have hearlier : ∀ t, t ≠ [] → t <:+ Text.trimChars r.name.toList → ∀ z,
      ¬ nameEnd.Reads (t ++ (b ++ ' ' :: ("with".toList ++ r.quantities))) z := by
    intro t hne ht z
    have hin : t ++ b <:+: r.name.toList := by
      obtain ⟨e, he⟩ := ht
      rw [← he, List.append_assoc] at hpiece
      exact ((List.suffix_append e _).trans hpiece).isInfix
    have hlast := (Text.trimmed_trimChars r.name.toList).last
    refine h.not_reads_nameEnd_within hin ⟨t.getLast hne, List.getLast_mem hne, hlast _ ?_⟩ z
    obtain ⟨e, he⟩ := ht
    rw [← he, List.getLast?_append_of_ne_nil _ hne, List.getLast?_eq_getLast_of_ne_nil hne]
    rfl
  rw [hsplit, List.append_assoc]
  have hne := Text.trimChars_ne_nil h.name_not_blank
  exact ⟨_, (Phrase.leads_earliestName_before 1 hne hunquoted hhead hearlier
    (hend _)).andThen (leads_nothing _)⟩

theorem Typed.creationName?_eq (h : r.Typed) :
    Intent.creationName? r.text.toList = some (Text.trim r.name) := by
  obtain ⟨v, hname⟩ := h.leads_name
  have hverbs : Phrase.Apart ["create", "build"] := by decide
  have hgap := leads_gap (g := []) (x := ' ') rfl
    (r.name.toList ++ ' ' :: ("with".toList ++ r.quantities))
  rw [Text.trimLeft_append (Text.exists_not_blank h.name_not_blank)] at hgap
  have hbuilding : (andThen (Phrase.optionalWord "building")
      (andThen Phrase.nameBeforeWith nothing)).Leads
      ⟨Text.trimLeft r.name.toList ++ ' ' :: ("with".toList ++ r.quantities), []⟩
      ⟨r.quantities, [(1, Text.trimChars r.name.toList ++ v, v)]⟩ := by
    have hways : ∀ k, (Phrase.optionalWord "building").ways k
        = (Pattern.sequence [word "building", gap]).ways k ++ [k] := fun _ => rfl
    refine Leads.andThen_of_ways (hways _) (fun k hk z => ?_) hname
    have hread := (exists_ways_iff _ _ k.rest).1 ⟨k, hk, rfl⟩
    rintro ⟨t, hbefore, -⟩
    exact h.not_reads_building hread hbefore
  have hleads := (Phrase.leads_anyWord hverbs h.verb _).andThen (hgap.andThen hbuilding)
  rw [← toList_text] at hleads
  have hfirst : Phrase.createName.findSome? (·.find? r.text.toList)
      = some ⟨r.text.toList, r.quantities, [(1, Text.trimChars r.name.toList ++ v, v)]⟩ :=
    List.findSome?_eq_some_iff.2 ⟨[], _, _, rfl, hleads.find?_eq, List.forall_mem_nil _⟩
  rw [Intent.creationName?, hfirst, Option.bind_some]
  refine Match.name?_eq_some.2 ⟨Text.trimChars r.name.toList, by simp [Match.group?], ?_⟩
  rw [(Text.trimmed_trimChars _).trimChars_eq]
  exact ⟨Text.trimChars_ne_nil h.name_not_blank, rfl⟩

/-! ## What the request asks for -/

theorem Typed.isSome_count? (h : r.Typed) {m : Measure} (hm : ∃ a ∈ r.amounts, a.measure = m) :
    (r.count? m).isSome = true := by
  have hfound : (r.amounts.find? fun a => a.measure = m).isSome = true := by
    simpa [List.find?_isSome] using hm
  obtain ⟨a, ha⟩ := Option.isSome_iff_exists.1 hfound
  rw [count?, ha, Option.bind_some]
  exact (h.amounts a (List.mem_of_find?_eq_some ha)).number

theorem Typed.not_mentions_default (h : r.Typed) : ¬ Mentions ["default"] r.text.toList := by
  have hkeyword : ∀ {s}, Mentions ["default"] s → Mentions Amount.keywords s :=
    fun hs => hs.of_subset (by decide)
  have hverb : ∀ w ∈ ["create", "build"], ¬ Mentions ["default"] w.toList := by decide
  rw [toList_text, Text.mentions_append_cons_iff (by decide) (by decide),
    Text.mentions_append_cons_iff (by decide) (by decide)]
  rintro (hmention | hmention | hmention)
  · exact hverb _ h.verb hmention
  · exact h.not_mentions_name (hkeyword hmention)
  · exact h.not_mentions_quantities (hkeyword (hmention.of_append (by decide) (by decide)))

theorem Typed.asksToCreate_eq (h : r.Typed) :
    Intent.asksToCreate (Text.lowerChars r.text.toList) = true := by
  have hverb : ∀ w ∈ ["create", "build"], Mentions ["create", "build"] w.toList := by decide
  have hmention : Mentions ["create", "build"] r.text.toList := by
    rw [toList_text]
    exact (hverb _ h.verb).mono (List.prefix_append _ _).isInfix
  rw [Intent.asksToCreate, (Text.containsAny_lowerChars (by decide)).2 hmention, Bool.true_or]

/-- What is asked for: the name, and the listed quantities. -/
theorem Typed.createBuilding?_eq (h : r.Typed) :
    Intent.createBuilding? r.text.toList = some (.createBuilding r.spec) := by
  have hdefault : Text.containsAny ["default"] (Text.lowerChars r.text.toList) = false := by
    rw [← Bool.not_eq_true, Text.containsAny_lowerChars (by decide)]
    exact h.not_mentions_default
  have hfloors : Intent.quantity? Phrase.floorQuantity r.text.toList = r.count? .floors :=
    h.quantity?_eq .floors
  have hrestrooms : Intent.quantity? Phrase.restroomQuantity r.text.toList = r.count? .restrooms :=
    h.quantity?_eq .restrooms
  have hcorridors : Intent.quantity? Phrase.corridorQuantity r.text.toList = r.count? .corridors :=
    h.quantity?_eq .corridors
  have hlifts : Intent.quantity? Phrase.liftQuantity r.text.toList = r.count? .lifts :=
    h.quantity?_eq .lifts
  obtain ⟨floors, hcount⟩ := Option.isSome_iff_exists.1 (h.isSome_count? h.floors)
  have hmore : ((r.count? .restrooms).isSome || (r.count? .corridors).isSome) = true := by
    obtain ⟨a, ha, hm | hm⟩ := h.more
    · rw [h.isSome_count? ⟨a, ha, hm⟩, Bool.true_or]
    · rw [h.isSome_count? ⟨a, ha, hm⟩, Bool.or_true]
  simp only [Intent.createBuilding?, hdefault, h.asksToCreate_eq, h.creationName?_eq, hfloors,
    hrestrooms, hcorridors, hlifts, hcount, hmore, if_true, spec, Option.getD_some]
  rfl

/-! ## What is built -/

/-- A building that can be created is put behind the others and made active. -/
theorem apply_createBuilding {spec : BuildingSpec} {name : String} (hname : spec.name = some name)
    (hfits : ∀ n ∈ [spec.floors, spec.restrooms, spec.corridors, spec.lifts], n ≤ Intent.maxQuantity)
    {c : Collection} (hfree : ∀ b ∈ c.buildings, Text.lower b.name ≠ Text.lower name)
    (clock : Clock) (stamps : Stamps) :
    ∃ o stamps' b, (Intent.createBuilding spec).apply c clock stamps = .ok (o, stamps') ∧
      o.collection = some (c.withNewActive b) ∧ b.name = name ∧
      b.HasShape spec.floors spec.restrooms spec.corridors spec.lifts := by
  have hrequested : (Intent.requested? (.createBuilding spec)).filter (Intent.maxQuantity < ·) = none := by
    simp only [List.forall_mem_cons, List.not_mem_nil] at hfits
    simp only [Intent.requested?, Option.filter_some, ite_eq_right_iff, decide_eq_true_eq]
    omega
  have hnew : c.findByName? name = none :=
    List.find?_eq_none.2 fun b hb => by simpa using hfree b hb
  have happly : (Intent.createBuilding spec).apply c clock stamps
      = .ok (Intent.create c spec clock stamps) := by
    rw [Intent.apply, hrequested]
    rfl
  have hcreate : (Intent.create c spec clock stamps).1.collection
      = some (c.withNewActive (.generate ("building-" ++ toString (stamps.next clock).1) name
          spec.floors spec.restrooms spec.corridors spec.lifts)) := by
    simp [Intent.create, hname, hnew]
  exact ⟨_, _, _, happly, hcreate, rfl, Intent.hasShape_generate _ _ _ _ _ _⟩

/-- **A creation with quantities does what it says.** The request is taken for what it asks for; and if
    each quantity is at most fifty and the name is free, carrying it out on any collection puts a
    building of this name and shape behind the others and makes it the active one. -/
theorem createBuilding?_shape (h : r.Typed) :
    Intent.createBuilding? r.text.toList = some (.createBuilding r.spec) ∧
      ∀ (c : Collection) (clock : Clock) (stamps : Stamps),
        (∀ n ∈ [r.spec.floors, r.spec.restrooms, r.spec.corridors, r.spec.lifts],
          n ≤ Intent.maxQuantity) →
        (∀ b ∈ c.buildings, Text.lower b.name ≠ Text.lower (Text.trim r.name)) →
        ∃ o stamps' c' b, (Intent.createBuilding r.spec).apply c clock stamps = .ok (o, stamps') ∧
          o.collection = some c' ∧ c'.buildings = c.buildings ++ [b] ∧ c'.activeId = some b.id ∧
          ((∀ b' ∈ c.buildings, b'.id ≠ b.id) → c'.active? = some b) ∧
          b.name = Text.trim r.name ∧
          b.HasShape r.spec.floors r.spec.restrooms r.spec.corridors r.spec.lifts := by
  refine ⟨h.createBuilding?_eq, fun c clock stamps hfits hfree => ?_⟩
  obtain ⟨o, stamps', b, happly, hcollection, hname, hshape⟩ :=
    apply_createBuilding rfl hfits hfree clock stamps
  refine ⟨o, stamps', _, b, happly, hcollection, rfl, rfl, fun hnew => ?_, hname, hshape⟩
  have hold : c.buildings.find? (fun b' => b'.id = b.id) = none :=
    List.find?_eq_none.2 fun b' hb' => by simpa using hnew b' hb'
  simp [Collection.active?, Collection.findById?, Collection.withNewActive, List.find?_append, hold]

/-- Lifts, floors and restrooms in other words, in another order than they are usually listed. -/
def skyLounge : Creation :=
  ⟨"create", " Sky Lounge", ⟨.lifts, "3", "elevators"⟩,
    [(", ", ⟨.floors, "2", "stories"⟩), (" and ", ⟨.restrooms, "04", "toilets"⟩)]⟩

theorem typed_skyLounge : skyLounge.Typed := by
  refine ⟨⟨by decide, by decide, by decide, by decide, by decide, ?_, by decide, ?_, ?_⟩, by decide⟩
  · simp only [amounts, skyLounge, List.map_cons, List.map_nil, List.forall_mem_cons,
      List.not_mem_nil, false_implies, implies_true, and_true]
    exact ⟨⟨by decide, by decide⟩, ⟨by decide, by decide⟩, ⟨by decide, by decide⟩⟩
  · exact ⟨⟨.floors, "2", "stories"⟩, by simp [amounts, skyLounge], rfl⟩
  · exact ⟨⟨.restrooms, "04", "toilets"⟩, by simp [amounts, skyLounge], Or.inl rfl⟩

theorem skyLounge_shape : skyLounge.Typed ∧
    skyLounge.text = "create  Sky Lounge with 3 elevators, 2 stories and 04 toilets" ∧
    Intent.createBuilding? skyLounge.text.toList
      = some (.createBuilding ⟨some "Sky Lounge", 2, 4, 1, 3⟩) ∧
    ∃ o stamps' c' b, (Intent.createBuilding ⟨some "Sky Lounge", 2, 4, 1, 3⟩).apply .empty
        (.still 0) {} = .ok (o, stamps') ∧
      o.collection = some c' ∧ c'.buildings = [b] ∧ c'.activeId = some b.id ∧
      c'.active? = some b ∧ b.name = "Sky Lounge" ∧ b.HasShape 2 4 1 3 := by
  have hspec : skyLounge.spec = ⟨some "Sky Lounge", 2, 4, 1, 3⟩ := by decide
  obtain ⟨hrecognized, hbuilt⟩ := createBuilding?_shape typed_skyLounge
  rw [hspec] at hrecognized hbuilt
  obtain ⟨o, stamps', c', b, happly, hcollection, hbuildings, hid, hactive, hname, hshape⟩ :=
    hbuilt .empty (.still 0) {} (by decide) (by simp [Collection.empty])
  exact ⟨typed_skyLounge, by decide, hrecognized, o, stamps', c', b, happly, hcollection, hbuildings,
    hid, hactive (by simp [Collection.empty]), hname, hshape⟩

/-- A name that begins with the word "building" in capitals. -/
def buildingA : Creation :=
  ⟨"create", "Building A", ⟨.floors, "3", "floors"⟩, [(", ", ⟨.restrooms, "2", "restrooms"⟩)]⟩

theorem buildingA_renamed :
    ¬ ∀ r : Creation, r.Complete →
      (∀ x s, Text.isBlank x = true → Text.trimLeft r.name.toList ≠ "building".toList ++ x :: s) →
      Intent.createBuilding? r.text.toList = some (.createBuilding r.spec) := by
  intro hall
  have hcomplete : buildingA.Complete := by
    refine ⟨by decide, by decide, by decide, by decide, by decide, ?_, by decide, ?_, ?_⟩
    · simp only [amounts, buildingA, List.map_cons, List.map_nil, List.forall_mem_cons,
        List.not_mem_nil, false_implies, implies_true, and_true]
      exact ⟨⟨by decide, by decide⟩, ⟨by decide, by decide⟩⟩
    · exact ⟨⟨.floors, "3", "floors"⟩, by simp [amounts, buildingA], rfl⟩
    · exact ⟨⟨.restrooms, "2", "restrooms"⟩, by simp [amounts, buildingA], Or.inl rfl⟩
  have hread := hall buildingA hcomplete (fun x s _ heq => by cases heq)
  have hname : Intent.createBuilding? buildingA.text.toList
      = some (.createBuilding ⟨some "A", 3, 2, 1, 2⟩) := by decide +kernel
  rw [hname] at hread
  exact absurd hread (by decide)

end Creation

end Floorplan
