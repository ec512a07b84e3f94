import Floorplan.Proofs.Intent.Guard
import Floorplan.Proofs.Intent.Named
import Floorplan.Proofs.Pattern.Woven

set_option autoImplicit false

/-! # Requests for several things at once

"add 2 floors and 3 restrooms" and "add 2 floors, 3 restrooms and 1 corridors" are recognised by the last
family and there by the last but one of its patterns: the words of all others are missing in such a text,
the additions of one kind of thing do not stand directly behind "add", and floors alone are not looked
for where restrooms or corridors are mentioned. Each quantity is the number in front of its noun
(`CombinedAddition.Typed.parse?_eq`). -/

namespace Floorplan

open Pattern

/-- A request for floors and components, with the numbers as they are typed. -/
inductive CombinedAddition where
  /-- "add 2 floors and 3 restrooms". -/
  | withOne (floors : String) (kind : ComponentKind) (count : String)
  /-- "add 2 floors, 3 restrooms and 1 corridors". -/
  | withBoth (floors restrooms corridors : String)

namespace CombinedAddition

/-- The request as a text. -/
def text : CombinedAddition → String
  | withOne floors kind count => "add " ++ floors ++ " floors and " ++ count ++ " " ++ kind.plural
  | withBoth floors restrooms corridors =>
    "add " ++ floors ++ " floors, " ++ restrooms ++ " restrooms and " ++ corridors ++ " corridors"

/-- The numbers in order. -/
def numbers : CombinedAddition → List String
  | withOne floors _ count => [floors, count]
  | withBoth floors restrooms corridors => [floors, restrooms, corridors]

/-- The number of components of a kind, as it is typed. -/
def number? : CombinedAddition → ComponentKind → Option String
  | withOne _ kind count, k => if k = kind then some count else none
  | withBoth _ restrooms _, .restroom => some restrooms
  | withBoth _ _ corridors, .corridor => some corridors

/-- The number of floors, as it is typed. -/
def floors : CombinedAddition → String
  | withOne floors _ _ | withBoth floors _ _ => floors

/-- The quantities that are asked for. -/
def counts (a : CombinedAddition) : AddCounts :=
  ⟨Text.word? a.floors.toList, (a.number? .restroom).bind (Text.word? ·.toList),
    (a.number? .corridor).bind (Text.word? ·.toList)⟩

/-- All numbers are decimal and fit words. -/
def Typed (a : CombinedAddition) : Prop := ∀ d ∈ a.numbers, (Text.word? d.toList).isSome = true

variable {a : CombinedAddition}

theorem Typed.digits (h : a.Typed) : ∀ d ∈ a.numbers,
    d.toList ≠ [] ∧ ∀ x ∈ d.toList, Text.isDigit x = true := by
  intro d hd
  obtain ⟨n, hn⟩ := Option.isSome_iff_exists.1 (h d hd)
  exact Text.isDigit_of_word? hn

/-! ## What is not in the text -/

/-- The words that can stand in front of a number. -/
def frontWords : List String := ["add ", " floors and ", " floors, ", " restrooms and "]

/-- The words that can stand behind the last number. -/
def lastWords : List String := [" restrooms", " corridors"]

/-- The words in front of the numbers. -/
def words : CombinedAddition → List String
  | withOne .. => ["add ", " floors and "]
  | withBoth .. => ["add ", " floors, ", " restrooms and "]

/-- The word behind the last number. -/
def lastWord : CombinedAddition → String
  | withOne _ kind _ => " " ++ kind.plural
  | withBoth .. => " corridors"

theorem toList_text (a : CombinedAddition) :
    a.text.toList = Text.weave a.words a.numbers a.lastWord := by
  cases a <;> simp [text, Text.weave, words, numbers, lastWord]

theorem mem_words (a : CombinedAddition) : ∀ w ∈ a.words, w ∈ frontWords := by
  cases a <;> simp [words, frontWords]

theorem lastWord_mem (a : CombinedAddition) : a.lastWord ∈ lastWords := by
  have hkind : ∀ kind : ComponentKind, " " ++ kind.plural ∈ lastWords := by
    intro kind
    cases kind <;> decide
  cases a with
  | withOne floors kind count => exact hkind kind
  | withBoth => exact List.mem_cons_of_mem _ List.mem_cons_self

/-- The text is the same in lower case. -/
theorem Typed.lowerChars_eq (h : a.Typed) : Text.lowerChars a.text.toList = a.text.toList := by
  have hfixed : ∀ w ∈ frontWords ++ lastWords, ∀ x ∈ w.toList, Text.smallForm x = [x] := by decide
  rw [toList_text]
  refine Text.lowerChars_eq_self (Text.forall_mem_weave (fun w hw => ?_) (fun d hd x hx => ?_) ?_)
  · exact hfixed w (List.mem_append_left lastWords (a.mem_words w hw))
  · exact Text.smallForm_of_isDigit ((h.digits d hd).2 x hx)
  · exact hfixed _ (List.mem_append_right frontWords a.lastWord_mem)

/-- What begins in none of the words and with no digit is not found. -/
theorem Typed.find?_eq_none (h : a.Typed) {p : Pattern}
    (hp : ∀ x t r, Text.isDigit x = true → ¬ p.Reads (x :: t) r)
    (hws : ∀ w ∈ frontWords, p.clears w.toList = true)
    (hlast : ∀ w ∈ lastWords, p.find? w.toList = none) :
    p.find? a.text.toList = none := by
  rw [toList_text]
  exact find?_weave_eq_none hp (fun w hw => hws w (a.mem_words w hw))
    (fun d hd => (h.digits d hd).2) (hlast _ a.lastWord_mem)

/-- Words that other requests need. -/
def otherWords : List String :=
  Intent.earlierWords ++ ["switch", "change", "go", "select", "use", "activate", "set", "rename",
    "call", "name", "building"]

theorem Typed.find?_otherWord (h : a.Typed) :
    ∀ w ∈ otherWords, (word w).find? a.text.toList = none := by
  have hletters : ∀ w ∈ otherWords, w.toList ≠ [] ∧
      ∀ y ∈ (w.toList.map foldLetter).head?, Text.isDigit y = false := by decide
  have hclears : ∀ w ∈ otherWords, ∀ v ∈ frontWords, (word w).clears v.toList = true := by
    decide +kernel
  have hlast : ∀ w ∈ otherWords, ∀ v ∈ lastWords, (word w).find? v.toList = none := by
    decide +kernel
  intro w hw
  obtain ⟨hne, hhead⟩ := hletters w hw
  exact h.find?_eq_none (fun _ t r hx => not_reads_word_of_isDigit hhead hne hx t r) (hclears w hw)
    (hlast w hw)

theorem Typed.containsAny_eq_false (h : a.Typed) (ws : List String) (hws : ∀ w ∈ ws, w ∈ otherWords) :
    Text.containsAny ws a.text.toList = false :=
  containsAny_eq_false_of_find? fun w hw => h.find?_otherWord w (hws w hw)

theorem Typed.find?_anyWord (h : a.Typed) {ws : List String} (hne : ws ≠ [])
    (hws : ∀ w ∈ ws, w ∈ otherWords) : (Phrase.anyWord ws).find? a.text.toList = none := by
  refine find?_choice_eq_none (by simpa using hne) fun p hp => ?_
  obtain ⟨w, hw, rfl⟩ := List.mem_map.1 hp
  exact h.find?_otherWord w (hws w hw)

theorem Typed.find?_switch (h : a.Typed) : ∀ p ∈ Phrase.switch, p.find? a.text.toList = none := by
  simp only [Phrase.switch, List.forall_mem_cons, List.not_mem_nil, false_imp_iff, implies_true,
    and_true]
  exact ⟨find?_eq_none_of_part List.mem_cons_self (h.find?_anyWord (by decide) (by decide)),
    find?_eq_none_of_part List.mem_cons_self (h.find?_anyWord (by decide) (by decide)),
    find?_eq_none_of_part List.mem_cons_self (h.find?_anyWord (by decide) (by decide))⟩

theorem Typed.find?_renameVerb (h : a.Typed) : Phrase.renameVerb.find? a.text.toList = none :=
  h.find?_anyWord (by decide) (by decide)

theorem Typed.find?_renameFloor (h : a.Typed) :
    ∀ p ∈ Phrase.renameFloor, p.find? a.text.toList = none := by
  simp only [Phrase.renameFloor, List.forall_mem_cons, List.not_mem_nil, false_imp_iff, implies_true,
    and_true]
  refine ⟨find?_eq_none_of_part List.mem_cons_self h.find?_renameVerb, ?_,
    find?_eq_none_of_part List.mem_cons_self (h.find?_otherWord "call" (by decide))⟩
  -- The word "floor" is there, but no number stands behind it.
  refine h.find?_eq_none (fun x t r hx => ?_) (by decide +kernel) (by decide +kernel)
  rintro ⟨z, hread, -⟩
  exact not_reads_word_of_isDigit (by decide) (by decide) hx t z hread

theorem Typed.find?_renameBuilding (h : a.Typed) :
    ∀ p ∈ Phrase.renameBuilding, p.find? a.text.toList = none := by
  have hword := h.find?_otherWord "name" (by decide)
  simp only [Phrase.renameBuilding, List.forall_mem_cons, List.not_mem_nil, false_imp_iff,
    implies_true, and_true]
  exact ⟨find?_eq_none_of_part (by simp) hword, find?_eq_none_of_part (by simp) hword,
    find?_eq_none_of_part List.mem_cons_self (h.find?_otherWord "call" (by decide))⟩

/-- The text has nothing that the other families look for. -/
theorem Typed.passedOn (h : a.Typed) : Intent.PassedOn a.text.toList where
  words w hw := by
    rw [h.lowerChars_eq]
    exact h.containsAny_eq_false [w] (List.forall_mem_singleton.2 (List.mem_append_left _ hw))
  switch := h.find?_switch
  renameVerb := h.find?_renameVerb
  renameFloor := h.find?_renameFloor
  renameBuilding := h.find?_renameBuilding

/-! ## The quantities -/

section Quantities

variable {w : String} {d s u : List Char}

/-- What stands between a number and the end of the noun that it counts. -/
def behind (w : String) : Pattern :=
  sequence [space, optional (sequence [exactly "more", gap]), Phrase.nouns w]

theorem not_reads_behind_digit (hw : Phrase.Noun w) {x : Char} (hx : Text.isDigit x = true)
    (t r : List Char) : ¬ (behind w).Reads (x :: t) r := by
  rintro ⟨t₁, hspace, t₂, hmore, t₃, ⟨t₄, hnoun, -⟩, -⟩
  have hread : (Phrase.maybeMore w).Reads t₁ t₄ := ⟨t₂, hmore, t₄, hnoun, rfl⟩
  rcases CharClass.runs_cons.1 hspace with rfl | ⟨hblank, -⟩
  · exact hw.not_reads_maybeMore (Or.inr hx) t t₄ hread
  · rw [CharClass.contains, Text.isBlank_of_isDigit hx] at hblank
    cases hblank

theorem quantity?_of_reads (hu : ∀ x ∈ u, Text.isDigit x = false) (hne : d ≠ [])
    (hd : ∀ x ∈ d, Text.isDigit x = true) (hs : ∀ x ∈ s.head?, Text.isDigit x = false)
    (hgroup : (behind w).isGroupless = true) (hread : ∃ r, (behind w).Reads s r) :
    Intent.quantity? (Phrase.moreOf w) (u ++ (d ++ s)) = Text.word? d := by
  obtain ⟨m, hfind, hm⟩ := find?_count_hit (i := 1) hne hd hs hgroup hread
  rw [Intent.quantity?, show Phrase.moreOf w = andThen (count 1) (behind w) from rfl,
    find?_count_skip hu, hfind, Option.bind_some, Match.number?, hm, Option.bind_some]

theorem quantity?_of_not_reads (hu : ∀ x ∈ u, Text.isDigit x = false)
    (hd : ∀ x ∈ d, Text.isDigit x = true) (hs : ∀ x ∈ s.head?, Text.isDigit x = false)
    (hw : Phrase.Noun w) (hnot : ∀ r, ¬ (behind w).Reads s r) :
    Intent.quantity? (Phrase.moreOf w) (u ++ (d ++ s)) = Intent.quantity? (Phrase.moreOf w) s := by
  rw [Intent.quantity?, Intent.quantity?,
    show Phrase.moreOf w = andThen (count 1) (behind w) from rfl, find?_count_skip hu,
    find?_count_pass hd hs hnot fun x t r hx => not_reads_behind_digit hw hx t r]

theorem quantity?_of_no_digits (hu : ∀ x ∈ u, Text.isDigit x = false) :
    Intent.quantity? (Phrase.moreOf w) u = none := by
  have hnone : (Phrase.moreOf w).find? u = none := by
    refine find?_eq_none_iff.2 fun t ht r => ?_
    rintro ⟨z, hcount, -⟩
    obtain ⟨x, v, hdigits, rfl⟩ := reads_count.1 hcount
    have hx := hu x (ht.subset List.mem_cons_self)
    rw [hdigits x List.mem_cons_self] at hx
    cases hx
  rw [Intent.quantity?, hnone]
  rfl

theorem isDigit_words : ∀ v ∈ frontWords,
    ∀ x ∈ v.toList, Text.isDigit x = false := by decide

/-- No number goes on behind its digits. -/
theorem isDigit_head (hw : w ∈ [" floors and ", " floors, ", " restrooms and "]) (t : List Char) :
    ∀ x ∈ (w.toList ++ t).head?, Text.isDigit x = false := by
  have hall : ∀ w ∈ [" floors and ", " floors, ", " restrooms and "], w.toList ≠ [] ∧
      ∀ x ∈ w.toList.head?, Text.isDigit x = false := by decide
  rw [List.head?_append_of_ne_nil _ (hall w hw).1]
  exact (hall w hw).2

/-- The number of floors does not count components. -/
theorem not_reads_behind_floors (k : ComponentKind) (hw : w ∈ [" floors and ", " floors, "])
    (t r : List Char) : ¬ (behind k.noun).Reads (w.toList ++ t) r := by
  have hall : ∀ w ∈ [" floors and ", " floors, "], (behind k.noun).leftovers w.toList = [] := by
    cases k <;> decide
  exact not_reads_of_leftovers (hall w hw) t r

theorem isGroupless_behind (k : ComponentKind) : (behind k.noun).isGroupless = true := by
  cases k <;> decide

end Quantities

theorem quantity?_withOne {floors count : String} {kind : ComponentKind}
    (h : (withOne floors kind count).Typed) (k : ComponentKind) :
    Intent.quantity? (Phrase.moreOf k.noun) (withOne floors kind count).text.toList
      = ((withOne floors kind count).number? k).bind (Text.word? ·.toList) := by
  obtain ⟨⟨-, hfloors⟩, ⟨hne, hcount⟩, -⟩ : _ ∧ _ ∧ _ := by
    simpa only [numbers, List.forall_mem_cons] using h.digits
  have hlast : ∀ x ∈ (" " ++ kind.plural).toList, Text.isDigit x = false := by
    cases kind <;> decide
  have hhead : ∀ x ∈ (" " ++ kind.plural).toList.head?, Text.isDigit x = false :=
    fun x hx => hlast x (List.mem_of_mem_head? hx)
  have htext : (withOne floors kind count).text.toList = "add ".toList ++ (floors.toList ++
      (" floors and ".toList ++ (count.toList ++ (" " ++ kind.plural).toList))) := by
    simp [text]
  rw [htext, quantity?_of_not_reads (isDigit_words "add " (by decide)) hfloors
    (isDigit_head (by decide) _) (Phrase.noun_component k) (not_reads_behind_floors k (by decide) _)]
  by_cases hk : k = kind
  · subst hk
    have hread : ∃ r, (behind k.noun).Reads (" " ++ k.plural).toList r := by
      rw [← startsText_iff]
      cases k <;> decide +kernel
    rw [quantity?_of_reads (isDigit_words " floors and " (by decide)) hne hcount hhead
      (isGroupless_behind k) hread, number?, if_pos rfl, Option.bind_some]
  · have hnot : ∀ r, ¬ (behind k.noun).Reads (" " ++ kind.plural).toList r := by
      intro r hread
      have hnone : (behind k.noun).leftovers (" " ++ kind.plural).toList = [] := by
        revert hk
        cases k <;> cases kind <;> decide
      refine not_reads_of_leftovers hnone [] r ?_
      rwa [List.append_nil]
    rw [quantity?_of_not_reads (isDigit_words " floors and " (by decide)) hcount hhead
      (Phrase.noun_component k) hnot, quantity?_of_no_digits hlast, number?, if_neg hk,
      Option.bind_none]

theorem quantity?_withBoth {floors restrooms corridors : String}
    (h : (withBoth floors restrooms corridors).Typed) (k : ComponentKind) :
    Intent.quantity? (Phrase.moreOf k.noun) (withBoth floors restrooms corridors).text.toList
      = ((withBoth floors restrooms corridors).number? k).bind (Text.word? ·.toList) := by
  obtain ⟨⟨-, hfloors⟩, ⟨hrne, hrestrooms⟩, ⟨hcne, hcorridors⟩, -⟩ : _ ∧ _ ∧ _ ∧ _ := by
    simpa only [numbers, List.forall_mem_cons] using h.digits
  have htext : (withBoth floors restrooms corridors).text.toList = "add ".toList ++
      (floors.toList ++ (" floors, ".toList ++ (restrooms.toList ++ (" restrooms and ".toList ++
        (corridors.toList ++ " corridors".toList))))) := by
    simp [text]
  rw [htext, quantity?_of_not_reads (isDigit_words "add " (by decide)) hfloors
    (isDigit_head (by decide) _) (Phrase.noun_component k) (not_reads_behind_floors k (by decide) _)]
  cases k with
  | restroom =>
    have hread : ∃ r, (behind "restroom").Reads " restrooms and ".toList r := by
      rw [← startsText_iff]
      decide +kernel
    obtain ⟨r, hread⟩ := hread
    exact quantity?_of_reads (isDigit_words " floors, " (by decide)) hrne hrestrooms
      (isDigit_head (by decide) _) (isGroupless_behind .restroom) ⟨_, hread.append (by decide) _⟩
  | corridor =>
    have hread : ∃ r, (behind "corridor").Reads " corridors".toList r := by
      rw [← startsText_iff]
      decide +kernel
    have hnot : ∀ t r, ¬ (behind "corridor").Reads (" restrooms and ".toList ++ t) r :=
      not_reads_of_leftovers (by decide)
    refine (quantity?_of_not_reads (isDigit_words " floors, " (by decide)) hrestrooms
      (isDigit_head (by decide) _) (Phrase.noun_component .corridor) (hnot _)).trans ?_
    exact quantity?_of_reads (isDigit_words " restrooms and " (by decide)) hcne hcorridors (by decide)
      (isGroupless_behind .corridor) hread

/-- The number in front of a noun is read, and what another noun follows is passed by. -/
theorem Typed.quantity?_component (h : a.Typed) (k : ComponentKind) :
    Intent.quantity? (Phrase.moreOf k.noun) a.text.toList
      = (a.number? k).bind (Text.word? ·.toList) := by
  cases a with
  | withOne floors kind count => exact quantity?_withOne h k
  | withBoth floors restrooms corridors => exact quantity?_withBoth h k

/-- What the text begins with. -/
theorem exists_toList_text (a : CombinedAddition) : ∃ rest, a.text.toList
    = "add".toList ++ ' ' :: (a.floors.toList ++ (" floors".toList ++ rest)) := by
  cases a with
  | withOne floors kind count =>
    exact ⟨" and ".toList ++ (count.toList ++ (" " ++ kind.plural).toList), by
      simp [text, CombinedAddition.floors]⟩
  | withBoth floors restrooms corridors =>
    exact ⟨", ".toList ++ (restrooms.toList ++ (" restrooms and ".toList ++
      (corridors.toList ++ " corridors".toList))), by simp [text, CombinedAddition.floors]⟩

theorem Typed.digits_floors (h : a.Typed) :
    a.floors.toList ≠ [] ∧ ∀ x ∈ a.floors.toList, Text.isDigit x = true :=
  h.digits a.floors (by cases a <;> exact List.mem_cons_self)

theorem Typed.quantity?_floors (h : a.Typed) :
    Intent.quantity? Phrase.addedFloors a.text.toList = Text.word? a.floors.toList := by
  obtain ⟨rest, htext⟩ := a.exists_toList_text
  obtain ⟨hne, hdigits⟩ := h.digits_floors
  have hfew : ∀ s g, (few CharClass.sameLine).Leads ⟨s, g⟩ ⟨s, g⟩ := by
    intro s g
    obtain ⟨later, hlater⟩ := CharClass.exists_restsReluctant .sameLine s
    rw [Leads, ways, hlater]
    rfl
  have hbehind : ∃ r, (behind "floor").Reads (" floors".toList ++ rest) r := by
    have hread : ∃ r, (behind "floor").Reads " floors".toList r := by
      rw [← startsText_iff]
      decide +kernel
    obtain ⟨r, hread⟩ := hread
    exact ⟨_, hread.append (by decide) rest⟩
  have hhead : ∀ x ∈ (" floors".toList ++ rest).head?, Text.isDigit x = false := by
    rw [List.head?_append_of_ne_nil _ (by decide)]
    decide
  obtain ⟨r, hleads⟩ := exists_leads_of_isGroupless (by decide) hbehind
    [(1, a.floors.toList ++ (" floors".toList ++ rest), " floors".toList ++ rest)]
  have hadded : Phrase.addedFloors.Leads ⟨a.text.toList, []⟩ ⟨r,
      [(1, a.floors.toList ++ (" floors".toList ++ rest), " floors".toList ++ rest)]⟩ := by
    rw [htext]
    exact (leads_exactly "add" _).andThen
      ((leads_gap_before hne (Text.isBlank_head_of_digits hdigits) _).andThen
      ((hfew _ _).andThen (((leads_count 1 hne hdigits hhead).andThen hleads).andThen
        (leads_nothing _))))
  rw [Intent.quantity?, hadded.find?_eq, Option.bind_some]
  exact Match.number?_of_lookup rfl

/-- No kind of component is counted directly behind "add". -/
theorem Typed.find?_add (h : a.Typed) (k : ComponentKind) :
    (Phrase.add k.noun).find? a.text.toList = none := by
  obtain ⟨rest, htext⟩ := a.exists_toList_text
  obtain ⟨hne, hdigits⟩ := h.digits_floors
  have hbegin : ∀ r, ¬ (Phrase.add k.noun).Reads a.text.toList r := by
    rw [htext]
    rintro r ⟨t, hadd, t', hgap, t'', hmore, -⟩
    rw [reads_exactly] at hadd
    obtain rfl := List.append_cancel_left hadd
    rw [eq_of_reads_gap (Text.isBlank_head_append hne (Text.isBlank_head_of_digits hdigits) _) hgap]
      at hmore
    have hnot : ∀ t r, ¬ (behind k.noun).Reads (" floors".toList ++ t) r :=
      not_reads_of_leftovers (by cases k <;> decide)
    refine not_reads_count_andThen hdigits ?_ (hnot rest) (fun x t r hx =>
      not_reads_behind_digit (Phrase.noun_component k) hx t r) t'' hmore
    rw [List.head?_append_of_ne_nil _ (by decide)]
    decide
  -- Further on there is no word that begins in the same way.
  have hcons : a.text.toList = 'a' :: Text.weave ("dd " :: a.words.tail) a.numbers a.lastWord := by
    cases a <;> simp [text, Text.weave, words, numbers, lastWord]
  have hclears : ∀ w ∈ ["dd ", " floors and ", " floors, ", " restrooms and "],
      (Phrase.add k.noun).clears w.toList = true := by
    cases k <;> decide +kernel
  have hlast : ∀ w ∈ lastWords, (Phrase.add k.noun).find? w.toList = none := by
    cases k <;> decide +kernel
  rw [hcons] at hbegin ⊢
  rw [find?_of_not_reads hbegin]
  refine find?_weave_eq_none ?_ (fun w hw => hclears w ?_) (fun d hd => (h.digits d hd).2)
    (hlast _ a.lastWord_mem)
  · rintro x t r hx ⟨z, hread, -⟩
    exact not_reads_exactly_of_isDigit (by decide) (by decide) hx t z hread
  · have htail : ∀ w ∈ a.words.tail, w ∈ [" floors and ", " floors, ", " restrooms and "] := by
      cases a <;> simp [words]
    exact (List.mem_cons.1 hw).elim (fun heq => heq ▸ List.mem_cons_self) fun hw =>
      List.mem_cons_of_mem _ (htail w hw)

/-- No floor is named by its number. -/
theorem Typed.occursIn_floorMention (h : a.Typed) :
    Phrase.floorMention.occursIn a.text.toList = false := by
  have hletters : ∀ w ∈ ["to", "in", "on"], w.toList ≠ [] ∧
      ∀ y ∈ w.toList.head?, Text.isDigit y = false := by decide
  have hnone : Phrase.floorMention.find? a.text.toList = none := by
    refine h.find?_eq_none (fun x t r hx => ?_) (by decide +kernel) (by decide +kernel)
    rintro ⟨z, hread, -⟩
    obtain ⟨p, hp, hread⟩ := (reads_choice (List.cons_ne_nil _ _)).1 hread
    have hmem : p ∈ ["to", "in", "on"].map exactly := hp
    obtain ⟨w, hw, rfl⟩ := List.mem_map.1 hmem
    exact not_reads_exactly_of_isDigit (hletters w hw).2 (hletters w hw).1 hx t z hread
  rw [occursIn, hnone]
  rfl

theorem Typed.combinedCounts_eq (h : a.Typed) : Intent.combinedCounts a.text.toList = a.counts := by
  simp only [Intent.combinedCounts, h.occursIn_floorMention, Bool.false_eq_true, if_false,
    h.quantity?_component, h.quantity?_floors, counts]

theorem Typed.one_lt_given (h : a.Typed) : 1 < a.counts.given := by
  cases a with
  | withOne floors kind count =>
    have hfloors := h floors (by simp [numbers])
    have hcount := h count (by simp [numbers])
    cases kind <;>
      simp [AddCounts.given, counts, CombinedAddition.floors, number?, hfloors, hcount]
  | withBoth floors restrooms corridors =>
    have hfloors := h floors (by simp [numbers])
    have hrestrooms := h restrooms (by simp [numbers])
    have hcorridors := h corridors (by simp [numbers])
    simp [AddCounts.given, counts, CombinedAddition.floors, number?, hfloors, hrestrooms,
      hcorridors]

theorem mentions_noun (a : CombinedAddition) :
    Text.containsAny ["restroom", "corridor"] a.text.toList = true := by
  cases a with
  | withOne floors kind count =>
    have hinfix : kind.noun.toList <:+: (withOne floors kind count).text.toList :=
      ⟨("add " ++ floors ++ " floors and " ++ count ++ " ").toList, "s".toList, by
        simp [text, ComponentKind.plural]⟩
    exact Text.containsAny_of_infix (by cases kind <;> decide) hinfix
  | withBoth floors restrooms corridors =>
    have hinfix : "restroom".toList <:+: (withBoth floors restrooms corridors).text.toList :=
      ⟨("add " ++ floors ++ " floors, " ++ restrooms ++ " ").toList,
        ("s and " ++ corridors ++ " corridors").toList, by simp [text]⟩
    exact Text.containsAny_of_infix (by decide) hinfix

/-- The request is taken for what it asks for. -/
theorem Typed.editStructure?_eq (h : a.Typed) :
    Intent.editStructure? a.text.toList = some (.addMultiple a.counts) := by
  have hto : ∀ k, Intent.addToFloor? k a.text.toList = none := by
    intro k
    have hnone : (Phrase.addToFloor k.noun).find? a.text.toList = none :=
      find?_eq_none_of_part List.mem_cons_self (h.find?_add k)
    rw [Intent.addToFloor?, hnone]
    rfl
  have heverywhere : ∀ k, Intent.addEverywhere? k a.text.toList = none := by
    intro k
    rw [Intent.addEverywhere?, findUnlessFollowed?_of_find? (h.find?_add k)]
    rfl
  have hfloors : Intent.addFloors? a.text.toList = none := by
    simp only [Intent.addFloors?, a.mentions_noun, if_true]
  obtain ⟨rest, htext⟩ := a.exists_toList_text
  have hadd : Text.containsAny ["add"] a.text.toList = true := by
    have hinfix : "add".toList <:+: a.text.toList := by
      rw [htext]
      exact (List.prefix_append _ _).isInfix
    exact Text.containsAny_of_infix (List.mem_singleton_self _) hinfix
  have hnoun : Text.containsAny ["corridor", "restroom", "floor"] a.text.toList = true := by
    have hinfix : "floor".toList <:+: a.text.toList :=
      ⟨"add ".toList ++ a.floors.toList ++ [' '], 's' :: rest, by simp [htext]⟩
    exact Text.containsAny_of_infix (by decide) hinfix
  have hmultiple : Intent.addMultiple? a.text.toList = some (.addMultiple a.counts) := by
    simp only [Intent.addMultiple?, hadd, hnoun, Bool.and_self, if_true, h.combinedCounts_eq,
      h.one_lt_given]
  simp only [Intent.editStructure?, h.lowerChars_eq, h.containsAny_eq_false ["building"] (by decide),
    Bool.and_false, Bool.false_and, hto, heverywhere, hfloors, hmultiple]
  rfl

/-- **The request is recognised for what it asks for**, whether a building is active or not. -/
theorem Typed.parse?_eq (h : a.Typed) (hasActive : Bool) :
    Intent.parse? a.text hasActive = some (.editStructure, .addMultiple a.counts) := by
  rw [Intent.parse?_editStructure h.passedOn.recognize?_eq_none, h.editStructure?_eq]
  rfl

end CombinedAddition

end Floorplan
