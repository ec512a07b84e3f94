import Floorplan.Proofs.Intent.Phrase
import Floorplan.Proofs.Pattern.Count
import Floorplan.Proofs.Pattern.Mentions

set_option autoImplicit false

/-! # The clauses of a renaming

A renaming of one component begins with a verb, the kind and the number of the component
(`Phrase.leads_component`), and somewhere says on which floor it is (`Phrase.leads_place`). Numbers are
any runs of digits here. What matters for where the one ends and the other begins is what cannot be read:
no verb behind the first (`Phrase.reads_renameVerb`) and no preposition behind the last
(`Phrase.not_reads_place`). -/

namespace Floorplan.Phrase

open Pattern
open Text (smallForms Mentions)

variable {kind : ComponentKind} {verb : String} {d s t z : List Char} {p : Pattern}
  {g : List (Nat × List Char × List Char)} {m : Cursor}

theorem apart_renameVerbs : Apart ["rename", "change"] := by decide

theorem apart_prepositions : Apart ["in", "on", "of"] := by decide

theorem isDigit_blank (s : List Char) : ∀ x ∈ (' ' :: s).head?, Text.isDigit x = false := by
  rintro x ⟨⟩
  rfl

/-- Which component of which kind is renamed is read as it stands. -/
theorem leads_component (kind : ComponentKind) (hverb : verb ∈ ["rename", "change"]) (hne : d ≠ [])
    (hd : ∀ x ∈ d, Text.isDigit x = true) (hs : ∀ x ∈ s.head?, Text.isDigit x = false)
    (hp : p.Leads ⟨s, (1, d ++ s, s) :: g⟩ m) :
    (andThen renameVerb (andThen gap (andThen (word kind.noun) (andThen gap
      (andThen (count 1) p))))).Leads
        ⟨verb.toList ++ ' ' :: (kind.noun.toList ++ ' ' :: (d ++ s)), g⟩ m :=
  (leads_anyWord apart_renameVerbs hverb _).andThen
    ((leads_gap_before (noun_ne_nil kind) (isBlank_head_noun kind) _).andThen ((leads_word rfl _).andThen
      ((leads_gap_before hne (Text.isBlank_head_of_digits hd) _).andThen
        ((leads_count 1 hne hd hs).andThen hp))))

/-- A preposition, the word "floor" and a number are read as they stand. -/
theorem leads_place {ws : List String} {w : String} (hws : Apart ws) (hw : w ∈ ws) {i : Nat}
    (hne : d ≠ []) (hd : ∀ x ∈ d, Text.isDigit x = true)
    (hs : ∀ x ∈ s.head?, Text.isDigit x = false) (hp : p.Leads ⟨s, (i, d ++ s, s) :: g⟩ m) :
    (andThen (between ws) (andThen (word "floor") (andThen gap (andThen (count i) p)))).Leads
      ⟨' ' :: (w.toList ++ ' ' :: ("floor".toList ++ ' ' :: (d ++ s))), g⟩ m :=
  (leads_between hws hw _).andThen ((leads_word (w := "floor") rfl _).andThen
    ((leads_gap_before hne (Text.isBlank_head_of_digits hd) _).andThen
      ((leads_count i hne hd hs).andThen hp)))

/-- At the end of a request all digits of the floor are read. -/
theorem leads_place_atEnd {w : String} (hw : w ∈ ["in", "on", "of"]) (i : Nat) (hne : d ≠ [])
    (hd : ∀ x ∈ d, Text.isDigit x = true) :
    (Pattern.sequence [between ["in", "on", "of"], word "floor", gap, count i]).Leads
      ⟨' ' :: (w.toList ++ ' ' :: ("floor".toList ++ ' ' :: d)), g⟩ ⟨[], (i, d, []) :: g⟩ :=
  (leads_between apart_prepositions hw _).andThen ((leads_word (w := "floor") rfl _).andThen
    ((leads_gap_of_head rfl (Text.isBlank_head_of_digits hd)).andThen
      ((leads_count_atEnd i hne hd).andThen (leads_nothing _))))

/-- The place of a component has no quotes. -/
theorem unquoted_place {w : String} (hw : w ∈ ["in", "on", "of"])
    (hd : ∀ x ∈ d, Text.isDigit x = true) :
    ∀ x ∈ w.toList ++ ' ' :: ("floor".toList ++ ' ' :: d), Unquoted x := by
  have hwords : ∀ w ∈ ["in", "on", "of"], ∀ x ∈ w.toList ++ " floor ".toList, Unquoted x := by decide
  have htext : w.toList ++ ' ' :: ("floor".toList ++ ' ' :: d) = (w.toList ++ " floor ".toList) ++ d := by
    simp
  rw [htext, List.forall_mem_append]
  exact ⟨hwords w hw, fun x hx =>
    ⟨Text.ne_of_isDigit (by decide) (hd x hx), Text.ne_of_isDigit (by decide) (hd x hx)⟩⟩

/-- No preposition is read behind the one that is there. -/
theorem not_reads_place {w : String} (hw : w ∈ ["in", "on", "of"])
    (hd : ∀ x ∈ d, Text.isDigit x = true)
    (ht : t <:+ w.toList ++ ' ' :: ("floor".toList ++ ' ' :: d)) (q : Pattern) (z : List Char) :
    ¬ (andThen (between ["in", "on", "of"]) q).Reads t z := by
  have hspelled : Text.Spelled "" (' ' :: d) :=
    ⟨by decide, List.forall_mem_cons.2 ⟨rfl, fun x hx => by simp [Text.spelled, hd x hx]⟩⟩
  have hbegin : ∀ w ∈ ["in", "on", "of"], ∀ u ∈ (w.toList ++ " floor".toList).tails, u ≠ [] →
      (between ["in", "on", "of"]).leftovers u = [] := by decide
  have hnone := find?_append_eq_none (hbegin w hw) (hspelled.find?_eq_none (by decide))
  rw [List.append_assoc] at hnone
  rintro ⟨r, hread, -⟩
  exact find?_eq_none_iff.1 hnone t ht r hread

/-- Words that are not mentioned do not stand between others. -/
theorem find?_between_eq_none {ws : List String} (hne : ws ≠ []) (hws : ∀ w ∈ ws, TwoForms w)
    (h : ¬ Mentions ws s) : (between ws).find? s = none := by
  have hmem : anyWord ws ∈ [gap, anyWord ws, gap] := List.mem_cons_of_mem _ List.mem_cons_self
  exact find?_eq_none_of_part hmem (find?_words_eq_none hne hws h)

/-- Where no verb is mentioned behind the first one, a verb is only read there. -/
theorem reads_renameVerb (hverb : verb ∈ ["rename", "change"])
    (hs : ¬ Mentions ["rename", "change"] s) (ht : t <:+ verb.toList ++ ' ' :: s)
    (hread : renameVerb.Reads t z) : t = verb.toList ++ ' ' :: s ∧ z = ' ' :: s := by
  have hfront : ∀ verb ∈ ["rename", "change"], ∀ u ∈ (verb.toList ++ [' ']).tails,
      ∀ v ∈ renameVerb.leftovers u, u = [] ∨ u = verb.toList ++ [' '] ∧ v = [' '] := by decide
  have htext : verb.toList ++ ' ' :: s = (verb.toList ++ [' ']) ++ s := by simp
  rw [htext] at ht ⊢
  rcases Text.suffix_append_cases ht with hin | ⟨u, hne, hu, rfl⟩
  · have hnone := find?_words_eq_none (by simp) (by decide) hs
    exact absurd hread (find?_eq_none_iff.1 hnone t hin z)
  · have hleft := fun v hv => (hfront verb hverb u ((List.mem_tails u _).2 hu) v hv).resolve_left hne
    rcases hread.leftovers with ⟨v, hv, rfl⟩ | ⟨hv, -⟩
    · obtain ⟨rfl, rfl⟩ := hleft v hv
      exact ⟨rfl, rfl⟩
    · cases (hleft [] hv).2

/-- What is not read behind the verb is found nowhere. -/
theorem find?_renameVerb_eq_none (hverb : verb ∈ ["rename", "change"])
    (hs : ¬ Mentions ["rename", "change"] s) (hp : ∀ z, ¬ p.Reads (' ' :: s) z) :
    (andThen renameVerb p).find? (verb.toList ++ ' ' :: s) = none := by
  rw [find?_eq_none_iff]
  rintro t ht z ⟨z', hread, hrest⟩
  obtain ⟨-, rfl⟩ := reads_renameVerb hverb hs ht hread
  exact hp z hrest

/-- With the name first the pattern for the floor first is not found. -/
theorem find?_renameFloorFirst_eq_none (hverb : verb ∈ ["rename", "change"]) (hne : d ≠ [])
    (hd : ∀ x ∈ d, Text.isDigit x = true)
    (hs : ¬ Mentions ["rename", "change"]
      (kind.noun.toList ++ ' ' :: (d ++ ' ' :: ("to".toList ++ ' ' :: s)))) :
    (renameFloorFirst kind).find? (verb.toList ++ ' ' ::
      (kind.noun.toList ++ ' ' :: (d ++ ' ' :: ("to".toList ++ ' ' :: s)))) = none := by
  refine find?_renameVerb_eq_none hverb hs ?_
  rintro z ⟨_, hgap, _, hword, _, hgap', _, hcount, _, ⟨_, hbefore, _, hin, -⟩, -⟩
  cases eq_of_reads_gap (Text.isBlank_head_append (noun_ne_nil kind) (isBlank_head_noun kind) _) hgap
  cases eq_of_reads_word hword
  cases eq_of_reads_gap (Text.isBlank_head_append hne (Text.isBlank_head_of_digits hd) _) hgap'
  cases eq_of_reads_count (fun x hx => Text.isBlank_of_isDigit (hd x hx)) (by decide) hcount hbefore
  -- Behind the number stands "to" and none of the prepositions.
  cases eq_of_reads_gap (by rintro x ⟨⟩; rfl) hbefore
  exact not_reads_words (by decide) (by decide) hin

end Floorplan.Phrase
