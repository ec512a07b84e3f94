import Floorplan.Proofs.Intent.Clause
import Floorplan.Proofs.Intent.Renaming

set_option autoImplicit false

/-! # What a renaming is not taken for

A renaming of one component is found by the patterns of no other request that go before it: a switch to
another building that is found with the floor first is found with the name first as well
(`Renaming.Plain.switchBuilding?_floorFirst`), and in neither wording is there a renaming of several
components (`Renaming.Plain.bulkRename?_eq_none`) or one of the other kind of component
(`Renaming.Plain.renameComponent?_otherKind`). -/

namespace Floorplan

open Pattern Phrase
open Text (spaced Mentions)

namespace Renaming

variable {r : Renaming} {p : Pattern} {s t z : List Char}

/-! ## No switch -/

/-- The words that a switch begins with. -/
def switchWords : List String := ["switch", "change", "go", "select", "use", "activate", "set"]

theorem exists_switchWord (hp : p ∈ Phrase.switch) (h : p.Reads s z) :
    ∃ w ∈ switchWords, ∃ u v, u.map foldLetter = w.toList ∧ s = u ++ v := by
  have hform : ∃ ws ≠ [], (∀ w ∈ ws, w ∈ switchWords) ∧ ∃ q, p = .andThen (anyWord ws) q := by
    simp only [Phrase.switch, List.mem_cons, List.not_mem_nil, or_false] at hp
    rcases hp with rfl | rfl | rfl
    · exact ⟨["switch", "change", "go"], by decide, by decide, _, rfl⟩
    · exact ⟨["select", "use"], by decide, by decide, _, rfl⟩
    · exact ⟨["activate", "set"], by decide, by decide, _, rfl⟩
  obtain ⟨ws, hne, hws, q, rfl⟩ := hform
  obtain ⟨v, hread, -⟩ := h
  obtain ⟨_, hmem, hread⟩ := (reads_choice (by simpa using hne)).1 hread
  obtain ⟨w, hw, rfl⟩ := List.mem_map.1 hmem
  obtain ⟨u, hu, rfl⟩ := reads_word.1 hread
  have hfold : ∀ w ∈ switchWords, w.toList.map foldLetter = w.toList := by decide
  exact ⟨w, hws w hw, u, v, hu.trans (hfold w (hws w hw)), rfl⟩

theorem isOpen_switch : ∀ p ∈ Phrase.switch, p.isOpen = true := by decide

/-- The fixed pieces are as they are when case does not matter. -/
theorem map_foldLetter_of_fixed (hs : ∀ x ∈ s, x = ' ' ∨ x ∈ alphabet) : s.map foldLetter = s := by
  have hsame : ∀ x ∈ ' ' :: alphabet, foldLetter x = x := by decide
  exact (List.map_congr_left fun x hx => hsame x (List.mem_cons.2 (hs x hx))).trans (List.map_id s)

/-- A switch does not begin in front of the name. -/
theorem not_infix_front {ps : List (List Char)} (hps : ∀ p ∈ ps, IsPiece p) {w : String}
    (hw : w ∈ switchWords) : ¬ w.toList <:+: r.front ps := by
  have hword : ∀ w ∈ switchWords, w.toList ≠ [] ∧ ' ' ∉ w.toList ∧ ¬ w.toList <:+: "rename".toList ∧
      (∀ q ∈ pieceWords, ¬ w.toList <:+: q.toList) ∧ ∃ x ∈ w.toList, x ∉ "0123456789".toList := by
    decide
  obtain ⟨hne, hblank, hverb, hnot, hletter⟩ := hword w hw
  rw [front, Text.infix_spaced_iff hne hblank]
  rintro ⟨p, hp, hocc⟩
  simp only [List.cons_append, List.mem_cons, List.mem_append, List.not_mem_nil, or_false] at hp
  rcases hp with rfl | (hp | hp) | rfl
  · exact hverb hocc
  · exact not_infix_of_isPiece hnot hletter (isPiece_of_mem_what hp) hocc
  · exact not_infix_of_isPiece hnot hletter (hps p hp) hocc
  · exact hnot "to" (by decide) hocc

/-- A switch that is read in a text is read in the name or behind it. -/
theorem suffix_of_reads_switch {ps : List (List Char)} (hps : ∀ p ∈ ps, IsPiece p)
    (hp : p ∈ Phrase.switch) (ht : t <:+ r.front ps ++ ' ' :: s) (h : p.Reads t z) : t <:+ s := by
  obtain ⟨w, hw, u, v, hu, rfl⟩ := exists_switchWord hp h
  have hword : ∀ w ∈ switchWords, w.toList ≠ [] ∧ ' ' ∉ w.toList := by decide
  obtain ⟨hne, hblank⟩ := hword w hw
  rcases Text.suffix_append_cases ht with hsuffix | ⟨f, -, hfront, hf⟩
  · rcases List.suffix_cons_iff.1 hsuffix with heq | hsuffix
    · -- The word would begin with the blank.
      refine absurd ?_ hblank
      cases u with
      | nil => exact absurd hu.symm hne
      | cons x u =>
        obtain ⟨rfl, -⟩ := List.cons.inj heq
        rw [← hu]
        exact List.mem_cons_self
    · exact hsuffix
  · -- The word would be one of the fixed pieces.
    refine absurd ?_ (not_infix_front (r := r) hps hw)
    have hfixed : f.map foldLetter = f :=
      map_foldLetter_of_fixed fun x hx => fixed_front hps x (hfront.subset hx)
    have hprefix : w.toList <+: f ++ ' ' :: s.map foldLetter := by
      have hmap := congrArg (List.map foldLetter) hf.symm
      rw [List.map_append, List.map_append, hfixed, hu] at hmap
      exact ⟨_, hmap.symm⟩
    exact (Text.prefix_of_prefix_append_cons hblank hprefix).isInfix.trans hfront.isInfix

/-- A switch that is found with the floor first is found with the name first. -/
theorem Plain.find?_switch (h : r.Plain) (hp : p ∈ Phrase.switch)
    (hnone : p.find? r.nameFirst.toList = none) : p.find? r.floorFirst.toList = none := by
  by_contra hfound
  obtain ⟨t, z, ht, hread⟩ := find?_ne_none_iff.1 hfound
  rw [floorFirst_eq] at ht
  have hname := suffix_of_reads_switch (fun _ => h.isPiece_of_mem_place) hp ht hread
  -- The name stands in the other text too, with the floor behind it.
  have hsuffix : t ++ ' ' :: spaced r.place <:+ r.nameFirst.toList := by
    obtain ⟨f, hf⟩ := hname
    rw [nameFirst_eq, ← hf]
    exact ⟨r.front [] ++ ' ' :: f, by simp⟩
  exact find?_eq_none_iff.1 hnone _ hsuffix _ (hread.append (isOpen_switch p hp) _)

theorem switchBuilding?_of_find? (h : ∀ p ∈ Phrase.switch, p.find? s = none) :
    Intent.switchBuilding? s = none := by
  rw [Intent.switchBuilding?, Intent.firstName?_of_find? h]
  rfl

/-- In a text without quotes that does not end in white space every switch that is found has a name. -/
theorem find?_of_switchBuilding? (hs : ∀ x ∈ s, Unquoted x)
    (hlast : ∃ x, s.getLast? = some x ∧ Text.isBlank x = false)
    (hnone : Intent.switchBuilding? s = none) (hp : p ∈ Phrase.switch) : p.find? s = none := by
  have hform : ∃ ps, p = Pattern.sequence (ps ++ [quotableName 1]) := by
    simp only [Phrase.switch, List.mem_cons, List.not_mem_nil, or_false] at hp
    rcases hp with rfl | rfl | rfl
    · exact ⟨[_, _, _], rfl⟩
    · exact ⟨[_, _, _], rfl⟩
    · exact ⟨[_, _, _], rfl⟩
  have hunnamed : (p.find? s).bind (·.name? 1) = none := by
    have hfirst := Option.map_eq_none_iff.1 hnone
    exact List.findSome?_eq_none_iff.1 hfirst p hp
  cases hfind : p.find? s with
  | none => rfl
  | some m =>
    obtain ⟨ps, rfl⟩ := hform
    obtain ⟨hstart, hways⟩ := exists_of_find? hfind
    obtain ⟨l, hl, hleads⟩ := Leads.exists_of_sequence hways
    have hsuffix : l.rest <:+ s := hl.trans hstart
    obtain ⟨x, hx, hblank⟩ := hlast
    have hne : l.rest ≠ [] := by
      intro hnil
      obtain ⟨t, hquote, z, ⟨_, ⟨y, -, hy⟩, -⟩, -⟩ := hleads.reads
      have ht := hquote.suffix
      rw [hnil, hy] at ht
      cases List.suffix_nil.1 ht
    have hmem : x ∈ l.rest := by
      obtain ⟨f, rfl⟩ := hsuffix
      rw [List.getLast?_append_of_ne_nil _ hne] at hx
      exact List.mem_of_getLast? hx
    have hall := leads_quotableName (g := l.groups) 1 hne fun y hy => hs y (hsuffix.subset hy)
    have hgroups : m.groups = (1, l.rest, []) :: l.groups :=
      congrArg Cursor.groups (Option.some.inj (hleads.symm.trans hall))
    have hname := Match.name?_eq_some (m := m) (i := 1) |>.2
      ⟨l.rest, by simp [Match.group?, hgroups, Match.between],
        List.ne_nil_of_mem (Text.mem_trimChars hmem hblank), rfl⟩
    rw [hfind, Option.bind_some, hname] at hunnamed
    cases hunnamed

theorem Plain.unquoted_nameFirst (h : r.Plain) : ∀ x ∈ r.nameFirst.toList, Unquoted x := by
  have hfixed : ∀ x ∈ ' ' :: alphabet, Unquoted x := by decide
  intro x hx
  rw [nameFirst_eq] at hx
  simp only [List.mem_append, List.mem_cons] at hx
  rcases hx with hx | rfl | hx | rfl | hx
  · exact hfixed x (List.mem_cons.2 (fixed_front (by simp) x hx))
  · exact hfixed _ List.mem_cons_self
  · exact h.name_unquoted x hx
  · exact hfixed _ List.mem_cons_self
  · exact hfixed x (List.mem_cons.2 (h.fixed_place x hx))

theorem isBlank_of_mem_alphabet : ∀ x ∈ alphabet, Text.isBlank x = false := by decide

theorem getLast?_nameFirst (r : Renaming) :
    ∃ x, r.nameFirst.toList.getLast? = some x ∧ Text.isBlank x = false := by
  have hne : Nat.toDigits 10 r.floor ≠ [] := List.length_pos_iff.1 Nat.length_toDigits_pos
  have hlast := List.getLast_mem hne
  refine ⟨_, ?_, isBlank_of_mem_alphabet _ (mem_alphabet_of_isPiece (Or.inr ⟨r.floor, rfl⟩) _ hlast)⟩
  have hsplit : r.nameFirst.toList = r.front [] ++ ' ' :: (r.name.toList ++ ' ' ::
      (r.preposition.toList ++ " floor ".toList)) ++ Nat.toDigits 10 r.floor := by
    simp [nameFirst_eq, place, spaced]
  rw [hsplit, List.getLast?_append_of_ne_nil _ hne, List.getLast?_eq_getLast_of_ne_nil hne]

/-- If the text with the name first is no switch, neither is the other. -/
theorem Plain.switchBuilding?_floorFirst (h : r.Plain)
    (hnone : Intent.switchBuilding? r.nameFirst.toList = none) :
    Intent.switchBuilding? r.floorFirst.toList = none :=
  switchBuilding?_of_find? fun _ hp => h.find?_switch hp
    (find?_of_switchBuilding? h.unquoted_nameFirst r.getLast?_nameFirst hnone hp)

/-! ## No other renaming -/

theorem spaced_what {ps : List (List Char)} (hne : ps ≠ []) : spaced (r.what ++ ps)
    = r.kind.noun.toList ++ ' ' :: (Nat.toDigits 10 r.index ++ ' ' :: spaced ps) := by
  rw [what, List.cons_append, Text.spaced_cons _ (by simp), List.cons_append,
    Text.spaced_cons _ (by simpa using hne), List.nil_append]

theorem Plain.pieces_floorFirst (h : r.Plain) :
    ∀ p ∈ r.place ++ ["to".toList, r.name.toList], IsPiece p ∨ p = r.name.toList := by
  intro p hp
  simp only [List.mem_append, List.mem_cons, List.not_mem_nil, or_false] at hp
  rcases hp with hp | rfl | rfl
  · exact Or.inl (h.isPiece_of_mem_place hp)
  · exact Or.inl (Or.inl ⟨"to", by decide, rfl⟩)
  · exact Or.inr rfl

theorem Plain.pieces_nameFirst (h : r.Plain) :
    ∀ p ∈ ["to".toList, r.name.toList] ++ r.place, IsPiece p ∨ p = r.name.toList := by
  intro p hp
  exact h.pieces_floorFirst p (List.perm_append_comm.mem_iff.1 hp)

/-- What is not read behind the verb is found nowhere. -/
theorem Plain.find?_renameVerb (h : r.Plain) {ps : List (List Char)}
    (hps : ∀ p ∈ ps, IsPiece p ∨ p = r.name.toList)
    (hp : ∀ z, ¬ p.Reads (' ' :: spaced (r.what ++ ps)) z) :
    (andThen renameVerb p).find? ("rename ".toList ++ spaced (r.what ++ ps)) = none := by
  have hverb : "rename" ∈ ["rename", "change"] := by decide
  refine find?_renameVerb_eq_none hverb (h.no_verb fun q hq => ?_) hp
  rcases List.mem_append.1 hq with hq | hq
  · exact Or.inl (isPiece_of_mem_what hq)
  · exact hps q hq

/-- The renaming speaks of one component and not of all. -/
theorem Plain.find?_bulk (h : r.Plain) {ps : List (List Char)} (hne : ps ≠ [])
    (hps : ∀ p ∈ ps, IsPiece p ∨ p = r.name.toList) (q : Pattern) :
    (andThen renameVerb (andThen (between ["all"]) q)).find?
      ("rename ".toList ++ spaced (r.what ++ ps)) = none := by
  refine h.find?_renameVerb hps ?_
  rintro z ⟨_, ⟨_, hgap, _, hword, -⟩, -⟩
  rw [spaced_what hne] at hgap
  cases eq_of_reads_gap (Text.isBlank_head_append (noun_ne_nil r.kind) (isBlank_head_noun r.kind) _) hgap
  revert hword
  cases r.kind
  · exact not_reads_words (by decide) (by decide)
  · exact not_reads_words (by decide) (by decide)

theorem Plain.bulkRename?_eq_none (h : r.Plain) {ps : List (List Char)} (hne : ps ≠ [])
    (hps : ∀ p ∈ ps, IsPiece p ∨ p = r.name.toList) :
    Intent.bulkRename? ("rename ".toList ++ spaced (r.what ++ ps)) = none := by
  have hfloors : bulkFloors.find? ("rename ".toList ++ spaced (r.what ++ ps)) = none :=
    h.find?_bulk hne hps _
  have hcomponents : ∀ kind,
      (bulkComponents kind).find? ("rename ".toList ++ spaced (r.what ++ ps)) = none :=
    fun kind => h.find?_bulk hne hps _
  simp only [Intent.bulkRename?, hfloors, hcomponents, Option.bind_none, ite_self]

/-- The renaming does not speak of the other kind of component. -/
theorem Plain.find?_otherKind (h : r.Plain) {ps : List (List Char)} (hne : ps ≠ [])
    (hps : ∀ p ∈ ps, IsPiece p ∨ p = r.name.toList) {kind : ComponentKind} (hkind : kind ≠ r.kind)
    (q : Pattern) :
    (andThen renameVerb (andThen gap (andThen (word kind.noun) q))).find?
      ("rename ".toList ++ spaced (r.what ++ ps)) = none := by
  refine h.find?_renameVerb hps ?_
  rintro z ⟨_, hgap, _, hword, -⟩
  rw [spaced_what hne] at hgap
  cases eq_of_reads_gap (Text.isBlank_head_append (noun_ne_nil r.kind) (isBlank_head_noun r.kind) _) hgap
  have hword : (anyWord [kind.noun]).Reads _ _ := hword
  revert hword hkind
  cases kind <;> cases r.kind <;> intro hkind
  · exact absurd rfl hkind
  · exact not_reads_words (by decide) (by decide)
  · exact not_reads_words (by decide) (by decide)
  · exact absurd rfl hkind

theorem Plain.renameComponent?_otherKind (h : r.Plain) {ps : List (List Char)} (hne : ps ≠ [])
    (hps : ∀ p ∈ ps, IsPiece p ∨ p = r.name.toList) {kind : ComponentKind} (hkind : kind ≠ r.kind) :
    Intent.renameComponent? kind ("rename ".toList ++ spaced (r.what ++ ps)) = none := by
  have hfirst : (renameFloorFirst kind).find? ("rename ".toList ++ spaced (r.what ++ ps)) = none :=
    h.find?_otherKind hne hps hkind _
  have hsecond : (renameNameFirst kind).find? ("rename ".toList ++ spaced (r.what ++ ps)) = none :=
    h.find?_otherKind hne hps hkind _
  simp only [Intent.renameComponent?, hfirst, hsecond]
  rfl

end Renaming

end Floorplan
