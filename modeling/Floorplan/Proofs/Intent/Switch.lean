import Floorplan.Proofs.Building.Lookup
import Floorplan.Proofs.Intent.Named

set_option autoImplicit false

/-! # Switching to a building by the name it was given

A name that a building can have been given is put behind "Switch to". The text is not taken for anything
but a switch, and all of the name is read, except that the word "building" in front of it is taken for
a word of the request. So the building is found if and only if its name does not begin with that word
(`reaches_switchTo_iff`). -/

namespace Floorplan

open Pattern
open Phrase (Unquoted)

variable {s : List Char}

/-! ## The request in front of the name -/

namespace Intent

theorem Quiet.switchTo (h : Quiet s) : Quiet ("Switch to ".toList ++ s) := by
  refine ⟨fun hhelp => h.help (hhelp.imp ?_ ?_), fun hlist => h.listing (hlist.imp ?_ ?_),
    fun hshow => h.showing (.of_append ?_ ?_ hshow)⟩
  · exact .of_append (by decide) (by decide)
  · exact .of_append (by decide) (by decide)
  · exact .of_append (by decide) (by decide)
  · exact .of_append (by decide) (by decide)
  · decide
  · decide

/-- The text begins with the word "building" and white space behind it. -/
def startsWithBuilding (s : List Char) : Bool := (Pattern.sequence [word "building", gap]).startsText s

/-! ## Reading the name -/

variable {g : List (Nat × List Char × List Char)} {n m : String}

/-- Behind "Switch to" the name is read after the word "building" has been, if it is there. -/
theorem switchBuilding?_eq (hn : Text.Trimmed n.toList)
    (hword : (Phrase.optionalWord "building").Leads ⟨n.toList, []⟩ ⟨m.toList, []⟩)
    (hne : m.toList ≠ []) (hm : Text.Trimmed m.toList) (hunquoted : ∀ x ∈ m.toList, Unquoted x) :
    switchBuilding? ("Switch to " ++ n).toList = some (.switchBuilding m) := by
  have hverb : (Phrase.anyWord ["switch", "change", "go"]).Leads
      ⟨"Switch to ".toList ++ n.toList, []⟩ ⟨" to ".toList ++ n.toList, []⟩ := rfl
  have hbetween : (Phrase.between ["to"]).Leads ⟨" to ".toList ++ n.toList, []⟩ ⟨n.toList, []⟩ := by
    have h := Phrase.leads_to (g := []) n.toList
    rwa [hn.trimLeft_eq] at h
  have hfind := (hverb.andThen (hbetween.andThen (hword.andThen
    ((Phrase.leads_quotableName 1 hne hunquoted).andThen (leads_nothing _))))).find?_eq
  have hname : ∀ t, Match.name? ⟨t, [], [(1, m.toList, [])]⟩ 1 = some m := by
    intro t
    refine Match.name?_eq_some.2 ⟨m.toList, ?_, ?_, ?_⟩
    · simp [Match.group?, Match.between]
    · rwa [hm.trimChars_eq]
    · rw [hm.trimChars_eq, String.ofList_toList]
  have hfirst : firstName? Phrase.switch ("Switch to " ++ n).toList = some m := by
    rw [String.toList_append]
    exact firstName?_eq_some (List.forall_mem_nil _) hfind (hname _)
  rw [switchBuilding?, hfirst]
  rfl

theorem leads_optionalWord_of_not (h : startsWithBuilding s = false) :
    (Phrase.optionalWord "building").Leads ⟨s, g⟩ ⟨s, g⟩ := by
  refine Leads.orElse_right (fun r hr => ?_) (leads_nothing _)
  have hstarts : startsWithBuilding s = true := startsText_iff.2 ⟨r, hr⟩
  rw [h] at hstarts
  cases hstarts

/-- The word "building" is taken away from the front of a name, and a shorter name is left. -/
theorem exists_leads_optionalWord (h : startsWithBuilding s = true) (hs : Text.Trimmed s) :
    ∃ v t, s = v ++ t ∧ v ≠ [] ∧ t ≠ [] ∧ Text.Trimmed t ∧
      (Phrase.optionalWord "building").Leads ⟨s, []⟩ ⟨t, []⟩ := by
  obtain ⟨r, _, hword, r', hgap, rfl⟩ := startsText_iff.1 h
  obtain ⟨u, hu, rfl⟩ := reads_word.1 hword
  obtain ⟨x, w, hblank, rfl⟩ := reads_gap.1 hgap
  have hx := hblank x List.mem_cons_self
  have hsplit : u ++ (x :: w ++ r)
      = (u ++ x :: (w ++ r).takeWhile Text.isBlank) ++ Text.trimLeft (w ++ r) := by
    simp [Text.trimLeft]
  have hlast : Text.trimLeft (w ++ r) ≠ [] := by
    intro hnil
    -- The last character of the name is not white space, so it stands behind the gap.
    have hc : Text.isBlank ((x :: (w ++ r)).getLast (List.cons_ne_nil _ _)) = false := by
      refine hs.last _ ?_
      rw [List.cons_append, List.getLast?_append_of_ne_nil _ (List.cons_ne_nil _ _),
        List.getLast?_eq_getLast_of_ne_nil (List.cons_ne_nil _ _)]
      rfl
    rcases List.mem_cons.1 (List.getLast_mem (List.cons_ne_nil x (w ++ r))) with heq | hmem
    · rw [heq, hx] at hc
      cases hc
    · have hleft := Text.mem_trimLeft hmem hc
      rw [hnil] at hleft
      cases hleft
  refine ⟨_, _, hsplit, by simp, hlast, ⟨Text.head_trimLeft _, fun c hc => hs.last c ?_⟩, ?_⟩
  · rw [hsplit, List.getLast?_append_of_ne_nil _ hlast]
    exact hc
  · exact Leads.orElse ((leads_word hu _).andThen ((leads_gap hx (w ++ r)).andThen (leads_nothing _)))

/-! ## What the request is taken for -/

theorem parse?_switchTo (hn : Nameable n) {hasActive : Bool}
    (h : switchBuilding? ("Switch to " ++ n).toList = some (.switchBuilding m)) :
    parse? ("Switch to " ++ n) hasActive = some (.switchBuilding, .switchBuilding m) := by
  have hquiet := hn.quiet.switchTo
  rw [← String.toList_append] at hquiet
  have hhelp := showCommands?_eq_none_iff.2 hquiet.help
  have hlist : listBuildings? ("Switch to " ++ n).toList = none := by
    refine listBuildings?_eq_none_iff.2 ⟨hquiet.listing, ?_, hquiet.showing⟩
    rw [String.toList_append]
    exact Text.lowerChars_append_ne (by decide) (by decide) (by decide) n.toList
  rw [parse?_eq, hhelp, hlist, h]
  rfl

variable {c : Collection} {b : Building} {clock : Clock} {stamps : Stamps}

theorem dispatch_switchTo (hn : Nameable n)
    (h : switchBuilding? ("Switch to " ++ n).toList = some (.switchBuilding m)) (c : Collection)
    (clock : Clock) (stamps : Stamps) :
    dispatch c ("Switch to " ++ n) clock stamps = .ok (switchTo c m, stamps) := by
  unfold dispatch
  rw [parse?_switchTo hn h]
  rfl

/-- A name that does not begin with the word "building" is looked up as it is. -/
theorem dispatch_switchTo_of_not (hn : Nameable n) (h : startsWithBuilding n.toList = false)
    (c : Collection) (clock : Clock) (stamps : Stamps) :
    dispatch c ("Switch to " ++ n) clock stamps = .ok (switchTo c n, stamps) :=
  dispatch_switchTo hn (switchBuilding?_eq hn.trimmed (leads_optionalWord_of_not h) hn.ne_nil
    hn.trimmed hn.unquoted) c clock stamps

/-- Of a name that begins with the word "building" only what stands behind it is looked up, and no
    building of that name has the whole name. -/
theorem exists_dispatch_switchTo (hn : Nameable n) (h : startsWithBuilding n.toList = true)
    (c : Collection) (clock : Clock) (stamps : Stamps) :
    ∃ m, dispatch c ("Switch to " ++ n) clock stamps = .ok (switchTo c m, stamps) ∧
      Text.lower m ≠ Text.lower n := by
  obtain ⟨v, t, hsplit, hv, ht, htrim, hleads⟩ := exists_leads_optionalWord h hn.trimmed
  have hm : (String.ofList t).toList = t := String.toList_ofList
  refine ⟨String.ofList t, dispatch_switchTo hn (switchBuilding?_eq hn.trimmed ?_ ?_ ?_ ?_) c clock
    stamps, fun heq => ?_⟩
  · rwa [hm]
  · rwa [hm]
  · rwa [hm]
  · intro x hx
    rw [hm] at hx
    exact hn.unquoted x (hsplit ▸ List.mem_append_right v hx)
  · have hlower : Text.lowerChars t = Text.lowerChars n.toList := by
      simpa [Text.lower] using congrArg String.toList heq
    have hlt := Text.length_lowerChars_lt hv t
    rw [← hsplit, ← hlower] at hlt
    exact lt_irrefl _ hlt

/-- Switching to a name makes the first building active that has it. -/
theorem active?_switchTo (hids : (c.buildings.map (·.id)).Nodup) (h : c.findByName? m = some b) :
    ∃ c', (switchTo c m).collection = some c' ∧ c'.active? = some b := by
  refine ⟨{ c with activeId := some b.id }, ?_, ?_⟩
  · simp only [switchTo, h]
  · exact Collection.active?_of_mem hids rfl (List.mem_of_find?_eq_some h)

/-- The request makes a building active whose name is the given one but for case. -/
def Reaches (c : Collection) (text name : String) (clock : Clock) (stamps : Stamps) : Prop :=
  ∃ o stamps' c' b, dispatch c text clock stamps = .ok (o, stamps') ∧ o.collection = some c' ∧
    c'.active? = some b ∧ Text.lower b.name = Text.lower name

/-- **A building is reached by the name it was given** if and only if the name does not begin with the
    word "building". -/
theorem reaches_switchTo_iff (hids : (c.buildings.map (·.id)).Nodup) (hb : b ∈ c.buildings)
    (hn : Nameable b.name) (clock : Clock) (stamps : Stamps) :
    Reaches c ("Switch to " ++ b.name) b.name clock stamps
      ↔ startsWithBuilding b.name.toList = false := by
  cases h : startsWithBuilding b.name.toList with
  | false =>
    refine iff_of_true ?_ rfl
    have hsome : (c.findByName? b.name).isSome := by
      rw [Collection.findByName?, List.find?_isSome]
      exact ⟨b, hb, by simp⟩
    obtain ⟨x, hx⟩ := Option.isSome_iff_exists.1 hsome
    obtain ⟨c', hc', hactive⟩ := active?_switchTo hids hx
    exact ⟨_, _, c', x, dispatch_switchTo_of_not hn h c clock stamps, hc', hactive,
      by simpa using List.find?_some hx⟩
  | true =>
    refine iff_of_false ?_ (by simp)
    rintro ⟨o, stamps', c', x, hdispatch, hc', hactive, hname⟩
    obtain ⟨m, hm, hne⟩ := exists_dispatch_switchTo hn h c clock stamps
    cases hdispatch.symm.trans hm
    cases hfound : c.findByName? m with
    | none => simp [switchTo, hfound, unchanged] at hc'
    | some y =>
      obtain ⟨c'', hc'', hactive'⟩ := active?_switchTo hids hfound
      cases hc'.symm.trans hc''
      cases hactive.symm.trans hactive'
      have hy : Text.lower x.name = Text.lower m := by simpa using List.find?_some hfound
      exact hne (hy.symm.trans hname)

end Intent

end Floorplan
