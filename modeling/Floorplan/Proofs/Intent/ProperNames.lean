import Floorplan.Proofs.Building.ProperNames
import Floorplan.Proofs.Intent.Named
import Floorplan.Proofs.Intent.Words

set_option autoImplicit false

/-! # Lines of text give proper names

A name that stands in a line of text is stripped of the white space around it, and if nothing is left the
line is not taken for one that gives a name. In a list of names nothing may be left of a name; then
nothing is renamed. So whatever a line of text does, every name is proper that was not there before
(`dispatch_names_arise`). -/

namespace Floorplan

variable {clock : Clock} {s s' : Stamps} {b b' : Building}

theorem NameOf.properName {f : Char → Prop} {t : List Char} {n : String} (h : NameOf f t n) :
    ProperName n :=
  ⟨h.ne_nil, h.trimmed⟩

namespace Intent

variable {intent : Intent} {c : Collection} {o : Outcome} {reply : Reply}

/-! ## The names in a line -/

/-- The names that an intent gives. In a list, an empty name gives none. -/
def newNames : Intent → List String
  | bulkRename _ names => names.filter fun n => !n.isEmpty
  | renameComponent _ _ _ name => [name]
  | renameFloor _ name => [name]
  | renameBuilding name => [name]
  | createBuilding spec => [spec.name.getD defaultName]
  | _ => []

theorem properName_of_mem_bracketNames {t : List Char} {n : String} (h : n ∈ bracketNames t)
    (hne : n.isEmpty = false) : ProperName n := by
  constructor
  · intro hnil
    rw [String.toList_eq_nil_iff.1 hnil] at hne
    cases hne
  · obtain ⟨piece, -, rfl⟩ := List.mem_map.1 h
    rw [String.toList_ofList]
    exact Text.trimmed_trimChars _

theorem exists_of_bulkComponents? {kind : ComponentKind} {m : Match} {i : Intent}
    (h : bulkComponents? kind m = some i) :
    ∃ target t, i = .bulkRename target (bracketNames t) := by
  simp only [bulkComponents?, Option.bind_eq_bind, Option.bind_eq_some_iff] at h
  obtain ⟨floor, -, t, -, h⟩ := h
  cases h
  exact ⟨_, t, rfl⟩

theorem exists_of_bulkRename? {t : List Char} {i : Intent} (h : bulkRename? t = some i) :
    ∃ target t, i = .bulkRename target (bracketNames t) := by
  obtain ⟨-, h⟩ := Option.ite_none_right_eq_some.1 h
  split at h
  · obtain ⟨t, -, rfl⟩ := Option.map_eq_some_iff.1 h
    exact ⟨_, t, rfl⟩
  · split at h
    · exact exists_of_bulkComponents? h
    · obtain ⟨m, -, h⟩ := Option.bind_eq_some_iff.1 h
      exact exists_of_bulkComponents? h

/-- **The names that a line of text gives are proper.** -/
theorem parse?_properName {text : String} {hasActive : Bool} {f : Family}
    (h : parse? text hasActive = some (f, intent)) : ∀ n ∈ intent.newNames, ProperName n := by
  have hrecognized := recognize?_of_parse? h
  have hfamily := family_of_recognize? hrecognized
  -- The names of buildings are known to be more than proper.
  have hgiven : ∀ n, intent.givenName? = some n → ProperName n := fun n hn =>
    have hn := parse?_nameable h hn
    ⟨hn.ne_nil, hn.trimmed⟩
  cases intent with
  | bulkRename target names =>
    subst hfamily
    obtain ⟨_, t, heq⟩ := exists_of_bulkRename? hrecognized
    cases heq
    intro n hn
    obtain ⟨hmem, hne⟩ := List.mem_filter.1 hn
    exact properName_of_mem_bracketNames hmem (by simpa using hne)
  | renameComponent kind floor index name =>
    cases kind <;>
      · subst hfamily
        exact List.forall_mem_singleton.2 ((nameOf_of_renameComponent? hrecognized).properName)
  | renameFloor floor name =>
    subst hfamily
    exact List.forall_mem_singleton.2 ((nameOf_of_renameFloor? hrecognized).properName)
  | renameBuilding name => exact List.forall_mem_singleton.2 (hgiven name rfl)
  | createBuilding spec => exact List.forall_mem_singleton.2 (hgiven _ rfl)
  | _ => exact fun _ hn => nomatch hn

/-! ## What an intent does to names -/

variable {kind : ComponentKind}

theorem names_arise_appendEverywhere (b : Building) (kind : ComponentKind) (count : Nat)
    (clock : Clock) (s : Stamps) :
    Arises ProperName Eq b.allNames (appendEverywhere b kind count clock s).1.allNames := by
  refine Building.names_arise (.inl rfl) (.flatMap fun g hg => Or.inr ?_)
  obtain ⟨f, hf, s', rfl⟩ := exists_of_mem_appendToEach hg
  exact ⟨f, hf, f.names_arise_appendComponents kind count clock s'⟩

theorem names_arise_growFloors {count : Option Nat} {said : List String}
    (h : growFloors b count clock s = ((b', said), s')) :
    Arises ProperName Eq b.allNames b'.allNames := by
  unfold growFloors at h
  split at h
  · cases h
    exact .refl (fun _ => rfl) _
  · rename_i n _
    cases h
    exact b.names_arise_appendFloors n clock s

theorem names_arise_growComponents {count : Option Nat} {said : List String}
    (h : growComponents b kind count clock s = ((b', said), s')) :
    Arises ProperName Eq b.allNames b'.allNames := by
  unfold growComponents at h
  split at h
  · cases h
    exact .refl (fun _ => rfl) _
  · rename_i n _
    cases h
    exact names_arise_appendEverywhere b kind n clock s

/-- After renaming by position, an item was there before or was given one of the names. -/
theorem of_mem_renamePositional {α : Type} {setName : α → String → α} {items : List α}
    {names : List String} {a : α} (h : a ∈ renamePositional setName items names) :
    a ∈ items ∨ ∃ a' ∈ items, ∃ n ∈ names.filter fun n => !n.isEmpty, setName a' n = a := by
  obtain ⟨i, hi⟩ := List.mem_iff_getElem?.1 h
  rw [getElem?_renamePositional, Option.map_eq_some_iff] at hi
  obtain ⟨a', ha', rfl⟩ := hi
  have hmem := List.mem_of_getElem? ha'
  cases hn : nameAt? names i with
  | none => exact .inl hmem
  | some n =>
    obtain ⟨hn, hne⟩ := Option.filter_eq_some_iff.1 hn
    exact .inr ⟨a', hmem, n, List.mem_filter.2 ⟨List.mem_of_getElem? hn, hne⟩, rfl⟩

theorem of_mem_modify {α : Type} {edit : α → α} {items : List α} {slot : Nat} {a : α}
    (h : a ∈ items.modify slot edit) : a ∈ items ∨ ∃ a' ∈ items, edit a' = a := by
  obtain ⟨i, hi⟩ := List.mem_iff_getElem?.1 h
  rw [List.getElem?_modify, Option.map_eq_map, Option.map_eq_some_iff] at hi
  obtain ⟨a', ha', rfl⟩ := hi
  have hmem := List.mem_of_getElem? ha'
  split
  · exact .inr ⟨a', hmem, rfl⟩
  · exact .inl hmem

section Named

variable {f : Floor} {names : List String}

theorem names_arise_renamedOn (hnames : ∀ n ∈ names.filter fun n => !n.isEmpty, ProperName n) :
    Arises ProperName Eq f.allNames (renamedOn kind f names).allNames := by
  cases kind with
  | restroom =>
    refine Floor.names_arise_restrooms fun r hr => ?_
    rcases of_mem_renamePositional hr with hr | ⟨_, -, n, hn, rfl⟩
    · exact .inr ⟨r, hr, rfl⟩
    · exact .inl (hnames n hn)
  | corridor =>
    refine Floor.names_arise_corridors fun c hc => ?_
    rcases of_mem_renamePositional hc with hc | ⟨_, -, n, hn, rfl⟩
    · exact .inr ⟨c, hc, rfl⟩
    · exact .inl (hnames n hn)

theorem names_arise_renamedAt {name : String} (hname : ProperName name) (slot : Nat) :
    Arises ProperName Eq f.allNames (renamedAt kind slot name f).allNames := by
  cases kind with
  | restroom =>
    refine Floor.names_arise_restrooms fun r hr => ?_
    rcases of_mem_modify hr with hr | ⟨_, -, rfl⟩
    · exact .inr ⟨r, hr, rfl⟩
    · exact .inl hname
  | corridor =>
    refine Floor.names_arise_corridors fun c hc => ?_
    rcases of_mem_modify hc with hc | ⟨_, -, rfl⟩
    · exact .inr ⟨c, hc, rfl⟩
    · exact .inl hname

end Named

/-- **Where the names come from after an intent**, if those that it gives are proper. -/
theorem Turns.names_arise (h : Turns clock b s intent b' reply s')
    (hnames : ∀ n ∈ intent.newNames, ProperName n) :
    Arises ProperName Eq b.allNames b'.allNames := by
  cases h with
  | nameFloors names floors hfloors =>
    subst hfloors
    refine Building.names_arise (.inl rfl) (.flatMap fun g hg => .inr ?_)
    rcases of_mem_renamePositional hg with hg | ⟨f, hf, n, hn, rfl⟩
    · exact ⟨g, hg, .refl (fun _ => rfl) _⟩
    · exact ⟨f, hf, f.names_arise_named (hnames n hn)⟩
  | @nameComponents f kind floor names hf =>
    -- The first floor of the number takes the place of all of them, with its names.
    refine Building.names_arise (.inl rfl) (.map_floors (fun _ => rfl) fun _ _ _ => ?_)
    exact ⟨f, List.mem_of_find?_eq_some hf, names_arise_renamedOn hnames⟩
  | nameComponent kind floor index name =>
    refine Building.names_arise (.inl rfl) (.map_floors (fun _ => rfl) fun f hf _ => ⟨f, hf, ?_⟩)
    exact names_arise_renamedAt (hnames name (List.mem_singleton_self name)) (index - 1)
  | nameFloor floor name =>
    refine Building.names_arise (.inl rfl) (.map_floors (fun _ => rfl) fun f hf _ => ⟨f, hf, ?_⟩)
    exact f.names_arise_named (hnames name (List.mem_singleton_self name))
  | nameBuilding name =>
    exact Building.names_arise (.inr (hnames name (List.mem_singleton_self name)))
      (.refl (fun _ => rfl) _)
  | addFloors count => exact b.names_arise_appendFloors count clock s
  | addEverywhere kind count => exact names_arise_appendEverywhere b kind count clock s
  | @addOnFloor f kind count floor hf =>
    refine Building.names_arise (.inl rfl) (.map_floors (fun _ => rfl) fun _ _ _ => ?_)
    exact ⟨f, List.mem_of_find?_eq_some hf, f.names_arise_appendComponents kind count clock s⟩
  | addMultiple counts hfloors hrestrooms hcorridors =>
    have hwider := (names_arise_growFloors hfloors).trans_eq (names_arise_growComponents hrestrooms)
    exact hwider.trans_eq (names_arise_growComponents hcorridors)
  | removeFloors count kept hpos hkept =>
    refine b.names_arise_renumber _ fun f hf => ?_
    rw [hkept] at hf
    exact (List.mergeSort_perm _ _).mem_iff.1 (List.mem_of_mem_take hf)

theorem apply_names_arise (h : intent.apply c clock s = .ok (o, s'))
    (hnames : ∀ n ∈ intent.newNames, ProperName n) :
    Arises ProperName Eq c.allNames (o.collection.getD c).allNames := by
  cases apply_effect h with
  | answered => exact .refl (fun _ => rfl) _
  | switched => exact .refl (fun _ => rfl) _
  | created _ _ hb =>
    subst hb
    have hname := hnames _ (List.mem_singleton_self _)
    exact .withNewActive (fun _ => rfl) c (Building.properName_generate _ hname _ _ _ _)
  | turned hb hturns =>
    exact .withBuilding (fun _ => rfl) (Collection.mem_of_active? hb) (hturns.names_arise hnames)

end Intent

/-- **Where the names come from after a line of text.** -/
theorem dispatch_names_arise {c : Collection} {text : String} {o : Outcome}
    (h : dispatch c text clock s = .ok (o, s')) :
    Arises ProperName Eq c.allNames (o.collection.getD c).allNames := by
  unfold dispatch at h
  split at h
  · exact Intent.apply_names_arise h (Intent.parse?_properName ‹_›)
  · cases h
    exact .refl (fun _ => rfl) _

end Floorplan
