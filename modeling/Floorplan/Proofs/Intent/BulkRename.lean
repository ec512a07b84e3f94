import Floorplan.Proofs.Intent.BulkRequest
import Floorplan.Proofs.Intent.Rename
import Floorplan.Proofs.Intent.Sequence

set_option autoImplicit false

/-! # Names in order

Names are given to floors, or to the components of a floor, by position: the first to the first and so on,
where an empty name leaves its item as it is, and items or names for which there is no partner are left
over (`Intent.NamedInOrder`). Where ids and numbers are distinct the active building and the floor of the
number are the only ones that are different afterwards. The main result is
`Intent.bulkRename_positional`, which begins with the text of the request. -/

namespace Floorplan

variable {names : List String} {c : Collection} {b b' : Building} {f f' : Floor} {n : Nat}

/-- The collection with a building in the place of another, and all else as it is. -/
def Collection.replaced (c : Collection) (b b' : Building) : Collection :=
  { c with buildings := c.buildings.map fun x => if x = b then b' else x }

/-- The building with a floor in the place of another, and all else as it is. -/
def Building.replaced (b : Building) (f f' : Floor) : Building :=
  { b with floors := b.floors.map fun g => if g = f then f' else g }

/-- Where ids are distinct only the active building is exchanged. -/
theorem Collection.withBuilding_eq_replaced (hids : (c.buildings.map (·.id)).Nodup)
    (hb : c.active? = some b) (hid : b'.id = b.id) : c.withBuilding b' = c.replaced b b' := by
  simp only [withBuilding, replaced, mk.injEq, and_true]
  refine List.map_congr_left fun x hx => ?_
  have hsame : x.id = b'.id ↔ x = b :=
    ⟨fun h => eq_of_active? hids hb hx (h.trans hid), fun h => h ▸ hid.symm⟩
  simp only [hsame]

/-- Where numbers are distinct only the floor that is found is exchanged. -/
theorem Building.mapNumbered_eq_replaced (hnumbers : b.floorNumbers.Nodup)
    (hf : b.floorByNumber? n = some f) (f' : Floor) :
    b.mapNumbered n (fun _ => f') = b.replaced f f' := by
  simp only [mapNumbered, replaced, mk.injEq, true_and]
  refine List.map_congr_left fun g hg => ?_
  have hsame : g.number = n ↔ g = f :=
    ⟨eq_of_floorByNumber? hnumbers hf hg, fun h => h ▸ number_eq_of_floorByNumber? hf⟩
  simp only [hsame]

namespace Intent

/-! ## Items and names -/

/-- There are as many items as before, those at the places for which a name is given have it, and the
    others are as they were. -/
structure NamedInOrder {α : Type} (setName : α → String → α) (names : List String)
    (items items' : List α) : Prop where
  length_eq : items'.length = items.length
  named : ∀ i name, nameAt? names i = some name → items'[i]? = items[i]?.map (setName · name)
  kept : ∀ i, nameAt? names i = none → items'[i]? = items[i]?

/-- The places of some items for which a name is given. -/
def namedPlaces (items : Nat) (names : List String) : List Nat :=
  (List.range items).filter fun i => (nameAt? names i).isSome

theorem namedInOrder_renamePositional {α : Type} (setName : α → String → α) (names : List String)
    (items : List α) : NamedInOrder setName names items (renamePositional setName items names) where
  length_eq := length_renamePositional items names
  named i name h := by
    rw [getElem?_renamePositional, h]
    rfl
  kept i h := by
    rw [getElem?_renamePositional, h]
    exact Option.map_id'

/-- The floor is another one only in the names of its components of a kind, which are given in order. -/
def ComponentsNamed (kind : ComponentKind) (names : List String) (f f' : Floor) : Prop :=
  match kind with
  | .restroom => ∃ restrooms, NamedInOrder (fun r name => { r with name }) names f.restrooms restrooms ∧
      f' = { f with restrooms }
  | .corridor => ∃ corridors, NamedInOrder (fun r name => { r with name }) names f.corridors corridors ∧
      f' = { f with corridors }

theorem componentsNamed_renamedOn (kind : ComponentKind) (f : Floor) (names : List String) :
    ComponentsNamed kind names f (renamedOn kind f names) := by
  cases kind with
  | restroom => exact ⟨_, namedInOrder_renamePositional _ names f.restrooms, rfl⟩
  | corridor => exact ⟨_, namedInOrder_renamePositional _ names f.corridors, rfl⟩

/-! ## What is different afterwards -/

/-- The intent names the floors of the building in order, says how many, and changes nothing else. -/
def NamesFloors (c : Collection) (b : Building) (names : List String) : Prop :=
  ∀ clock s, ∃ floors, NamedInOrder (fun f name => { f with name := some name }) names b.floors floors ∧
    (bulkRename .floors names).apply c clock s =
      .ok (⟨some (c.replaced b { b with floors }),
        .floorsRenamed (namedPlaces b.floors.length names).length
          (floors.map fun f => (f.number, f.displayName))⟩, s)

/-- The intent names the components of the floor in order, says how many, and changes nothing else. -/
def NamesComponents (c : Collection) (b : Building) (f : Floor) (kind : ComponentKind) (number : Nat)
    (names : List String) : Prop :=
  ∀ clock s, ∃ f', ComponentsNamed kind names f f' ∧
    (bulkRename (.components kind number) names).apply c clock s =
      .ok (⟨some (c.replaced b (b.replaced f f')),
        .componentsRenamed kind number (namedPlaces (kind.countOn f) names).length
          (namesOn kind f')⟩, s)

theorem apply_bulkRename (target : BulkTarget) (names : List String) (c : Collection) (clock : Clock)
    (s : Stamps) :
    (bulkRename target names).apply c clock s = (bulkRename target names).carryOut c clock s := by
  refine apply_of_le (fun k hk => ?_) c clock s
  cases hk

theorem namesFloors (hids : (c.buildings.map (·.id)).Nodup) (hb : c.active? = some b)
    (names : List String) : NamesFloors c b names := by
  intro clock s
  refine ⟨_, namedInOrder_renamePositional _ names b.floors, ?_⟩
  have hplace : ∀ floors, c.withBuilding { b with floors } = c.replaced b { b with floors } :=
    fun floors => Collection.withBuilding_eq_replaced hids hb rfl
  rw [apply_bulkRename, namedPlaces, ← renamedCount_eq, carryOut, onActive, hb, ← hplace]
  rfl

theorem namesComponents (hids : (c.buildings.map (·.id)).Nodup) (hb : c.active? = some b)
    (hnumbers : b.floorNumbers.Nodup) (hf : b.floorByNumber? n = some f) (kind : ComponentKind)
    (names : List String) : NamesComponents c b f kind n names := by
  intro clock s
  refine ⟨renamedOn kind f names, componentsNamed_renamedOn kind f names, ?_⟩
  have hid : (b.replaced f (renamedOn kind f names)).id = b.id := rfl
  rw [apply_bulkRename, namedPlaces, ← renamedCount_eq, carryOut, onActive, hb,
    ← Collection.withBuilding_eq_replaced hids hb hid, ← Building.mapNumbered_eq_replaced hnumbers hf]
  simp only [nameComponents, hf]
  rfl

/-- **Names in a list are given by position.** The request is taken for the names as they are listed, and
    what is at a place where one of them is not empty gets that name, while all else stays. -/
theorem bulkRename_positional (hlist : ∀ name ∈ names, Listable name) (hne : names ≠ [])
    (hsingle : names ≠ [""]) :
    (∀ verb ∈ ["rename", "change"],
      bulkRename? (floorsRequest verb names).toList = some (.bulkRename .floors names)) ∧
    (∀ verb ∈ ["rename", "change"], ∀ kind, ∀ preposition ∈ ["in", "on"], ∀ digits n,
      Text.word? digits.toList = some n →
        bulkRename? (componentsRequest verb kind preposition digits names).toList
          = some (.bulkRename (.components kind n) names)) ∧
    ∀ c b, (c.buildings.map (·.id)).Nodup → c.active? = some b → b.floorNumbers.Nodup →
      NamesFloors c b names ∧
        ∀ kind n f, b.floorByNumber? n = some f → NamesComponents c b f kind n names := by
  refine ⟨fun verb hverb => bulkRename?_floorsRequest hlist hne hsingle hverb,
    fun verb hverb kind preposition hpreposition digits n hdigits =>
      bulkRename?_componentsRequest hlist hne hsingle hverb kind hpreposition hdigits,
    fun c b hids hb hnumbers => ⟨namesFloors hids hb names, fun kind n f hf => ?_⟩⟩
  exact namesComponents hids hb hnumbers hf kind names

theorem farm_bulkRename :
    (∀ name ∈ ["Ground", "", "Top"], Listable name) ∧
      bulkRename? (floorsRequest "rename" ["Ground", "", "Top"]).toList
        = some (.bulkRename .floors ["Ground", "", "Top"]) ∧
      bulkRename? (componentsRequest "change" .corridor "on" "02" ["Ground", "", "Top"]).toList
        = some (.bulkRename (.components .corridor 2) ["Ground", "", "Top"]) ∧
      NamesFloors farm cottage ["Ground", "", "Top"] ∧
      ∃ f, cottage.floorByNumber? 2 = some f ∧
        NamesComponents farm cottage f .corridor 2 ["Ground", "", "Top"] := by
  have hlist : ∀ name ∈ ["Ground", "", "Top"], Listable name := by decide
  obtain ⟨hfloors, hcomponents, hnames⟩ :=
    bulkRename_positional hlist (by decide) (by decide)
  obtain ⟨hfarm, hfloor⟩ := hnames farm cottage (by decide) rfl (by decide)
  exact ⟨hlist, hfloors "rename" (by decide),
    hcomponents "change" (by decide) .corridor "on" (by decide) "02" 2 (by decide), hfarm,
    _, rfl, hfloor .corridor 2 _ rfl⟩

end Intent

end Floorplan
