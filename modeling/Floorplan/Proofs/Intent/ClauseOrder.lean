import Floorplan.Proofs.Intent.Exclusive
import Floorplan.Proofs.Intent.Wordings

set_option autoImplicit false

/-! # The order of the clauses of a renaming

A component can be renamed with its floor in front of the name or behind it. With the floor first the name
is all that stands behind "to" (`Renaming.Plain.renameComponent?_floorFirst`), with the name first it ends
in front of the last preposition (`Renaming.Plain.renameComponent?_nameFirst`). So both are the same
renaming, and the same is done (`Renaming.dispatch_eq`). But a switch to another building goes before it,
and what the name ends with can make one together with the words behind it
(`Renaming.lighthouse_dispatch_ne`). -/

namespace Floorplan

open Pattern Phrase
open Text (spaced)

namespace Renaming

variable {r : Renaming} {p : Pattern} {s t z : List Char}

/-! ## The renaming -/

theorem Plain.writable (h : r.Plain) : Writable r.name := ⟨h.name_not_blank, h.name_unquoted⟩

/-- What the text with the floor first is taken for. -/
theorem Plain.renameComponent?_floorFirst (h : r.Plain) :
    Intent.renameComponent? r.kind r.floorFirst.toList
      = some (.renameComponent r.kind r.floor r.index (Text.trim r.name)) := by
  have hverb : "rename" ∈ ["rename", "change"] := by decide
  rw [← h.writable.renameComponent?_floorFirst .bare hverb h.preposition
    (Text.word?_toDigits h.index_lt) (Text.word?_toDigits h.floor_lt)]
  simp [toList_floorFirst, what, place, spaced, Quoting.write, Quoting.mark]

/-- What the text with the name first is taken for. -/
theorem Plain.renameComponent?_nameFirst (h : r.Plain) :
    Intent.renameComponent? r.kind r.nameFirst.toList
      = some (.renameComponent r.kind r.floor r.index (Text.trim r.name)) := by
  have hverb : "rename" ∈ ["rename", "change"] := by decide
  have hfree := (Text.containsAny_lowerChars_eq_false (by decide)).1 h.name_no_verb
  rw [← h.writable.renameComponent?_nameFirst .bare hfree hverb h.preposition
    (Text.word?_toDigits h.index_lt) (Text.word?_toDigits h.floor_lt)]
  simp [toList_nameFirst, what, place, spaced, Quoting.write, Quoting.mark]

/-! ## All families -/

/-- The families of renaming, and those behind them, take both texts for the same. -/
theorem Plain.findSome?_eq (h : r.Plain) :
    (((Family.all.drop 3).filter fun f => true || !f.needsActive).findSome? fun f =>
        (f.recognize? r.floorFirst.toList).map (f, ·))
      = ((Family.all.drop 3).filter fun f => true || !f.needsActive).findSome? fun f =>
        (f.recognize? r.nameFirst.toList).map (f, ·) := by
  have hbulk : Intent.bulkRename? r.floorFirst.toList = none ∧
      Intent.bulkRename? r.nameFirst.toList = none := by
    rw [floorFirst_verb, nameFirst_verb]
    exact ⟨h.bulkRename?_eq_none (by simp) h.pieces_floorFirst,
      h.bulkRename?_eq_none (by simp) h.pieces_nameFirst⟩
  have hother : ∀ kind, kind ≠ r.kind → Intent.renameComponent? kind r.floorFirst.toList = none ∧
      Intent.renameComponent? kind r.nameFirst.toList = none := by
    rw [floorFirst_verb, nameFirst_verb]
    exact fun kind hkind => ⟨h.renameComponent?_otherKind (by simp) h.pieces_floorFirst hkind,
      h.renameComponent?_otherKind (by simp) h.pieces_nameFirst hkind⟩
  have hfirst := h.renameComponent?_floorFirst
  have hsecond := h.renameComponent?_nameFirst
  cases hkind : r.kind with
  | restroom =>
    rw [hkind] at hfirst hsecond
    simp only [Family.all, List.drop, Bool.true_or, List.filter_true, List.findSome?_cons,
      Family.recognize?, hbulk, hfirst, hsecond, Option.map_none, Option.map_some]
  | corridor =>
    obtain ⟨hfloor, hname⟩ := hother .restroom (by simp [hkind])
    rw [hkind] at hfirst hsecond
    simp only [Family.all, List.drop, Bool.true_or, List.filter_true, List.findSome?_cons,
      Family.recognize?, hbulk, hfloor, hname, hfirst, hsecond, Option.map_none, Option.map_some]

/-- Both texts are taken for the same, unless the one with the name first is taken for a switch. -/
theorem Plain.parse?_eq (h : r.Plain)
    (hswitch : ∀ i, Intent.parse? r.nameFirst true ≠ some (.switchBuilding, i)) :
    Intent.parse? r.floorFirst true = Intent.parse? r.nameFirst true := by
  rw [Intent.parse?_eq] at hswitch
  rw [Intent.parse?_eq, Intent.parse?_eq, h.showCommands?_eq, h.listBuildings?_eq, h.findSome?_eq]
  cases hhelp : Intent.showCommands? r.nameFirst.toList with
  | some i => simp only [Option.map_some, Option.some_or]
  | none =>
    cases hlist : Intent.listBuildings? r.nameFirst.toList with
    | some i => simp only [Option.map_some, Option.map_none, Option.some_or, Option.none_or]
    | none =>
      cases hnone : Intent.switchBuilding? r.nameFirst.toList with
      | some i =>
        simp only [hhelp, hlist, hnone, Option.map_none, Option.map_some, Option.none_or,
          Option.some_or] at hswitch
        exact absurd rfl (hswitch i)
      | none => rw [h.switchBuilding?_floorFirst hnone]

/-- **The clauses of a renaming can be put in either order.** While a building is active, naming the
    floor before the name or behind it has the same outcome, unless the text with the name first is
    taken for a switch to another building, which goes before any renaming. -/
theorem dispatch_eq (h : r.Plain)
    (hswitch : ∀ i, Intent.parse? r.nameFirst true ≠ some (.switchBuilding, i)) {c : Collection}
    {b : Building} (hb : c.active? = some b) (clock : Clock) (stamps : Stamps) :
    dispatch c r.floorFirst clock stamps = dispatch c r.nameFirst clock stamps := by
  have hactive : c.active?.isSome = true := by rw [hb]; rfl
  unfold dispatch
  rw [hactive, h.parse?_eq hswitch]

/-- The second corridor on the third floor is given a name with a preposition inside. -/
def frontHall : Renaming := ⟨.corridor, 2, 3, "on", "Hall in Front"⟩

/-- A collection with one building of three floors. -/
def oneTower : Collection := Collection.empty.withNewActive (.generate "building-1" "Tower" 3 2 2 1)

theorem plain_frontHall : frontHall.Plain :=
  ⟨by decide, by decide, by decide, by decide, by decide, by decide⟩

set_option maxRecDepth 100000 in
theorem frontHall_dispatch_eq :
    frontHall.Plain ∧
      (∀ i, Intent.parse? frontHall.nameFirst true ≠ some (.switchBuilding, i)) ∧
      (∃ b, oneTower.active? = some b) ∧
      (dispatch oneTower frontHall.nameFirst (.still 0) {}).map (·.1.reply)
        = .ok (.componentRenamed .corridor 3 2 "Hall in Front") ∧
      dispatch oneTower frontHall.floorFirst (.still 0) {}
        = dispatch oneTower frontHall.nameFirst (.still 0) {} := by
  have hfamily : (Intent.parse? frontHall.nameFirst true).map (·.1) = some .corridorRename := by
    decide +kernel
  have hswitch : ∀ i, Intent.parse? frontHall.nameFirst true ≠ some (.switchBuilding, i) := by
    intro i hi
    rw [hi] at hfamily
    cases hfamily
  have hactive : ∃ b, oneTower.active? = some b := ⟨_, rfl⟩
  obtain ⟨b, hb⟩ := hactive
  refine ⟨plain_frontHall, hswitch, ⟨b, hb⟩, by decide +kernel, ?_⟩
  exact dispatch_eq plain_frontHall hswitch hb (.still 0) {}

/-- A name that ends like a verb of switching. -/
def lighthouse : Renaming := ⟨.restroom, 1, 1, "in", "Lighthouse"⟩

set_option maxRecDepth 100000 in
theorem lighthouse_dispatch_ne :
    ¬ ∀ r : Renaming, r.Plain → ∀ c b, Collection.active? c = some b → ∀ clock stamps,
      (dispatch c r.floorFirst clock stamps).map (·.1)
        = (dispatch c r.nameFirst clock stamps).map (·.1) := by
  intro hall
  have hplain : lighthouse.Plain :=
    ⟨by decide, by decide, by decide, by decide, by decide, by decide⟩
  have heq := hall lighthouse hplain oneTower _ rfl (.still 0) {}
  revert heq
  decide +kernel

end Renaming

end Floorplan
