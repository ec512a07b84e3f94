import Floorplan.Proofs.Building.Arises
import Floorplan.Proofs.Building.ByValue
import Floorplan.Proofs.Session.Exchange

set_option autoImplicit false

/-! # Where what is in a session comes from

Most of what can be done with a session changes one building, the active one, or is a line of text. So
whatever is read off the buildings one by one arises in a session as it does in a building and by a line
of text. After an edit the active building is the edited one, whether or not that is different by value
(`active?_editStructure`). -/

namespace Floorplan.Session

variable {σ : Type} [BlobStore σ] {α : Type} {new : α → Prop} {r : α → α → Prop}
  {f : Building → List α} {t t' : Session σ} {clock : Clock}

omit [BlobStore σ] in
/-- What a line of text does, whether it is taken up, answered or both. -/
theorem Talks.arises {reply : Option Reply} (hr : ∀ x, r x x)
    (hdispatch : ∀ {text o drawn drawn'}, dispatch t.collection text clock drawn = .ok (o, drawn') →
      Arises new r (t.collection.buildings.flatMap f)
        ((o.collection.getD t.collection).buildings.flatMap f))
    (h : Talks clock t reply t') :
    Arises new r (t.collection.buildings.flatMap f) (t'.collection.buildings.flatMap f) := by
  cases h with
  | silent hsame => exact .of_eq hr (by rw [hsame])
  | answered hbefore hanswer hafter houtcome =>
    rw [houtcome]
    exact hdispatch hanswer

theorem arises_editActive (hr : ∀ x, r x x) (t : Session σ) {edit : Building → Building}
    (h : ∀ b, Arises new r (f b) (f (edit b))) :
    Arises new r (t.collection.buildings.flatMap f)
      ((t.editActive edit).collection.buildings.flatMap f) := by
  unfold editActive
  split
  · exact .refl hr _
  · rename_i b hb
    exact .withBuilding hr (Collection.mem_of_active? hb) (h b)

theorem arises_editStructure (hr : ∀ x, r x x) (t : Session σ)
    {edit : Building → Stamps → Building × Stamps}
    (h : ∀ b s, Arises new r (f b) (f (edit b s).1.synced)) (clock : Clock) :
    Arises new r (t.collection.buildings.flatMap f)
      ((t.editStructure edit clock).2.collection.buildings.flatMap f) := by
  unfold editStructure
  split
  · exact .refl hr _
  · rename_i b hb
    dsimp only
    split
    · exact .refl hr _
    · exact .withBuilding hr (Collection.mem_of_active? hb) (h b t.stamps)

/-- The active building after an edit is the edited one but for coordinates, which may be others that are
equal by value, and for the number of floors that it reports. -/
theorem active?_editStructure (edit : Building → Stamps → Building × Stamps) {b : Building}
    (hb : t.collection.active? = some b) (hid : (edit b t.stamps).1.id = b.id) (clock : Clock) :
    ∃ b', (t.editStructure edit clock).2.collection.active? = some b' ∧
      b'.unplaced.synced = (edit b t.stamps).1.unplaced.synced := by
  by_cases hsame : ((edit b t.stamps).1 == b) = true
  · refine ⟨b, ?_, by rw [Building.unplaced_eq_of_beq _ _ hsame]⟩
    simp only [editStructure, hb, if_pos hsame]
  · refine ⟨(edit b t.stamps).1.synced, ?_, rfl⟩
    simp only [editStructure, hb, if_neg hsame]
    exact Collection.active?_withBuilding hb hid

end Floorplan.Session
