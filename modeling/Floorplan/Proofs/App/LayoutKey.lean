import Floorplan.App.Basic
import Floorplan.Proofs.App.RowPlace
import Floorplan.Proofs.Session.Arises

set_option autoImplicit false

/-! # What the keys of the layout do to its rows

A key of the layout makes an edit by the ids of the selected row, and the rows that are shown afterwards
are those of the edited building (`App.rows_edit`). Where ids are distinct the edit is made at the row
itself: what is deleted is the row with the rows below it, what is added stands behind the last row of
those that it joins, and a new name shows in the row. All other rows stand for the same as before, in the
same order and with the same attachments. What they are labelled may change, because floors and lifts
are counted anew. Main result: `Building.layoutKeys_act`. -/

namespace Floorplan

open LayoutRow

variable {b : Building} {fs gs : List Floor} {f : Floor} {before below rest : List LayoutRow}
  {row : LayoutRow} {clock : Clock} {s : Stamps}

/-! ## The edits of the keys -/

namespace LayoutNode

/-- The edit by which what the row stands for is removed. -/
def removal : LayoutNode → Edit
  | floor f => .removeFloor f
  | restroom f r => .removeComponent .restroom f r
  | corridor f c => .removeComponent .corridor f c
  | lift f c l => .removeLift f c l

/-- The edit by which what the row stands for is given a name. Lifts have none. -/
def renaming? (name : String) : LayoutNode → Option Edit
  | floor f => some (.renameFloor f name)
  | restroom f r => some (.renameComponent .restroom f r name)
  | corridor f c => some (.renameComponent .corridor f c name)
  | lift _ _ _ => none

/-- The edit that a key makes while the row is selected. -/
def keyEdit? (node : LayoutNode) : Key → Option Edit
  | .char 'f' => some .addFloor
  | .char 'r' => some (.addComponent .restroom node.floorId)
  | .char 'c' => some (.addComponent .corridor node.floorId)
  | .char 'l' => node.corridorId?.map (.addLift node.floorId)
  | .char 'd' | .delete => some node.removal
  | _ => none

/-- How the row is labelled with a name, on the floor of a number. A name that is blank takes the name of
a floor away. -/
def labelNamed (number : Nat) (name : String) : LayoutNode → String
  | floor _ =>
    if Text.trim name = "" then "Floor " ++ toString number
    else toString number ++ " · " ++ Text.trim name
  | _ => Text.trim name

/-- The ids by which the row tells what it stands for. -/
def ids : LayoutNode → List String
  | floor f => [f]
  | restroom f r => [f, r]
  | corridor f c => [f, c]
  | lift f c l => [f, c, l]

theorem floorId_mem_ids (n : LayoutNode) : n.floorId ∈ n.ids := by
  cases n <;> exact List.mem_cons_self

end LayoutNode

namespace App

variable {σ : Type} [BlobStore σ] {a : App σ} {node : LayoutNode} {e : Edit}

theorem layoutKeyPress_eq_edit (hidle : a.waitingSince = none) (hnode : a.selectedNode? = some node)
    {key : Key} (he : node.keyEdit? key = some e) (clock : Clock) :
    a.layoutKeyPress key clock = a.edit e clock := by
  simp only [layoutKeyPress, hidle, Option.isSome_none, Bool.false_eq_true, if_false]
  unfold LayoutNode.keyEdit? at he
  split at he
  · cases he
    rfl
  · cases he
    simp only [addComponent, hnode]
  · cases he
    simp only [addComponent, hnode]
  · obtain ⟨c, hc, rfl⟩ := Option.map_eq_some_iff.1 he
    cases node <;> cases hc <;> simp only [addLift, hnode, LayoutNode.floorId]
  · cases he
    cases node <;> simp only [deleteSelected, hnode, LayoutNode.removal]
  · cases he
    cases node <;> simp only [deleteSelected, hnode, LayoutNode.removal]
  · cases he

theorem rename_eq_edit {name : String} (he : node.renaming? name = some e) (clock : Clock) :
    a.rename node name clock = { a.edit e clock with status := none } := by
  cases node <;> cases he <;> rfl

/-- After an edit the rows are those of the edited building. -/
theorem rows_edit (hb : a.session.collection.active? = some b) (e : Edit) (clock : Clock) :
    (a.edit e clock).rows = (e.applyTo b clock a.session.stamps).1.layoutRows := by
  have hid := e.id_applyTo b clock a.session.stamps
  obtain ⟨b', hb', hsame⟩ := Session.active?_editStructure (e.applyTo · clock ·) hb hid clock
  have hrows : b'.layoutRows = (e.applyTo b clock a.session.stamps).1.layoutRows := by
    calc b'.layoutRows
        = b'.unplaced.synced.layoutRows := (Building.layoutRows_unplaced b').symm
      _ = (e.applyTo b clock a.session.stamps).1.unplaced.synced.layoutRows := by rw [hsame]
      _ = (e.applyTo b clock a.session.stamps).1.layoutRows := Building.layoutRows_unplaced _
  simp only [rows, edit, clampRow, hb', hrows]

end App

/-! ## Rows of edited buildings -/

namespace LayoutRow

/-- The row but for its label. -/
def unlabelled (r : LayoutRow) : LayoutRow := { r with label := "" }

theorem onFloor_restrooms (f : Floor) (restrooms : List Restroom) :
    onFloor { f with restrooms } =
      ofFloor f :: (restrooms.map (ofRestroom f) ++ f.corridors.flatMap (ofCorridor f)) := rfl

theorem onFloor_corridors (f : Floor) (corridors : List Corridor) :
    onFloor { f with corridors } =
      ofFloor f :: (f.restrooms.map (ofRestroom f) ++ corridors.flatMap (ofCorridor f)) := rfl

theorem onFloor_name (f : Floor) (name : Option String) : onFloor { f with name } =
    { ofFloor f with label := (ofFloor { f with name }).label } :: underFloor f := rfl

/-- A floor shows what is left of the name that it is given. -/
theorem label_ofFloor (f : Floor) (name : String) :
    (ofFloor { f with
        name := if (Text.trim name).isEmpty then none else some (Text.trim name) }).label =
      (LayoutNode.floor f.id).labelNamed f.number name := by
  by_cases hblank : Text.trim name = ""
  · simp [ofFloor, LayoutNode.labelNamed, hblank]
  · simp [ofFloor, LayoutNode.labelNamed, hblank]

theorem ofCorridor_lifts (f : Floor) (c : Corridor) (lifts : List Lift) :
    ofCorridor f { c with lifts } = corridorRow f c :: liftRows f c lifts 0 := rfl

theorem map_unlabelled_liftRows (f : Floor) (c : Corridor) (lifts : List Lift) (start : Nat) :
    (liftRows f c lifts start).map unlabelled =
      lifts.map fun l => { node := .lift f.id c.id l.id, depth := 2, label := "" } := by
  have hcounted : (liftRows f c lifts start).map unlabelled = ((lifts.zipIdx start).map Prod.fst).map
      fun l => { node := .lift f.id c.id l.id, depth := 2, label := "" } := by
    rw [liftRows, List.map_map, List.map_map]
    rfl
  rw [hcounted, List.zipIdx_map_fst]

end LayoutRow

/-- The floors show the same but for their labels when they are numbered anew. -/
theorem map_unlabelled_numbered (floors : List Floor) :
    ((numbered floors).flatMap onFloor).map unlabelled = (floors.flatMap onFloor).map unlabelled := by
  have hnumber : ∀ (f : Floor) (n : Nat),
      (onFloor { f with number := n }).map unlabelled = (onFloor f).map unlabelled := fun _ _ => rfl
  have hplain := List.flatMap_map Prod.fst (fun f => (onFloor f).map unlabelled) floors.zipIdx
  rw [numbered, List.mapIdx_eq_zipIdx_map, List.map_flatMap, List.map_flatMap, List.flatMap_map]
  simp only [hnumber]
  rw [← hplain, List.zipIdx_map_fst]

namespace Building

/-- A change to one floor. -/
theorem layoutRows_mapFloor (h : b.Orderly) (hf : b.floors = fs ++ f :: gs) (edit : Floor → Floor) :
    (b.mapFloor f.id edit).layoutRows =
      fs.flatMap onFloor ++ onFloor (edit f) ++ gs.flatMap onFloor := by
  rw [mapFloor_append_cons h.floors hf, layoutRows, List.flatMap_append, List.flatMap_cons,
    List.append_assoc]

/-! ## Deleting -/

/-- A row goes with the rows below it. -/
theorem delete_rows (h : b.Orderly) (hplace : b.RowPlace before row below rest)
    (hseveral : row.depth = 0 → b.floors.length ≠ 1) :
    (row.node.removal.applyTo b clock s).1.layoutRows.map unlabelled =
      (before ++ rest).map unlabelled := by
  cases hplace with
  | @floor fs gs f hf =>
    have hmany : ¬ b.floors.length ≤ 1 := by
      have hlength := hseveral rfl
      rw [hf, List.length_append, List.length_cons] at hlength ⊢
      omega
    have hfilter : (b.floors.filter fun g => g.id ≠ f.id) = fs ++ gs := by
      have hids := h.floors
      rw [hf] at hids ⊢
      exact filter_keyed_append_cons hids
    -- What is left is in order, so numbering it anew moves no floor.
    have hascending : (fs ++ gs).Pairwise fun f g => f.number ≤ g.number := by
      have hsub : (fs ++ gs).Sublist b.floors := by simp [hf]
      exact (h.ascending.sublist hsub).imp Nat.le_of_lt
    show (b.removeFloor f.id).layoutRows.map unlabelled = _
    rw [removeFloor, if_neg hmany, hfilter, renumber_of_ascending hascending, synced, layoutRows,
      map_unlabelled_numbered, List.flatMap_append]
  | @restroom fs gs f rs ss r hf hr =>
    have hids := h.components f (by simp [hf]) .restroom
    show (b.mapFloor f.id (·.removeComponent .restroom r.id)).layoutRows.map unlabelled = _
    rw [layoutRows_mapFloor h hf, Floor.removeRestroom_append_cons hids hr, onFloor_restrooms]
    simp
  | @corridor fs gs f cs ds c hf hc =>
    have hids := h.components f (by simp [hf]) .corridor
    show (b.mapFloor f.id (·.removeComponent .corridor c.id)).layoutRows.map unlabelled = _
    rw [layoutRows_mapFloor h hf, Floor.removeCorridor_append_cons hids hc, onFloor_corridors]
    simp
  | @lift fs gs f cs ds c ls ms l hf hc hl =>
    have hids := h.components f (by simp [hf]) .corridor
    have hfilter : (c.lifts.filter fun x => x.id ≠ l.id) = ls ++ ms := by
      have hlifts := h.lifts f (by simp [hf]) c (by simp [hc])
      rw [hl] at hlifts ⊢
      exact filter_keyed_append_cons hlifts
    show (b.mapFloor f.id fun g => g.mapCorridor c.id fun c =>
      { c with lifts := c.lifts.filter fun x => x.id ≠ l.id }).layoutRows.map unlabelled = _
    rw [layoutRows_mapFloor h hf, Floor.mapCorridor_append_cons hids hc, onFloor_corridors, hfilter,
      List.flatMap_append, List.flatMap_cons, ofCorridor_lifts]
    simp [map_unlabelled_liftRows]

/-- The only floor stays. -/
theorem delete_only (hplace : b.RowPlace before row below rest) (hdepth : row.depth = 0)
    (hlength : b.floors.length = 1) : (row.node.removal.applyTo b clock s).1 = b := by
  cases hplace with
  | @floor fs gs f hf =>
    show b.removeFloor f.id = b
    rw [removeFloor, if_pos hlength.le]
  | restroom | corridor | lift => cases hdepth

/-! ## Ids that are not there yet -/

/-- All ids in a building. -/
def allIds (b : Building) : List String :=
  b.id :: b.floors.flatMap fun f =>
    f.id :: (f.restrooms.map (·.id) ++ f.corridors.flatMap fun c => c.id :: c.lifts.map (·.id))

/-- The digits of the stamp stand in no id of the building. -/
def Unstamped (b : Building) (stamp : Nat) : Prop :=
  ∀ id ∈ b.allIds, ¬ (toString stamp).toList <:+: id.toList

theorem ids_subset {n : LayoutNode} (h : n ∈ b.nodes) : n.ids ⊆ b.allIds := by
  obtain ⟨f, hf, h⟩ := List.mem_flatMap.1 h
  refine fun id hid => List.mem_cons_of_mem _ (List.mem_flatMap.2 ⟨f, hf, ?_⟩)
  simp only [Floor.nodes, Corridor.nodes, List.mem_cons, List.mem_append, List.mem_map,
    List.mem_flatMap] at h ⊢
  obtain rfl | ⟨r, hr, rfl⟩ | ⟨c, hc, rfl | ⟨l, hl, rfl⟩⟩ := h <;>
    simp only [LayoutNode.ids, List.mem_cons, List.not_mem_nil, or_false] at hid
  · exact .inl hid
  · obtain rfl | rfl := hid
    · exact .inl rfl
    · exact .inr (.inl ⟨r, hr, rfl⟩)
  · obtain rfl | rfl := hid
    · exact .inl rfl
    · exact .inr (.inr ⟨c, hc, .inl rfl⟩)
  · obtain rfl | rfl | rfl := hid
    · exact .inl rfl
    · exact .inr (.inr ⟨c, hc, .inl rfl⟩)
    · exact .inr (.inr ⟨c, hc, .inr ⟨l, hl, rfl⟩⟩)

/-- What has the stamp in one of its ids is not there yet. -/
theorem Unstamped.notMem_nodes {stamp : Nat} (h : b.Unstamped stamp) (owner : String) {n : LayoutNode}
    (hid : owner ++ toString stamp ∈ n.ids) : n ∉ b.layoutRows.map (·.node) := by
  rw [map_node_layoutRows]
  intro hmem
  refine h _ (ids_subset hmem hid) ?_
  rw [String.toList_append]
  exact (List.suffix_append ..).isInfix

end Building

/-! ## Adding -/

/-- The new rows stand behind the last row of those with the property, and for nothing that was there. -/
structure InsertsAfterLast (p : LayoutNode → Prop) (new rows rows' : List LayoutRow) : Prop where
  place : ∃ before last after, rows = before ++ last :: after ∧ p last.node ∧
    (∀ r ∈ after, ¬ p r.node) ∧ rows' = before ++ last :: (new ++ after)
  anew : ∀ r ∈ new, r.node ∉ rows.map (·.node)

theorem InsertsAfterLast.intro {p : LayoutNode → Prop} {before own after new : List LayoutRow}
    (hne : own ≠ []) (hown : ∀ r ∈ own, p r.node) (hafter : ∀ r ∈ after, ¬ p r.node)
    (hnew : ∀ r ∈ new, r.node ∉ (before ++ own ++ after).map (·.node)) :
    InsertsAfterLast p new (before ++ own ++ after) (before ++ own ++ new ++ after) := by
  have hlast := own.dropLast_append_getLast hne
  refine ⟨⟨before ++ own.dropLast, own.getLast hne, after, ?_, hown _ (List.getLast_mem hne), hafter,
    ?_⟩, hnew⟩
  · conv_lhs => rw [← hlast]
    simp
  · conv_lhs => rw [← hlast]
    simp

namespace LayoutRow

theorem of_mem_ofCorridor {f : Floor} {c : Corridor} {r : LayoutRow} (h : r ∈ ofCorridor f c) :
    r.node.floorId = f.id ∧ r.node.corridorId? = some c.id :=
  Corridor.of_mem_nodes (map_node_ofCorridor f c ▸ List.mem_map_of_mem h)

theorem floorId_of_mem_onFloor {f : Floor} {r : LayoutRow} (h : r ∈ onFloor f) :
    r.node.floorId = f.id :=
  Floor.floorId_of_mem_nodes (map_node_onFloor f ▸ List.mem_map_of_mem h)

end LayoutRow

namespace Building

/-- Every row is on a floor of the building. -/
theorem RowPlace.exists_floor (h : b.RowPlace before row below rest) :
    ∃ fs f gs, b.floors = fs ++ f :: gs ∧ row.node.floorId = f.id := by
  cases h with
  | floor hf | restroom hf | corridor hf | lift hf => exact ⟨_, _, _, hf, rfl⟩

/-- The rows that are about a corridor stand in it. -/
theorem RowPlace.exists_corridor (h : b.RowPlace before row below rest) {corridor : String}
    (hrow : row.node.corridorId? = some corridor) :
    ∃ fs f gs cs c ds, b.floors = fs ++ f :: gs ∧ f.corridors = cs ++ c :: ds ∧
      row.node.floorId = f.id ∧ corridor = c.id := by
  cases h with
  | floor | restroom => cases hrow
  | corridor hf hc | lift hf hc =>
    cases hrow
    exact ⟨_, _, _, _, _, _, hf, hc, rfl, rfl⟩

/-- The rows of the floors behind a floor are not on it. -/
theorem floorId_ne (h : b.Orderly) (hf : b.floors = fs ++ f :: gs) :
    ∀ r ∈ gs.flatMap onFloor, r.node.floorId ≠ f.id := by
  intro r hr
  obtain ⟨g, hg, hr⟩ := List.mem_flatMap.1 hr
  rw [floorId_of_mem_onFloor hr]
  exact (key_ne_of_nodup (hf ▸ h.floors)).2 g hg

theorem addComponent_eq (h : b.Orderly) (hf : b.floors = fs ++ f :: gs) (kind : ComponentKind) :
    (b.addComponent kind f.id clock s).1 =
      b.mapFloor f.id fun _ => (f.appendComponents kind 1 clock s).1 := by
  have hfound : b.floorById? f.id = some f := by
    have hids := h.floors
    rw [hf] at hids
    rw [floorById?, hf]
    exact find?_keyed_append_cons hids
  rw [addComponent, hfound]

/-- A restroom is added behind the restrooms of its floor. -/
theorem addRestroom_rows (h : b.Orderly) (hfree : b.Unstamped (s.next clock).1)
    (hf : b.floors = fs ++ f :: gs) :
    ∃ label, InsertsAfterLast (fun n => n.floorId = f.id ∧ n.corridorId? = none)
      [{ node := .restroom f.id (f.id ++ "-restroom-" ++ toString (s.next clock).1), depth := 1, label }]
      b.layoutRows (b.addComponent .restroom f.id clock s).1.layoutRows := by
  let new : Restroom :=
    .generate (f.id ++ "-restroom-" ++ toString (s.next clock).1) f.restrooms.length
  have hgrown : (f.appendComponents .restroom 1 clock s).1
      = { f with restrooms := f.restrooms ++ [new] } := rfl
  have hrows : b.layoutRows = fs.flatMap onFloor ++ (ofFloor f :: f.restrooms.map (ofRestroom f)) ++
      (f.corridors.flatMap (ofCorridor f) ++ gs.flatMap onFloor) := by
    simp [layoutRows, hf, onFloor]
  have hrows' : (b.addComponent .restroom f.id clock s).1.layoutRows =
      fs.flatMap onFloor ++ (ofFloor f :: f.restrooms.map (ofRestroom f)) ++ [ofRestroom f new] ++
        (f.corridors.flatMap (ofCorridor f) ++ gs.flatMap onFloor) := by
    rw [addComponent_eq h hf, layoutRows_mapFloor h hf, hgrown, onFloor_restrooms]
    simp
  have hnew := hfree.notMem_nodes (f.id ++ "-restroom-") (n := .restroom f.id new.id)
    (List.mem_cons_of_mem _ (List.mem_singleton_self _))
  rw [hrows] at hnew
  rw [hrows, hrows']
  refine ⟨new.name, .intro (List.cons_ne_nil _ _) (fun r hr => ?_) (fun r hr => ?_)
    (List.forall_mem_singleton.2 hnew)⟩
  · rcases List.mem_cons.1 hr with rfl | hr
    · exact ⟨rfl, rfl⟩
    · obtain ⟨r, -, rfl⟩ := List.mem_map.1 hr
      exact ⟨rfl, rfl⟩
  · rintro ⟨hfloor, hcorridor⟩
    rcases List.mem_append.1 hr with hr | hr
    · obtain ⟨c, -, hr⟩ := List.mem_flatMap.1 hr
      rw [(of_mem_ofCorridor hr).2] at hcorridor
      cases hcorridor
    · exact floorId_ne h hf r hr hfloor

/-- A corridor with its lifts is added at the end of its floor. -/
theorem addCorridor_rows (h : b.Orderly) (hfree : b.Unstamped (s.next clock).1)
    (hf : b.floors = fs ++ f :: gs) :
    let id := f.id ++ "-corridor-" ++ toString (s.next clock).1
    ∃ label, InsertsAfterLast (fun n => n.floorId = f.id)
      [{ node := .corridor f.id id, depth := 1, label },
       { node := .lift f.id id (id ++ "-lift-" ++ toString 1), depth := 2, label := "Lift 1" },
       { node := .lift f.id id (id ++ "-lift-" ++ toString 2), depth := 2, label := "Lift 2" }]
      b.layoutRows (b.addComponent .corridor f.id clock s).1.layoutRows := by
  intro id
  let new : Corridor := .generate id f.corridors.length defaultLifts
  have hgrown : (f.appendComponents .corridor 1 clock s).1
      = { f with corridors := f.corridors ++ [new] } := rfl
  have hrows : b.layoutRows = fs.flatMap onFloor ++ onFloor f ++ gs.flatMap onFloor := by
    simp [layoutRows, hf]
  have hrows' : (b.addComponent .corridor f.id clock s).1.layoutRows =
      fs.flatMap onFloor ++ onFloor f ++ ofCorridor f new ++ gs.flatMap onFloor := by
    rw [addComponent_eq h hf, layoutRows_mapFloor h hf, hgrown, onFloor_corridors]
    simp [onFloor]
  have hnew : ∀ n : LayoutNode, id ∈ n.ids → n ∉ b.layoutRows.map (·.node) :=
    fun n hid => hfree.notMem_nodes _ hid
  rw [hrows] at hnew
  rw [hrows, hrows']
  refine ⟨new.name, .intro (List.cons_ne_nil _ _) (fun r hr => floorId_of_mem_onFloor hr)
    (floorId_ne h hf) fun r hr => hnew r.node ?_⟩
  obtain rfl | rfl | rfl := by simpa using hr
  all_goals simp [LayoutNode.ids]

/-- A lift is added behind the lifts of its corridor. -/
theorem addLift_rows (h : b.Orderly) (hfree : b.Unstamped (s.next clock).1)
    {cs ds : List Corridor} {c : Corridor} (hf : b.floors = fs ++ f :: gs)
    (hc : f.corridors = cs ++ c :: ds) :
    ∃ label, InsertsAfterLast (fun n => n.floorId = f.id ∧ n.corridorId? = some c.id)
      [{ node := .lift f.id c.id (c.id ++ "-lift-" ++ toString (s.next clock).1), depth := 2, label }]
      b.layoutRows (b.addLift f.id c.id clock s).1.layoutRows := by
  let id := c.id ++ "-lift-" ++ toString (s.next clock).1
  let grow (c : Corridor) : Corridor :=
    { c with lifts := c.lifts ++ [⟨id, liftPosition c.lifts.length c.position.y⟩] }
  have hids : (f.corridors.map (·.id)).Nodup := h.components f (by simp [hf]) .corridor
  have hrows : b.layoutRows = fs.flatMap onFloor ++
      ofFloor f :: (f.restrooms.map (ofRestroom f) ++ cs.flatMap (ofCorridor f)) ++ ofCorridor f c ++
        (ds.flatMap (ofCorridor f) ++ gs.flatMap onFloor) := by
    simp [layoutRows, hf, onFloor, hc]
  have hrows' : (b.addLift f.id c.id clock s).1.layoutRows = fs.flatMap onFloor ++
      ofFloor f :: (f.restrooms.map (ofRestroom f) ++ cs.flatMap (ofCorridor f)) ++ ofCorridor f c ++
        [{ node := .lift f.id c.id id, depth := 2, label := "Lift " ++ toString (c.lifts.length + 1) }] ++
        (ds.flatMap (ofCorridor f) ++ gs.flatMap onFloor) := by
    -- Lifts are counted from the first one on, so those that were there keep their labels.
    have hgrown : ofCorridor f (grow c) = ofCorridor f c ++
        [{ node := .lift f.id c.id id, depth := 2, label := "Lift " ++ toString (c.lifts.length + 1) }] := by
      rw [ofCorridor_lifts, liftRows_append, Nat.zero_add]
      rfl
    show (b.mapFloor f.id (·.mapCorridor c.id grow)).layoutRows = _
    rw [layoutRows_mapFloor h hf, Floor.mapCorridor_append_cons hids hc, onFloor_corridors,
      List.flatMap_append, List.flatMap_cons, hgrown]
    simp
  have hnew := hfree.notMem_nodes (c.id ++ "-lift-") (n := .lift f.id c.id id)
    (List.mem_cons_of_mem _ (List.mem_cons_of_mem _ (List.mem_singleton_self _)))
  rw [hrows] at hnew
  rw [hrows, hrows']
  refine ⟨_, .intro (List.cons_ne_nil _ _) (fun r hr => of_mem_ofCorridor hr) (fun r hr => ?_)
    (List.forall_mem_singleton.2 hnew)⟩
  rintro ⟨hfloor, hcorridor⟩
  rcases List.mem_append.1 hr with hr | hr
  · obtain ⟨d, hd, hr⟩ := List.mem_flatMap.1 hr
    rw [(of_mem_ofCorridor hr).2] at hcorridor
    exact (key_ne_of_nodup (hc ▸ hids)).2 d hd (Option.some.inj hcorridor)
  · exact floorId_ne h hf r hr hfloor

/-- A floor is added at the end. -/
theorem addFloor_rows (hfree : b.Unstamped (s.next clock).1) :
    ∃ id number, (b.addFloor clock s).1.layoutRows =
        b.layoutRows ++ onFloor (.generateDefault id number) ∧
      ∀ r ∈ onFloor (.generateDefault id number), r.node ∉ b.layoutRows.map (·.node) := by
  let number := wrap (b.maxFloorNumber + (0 + 1))
  let owner := b.id ++ "-floor-" ++ toString number ++ "-"
  let new : Floor := .generateDefault (owner ++ toString (s.next clock).1) number
  have hgrown : (b.addFloor clock s).1.floors = b.floors ++ [new] := rfl
  refine ⟨new.id, number, ?_, fun r hr => hfree.notMem_nodes owner ?_⟩
  · rw [layoutRows, hgrown, List.flatMap_append, List.flatMap_singleton, layoutRows]
    rfl
  · have hid := r.node.floorId_mem_ids
    rwa [floorId_of_mem_onFloor hr] at hid

/-- A name shows in the row and nowhere else. -/
theorem rename_rows (h : b.Orderly) (hplace : b.RowPlace before row below rest) {name : String}
    {e : Edit} (he : row.node.renaming? name = some e) :
    ∃ f ∈ b.floors, f.id = row.node.floorId ∧ (e.applyTo b clock s).1.layoutRows =
      before ++ { row with label := row.node.labelNamed f.number name } :: (below ++ rest) := by
  cases hplace with
  | @floor fs gs f hf =>
    cases he
    refine ⟨f, by simp [hf], rfl, ?_⟩
    show (b.mapFloor f.id _).layoutRows = _
    rw [layoutRows_mapFloor h hf, onFloor_name, label_ofFloor, List.append_assoc, List.cons_append]
    rfl
  | @restroom fs gs f rs ss r hf hr =>
    cases he
    have hids := h.components f (by simp [hf]) .restroom
    refine ⟨f, by simp [hf], rfl, ?_⟩
    show (b.mapFloor f.id (·.mapRestroom r.id _)).layoutRows = _
    rw [layoutRows_mapFloor h hf, Floor.mapRestroom_append_cons hids hr, onFloor_restrooms]
    simp [ofRestroom, LayoutNode.labelNamed]
  | @corridor fs gs f cs ds c hf hc =>
    cases he
    have hids := h.components f (by simp [hf]) .corridor
    refine ⟨f, by simp [hf], rfl, ?_⟩
    show (b.mapFloor f.id (·.mapCorridor c.id _)).layoutRows = _
    rw [layoutRows_mapFloor h hf, Floor.mapCorridor_append_cons hids hc, onFloor_corridors]
    simp [ofCorridor, corridorRow, liftRows, ofLift, LayoutNode.labelNamed]
  | lift => cases he

/-! ## The keys -/

/-- What the edits of the keys do to the rows of the building while row `i` is selected. -/
structure KeysAct (b : Building) (i : Nat) (row : LayoutRow) (clock : Clock) (s : Stamps) : Prop where
  pressed : ∀ {σ : Type} [BlobStore σ] (a : App σ) (key : Key) (e : Edit), a.waitingSince = none →
    a.selectedNode? = some row.node → row.node.keyEdit? key = some e →
      a.layoutKeyPress key clock = a.edit e clock
  named : ∀ {σ : Type} [BlobStore σ] (a : App σ) (name : String) (e : Edit),
    row.node.renaming? name = some e →
      a.rename row.node name clock = { a.edit e clock with status := none }
  shown : ∀ {σ : Type} [BlobStore σ] (a : App σ) (e : Edit),
    a.session.collection.active? = some b →
      (a.edit e clock).rows = (e.applyTo b clock a.session.stamps).1.layoutRows
  distinct : (b.layoutRows.map (·.node)).Nodup
  deleteOnly : row.depth = 0 → b.floors.length = 1 → (row.node.removal.applyTo b clock s).1 = b
  delete : (row.depth = 0 → b.floors.length ≠ 1) →
    (row.node.removal.applyTo b clock s).1.layoutRows.map unlabelled =
      (b.layoutRows.take i ++ (b.layoutRows.drop (i + 1)).dropWhile fun r => row.depth < r.depth).map
        unlabelled
  addRestroom : ∃ id label,
    InsertsAfterLast (fun n => n.floorId = row.node.floorId ∧ n.corridorId? = none)
      [{ node := .restroom row.node.floorId id, depth := 1, label }] b.layoutRows
      ((Edit.addComponent .restroom row.node.floorId).applyTo b clock s).1.layoutRows
  addCorridor : ∃ id label lift lift', lift ≠ lift' ∧
    InsertsAfterLast (fun n => n.floorId = row.node.floorId)
      [{ node := .corridor row.node.floorId id, depth := 1, label },
       { node := .lift row.node.floorId id lift, depth := 2, label := "Lift 1" },
       { node := .lift row.node.floorId id lift', depth := 2, label := "Lift 2" }] b.layoutRows
      ((Edit.addComponent .corridor row.node.floorId).applyTo b clock s).1.layoutRows
  addLift : ∀ corridor, row.node.corridorId? = some corridor → ∃ id label,
    InsertsAfterLast (fun n => n.floorId = row.node.floorId ∧ n.corridorId? = some corridor)
      [{ node := .lift row.node.floorId corridor id, depth := 2, label }] b.layoutRows
      ((Edit.addLift row.node.floorId corridor).applyTo b clock s).1.layoutRows
  addFloor : ∃ id number,
    (Edit.addFloor.applyTo b clock s).1.layoutRows =
        b.layoutRows ++ onFloor (.generateDefault id number) ∧
      (onFloor (.generateDefault id number)).map (·.depth) = [0, 1, 1, 1, 2, 2, 1, 2, 2] ∧
      ∀ r ∈ onFloor (.generateDefault id number), r.node ∉ b.layoutRows.map (·.node)
  rename : ∀ name e, row.node.renaming? name = some e → ∃ f ∈ b.floors, f.id = row.node.floorId ∧
    (e.applyTo b clock s).1.layoutRows =
      b.layoutRows.set i { row with label := row.node.labelNamed f.number name }

/-- **The keys of the layout act exactly at the selected row.** -/
theorem layoutKeys_act (h : b.Orderly) {i : Nat} (hrow : b.layoutRows[i]? = some row)
    (hfree : b.Unstamped (s.next clock).1) : b.KeysAct i row clock s := by
  obtain ⟨hi, rfl⟩ := List.getElem?_eq_some_iff.1 hrow
  have hsplit : b.layoutRows = b.layoutRows.take i ++ b.layoutRows[i] :: b.layoutRows.drop (i + 1) := by
    simp
  obtain ⟨below, rest, hafter, hplace⟩ := exists_rowPlace hsplit
  obtain ⟨fs, f, gs, hf, hfloor⟩ := hplace.exists_floor
  exact {
    pressed := fun a key e hidle hnode he => App.layoutKeyPress_eq_edit hidle hnode he clock
    named := fun a name e he => App.rename_eq_edit he clock
    shown := fun a e hactive => App.rows_edit hactive e clock
    distinct := map_node_layoutRows b ▸ h.nodup_nodes
    deleteOnly := delete_only hplace
    delete := fun hseveral => by
      rw [hafter, hplace.dropWhile_eq]
      exact delete_rows h hplace hseveral
    addRestroom := by
      rw [hfloor]
      exact ⟨_, addRestroom_rows h hfree hf⟩
    addCorridor := by
      rw [hfloor]
      obtain ⟨label, hrows⟩ := addCorridor_rows h hfree hf
      exact ⟨_, label, _, _, by simp, hrows⟩
    addLift := fun corridor hcorridor => by
      obtain ⟨fs, f, gs, cs, c, ds, hf, hc, hfloor, rfl⟩ := hplace.exists_corridor hcorridor
      rw [hfloor]
      exact ⟨_, addLift_rows h hfree hf hc⟩
    addFloor := by
      obtain ⟨id, number, hrows, hnew⟩ := addFloor_rows hfree
      exact ⟨id, number, hrows, rfl, hnew⟩
    rename := fun name e he => by
      obtain ⟨f, hmem, hid, hrows⟩ := rename_rows h hplace he
      refine ⟨f, hmem, hid, hrows.trans ?_⟩
      rw [List.set_eq_take_append_cons_drop, if_pos hi, hafter] }

/-- A building whose floor numbers leave gaps, with corridors with lifts and without. -/
def workshop : Building :=
  { id := "mill", name := "Mill", totalFloors := 2
    floors := [.generate "yard" 2 1 2 2, .generate "loft" 7 0 1 0] }

/-- The second corridor of the first floor is selected. -/
theorem workshop_keysAct :
    let row : LayoutRow :=
      { node := .corridor "yard" "yard-corridor-2", depth := 1, label := "Corridor 2" }
    workshop.Orderly ∧ workshop.layoutRows[5]? = some row ∧
      workshop.Unstamped (Stamps.next {} (.still 1000)).1 ∧
      workshop.KeysAct 5 row (.still 1000) {} := by
  intro row
  have horderly : workshop.Orderly := by
    refine ⟨by decide, by decide, fun f hf kind => ?_, by decide⟩
    revert f
    cases kind <;> decide
  have hrow : workshop.layoutRows[5]? = some row := by decide +kernel
  have hfree : workshop.Unstamped (Stamps.next {} (.still 1000)).1 := by
    unfold Unstamped
    decide +kernel
  exact ⟨horderly, hrow, hfree, layoutKeys_act horderly hrow hfree⟩

end Building

end Floorplan
