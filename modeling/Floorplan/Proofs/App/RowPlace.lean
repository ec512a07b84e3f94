import Floorplan.Proofs.App.Row
import Floorplan.Proofs.Building.Address

set_option autoImplicit false

/-! # Where a row stands

A row of the layout stands for something in the building, the rows before it for what comes before that
and the rows behind it for what comes after it (`Building.RowPlace`). Behind a row first come the rows
of what it has below it, which are indented further, and then one that is not. If ids are distinct
wherever they are looked up, no two rows stand for the same. -/

namespace Floorplan

/-! ## Lists of lists -/

section Lists

variable {α β : Type} {l u v before after : List β} {x : β}

theorem append_eq_append_cons (h : u ++ v = before ++ x :: after) :
    (∃ t, u = before ++ x :: t ∧ after = t ++ v) ∨ ∃ t, before = u ++ t ∧ v = t ++ x :: after := by
  rcases List.append_eq_append_iff.1 h with ⟨t, ht, hv⟩ | ⟨t, ht, hafter⟩
  · exact Or.inr ⟨t, ht, hv⟩
  · rcases List.append_eq_cons_iff.1 hafter.symm with ⟨rfl, hv⟩ | ⟨t, rfl, hrest⟩
    · exact Or.inr ⟨[], by simpa using ht.symm, hv⟩
    · exact Or.inl ⟨t, ht, hrest⟩

/-- Something in one of several lists that stand in a row. -/
theorem flatMap_eq_append_cons {g : α → List β} {l : List α} (h : l.flatMap g = before ++ x :: after) :
    ∃ l₁ a l₂ u v, l = l₁ ++ a :: l₂ ∧ g a = u ++ x :: v ∧ before = l₁.flatMap g ++ u ∧
      after = v ++ l₂.flatMap g := by
  induction l generalizing before with
  | nil => simp at h
  | cons a l ih =>
    rw [List.flatMap_cons] at h
    rcases append_eq_append_cons h with ⟨v, ha, hafter⟩ | ⟨t, ht, hl⟩
    · exact ⟨[], a, l, before, v, rfl, ha, rfl, hafter⟩
    · obtain ⟨l₁, a', l₂, u, v, rfl, ha, rfl, hafter⟩ := ih hl
      exact ⟨a :: l₁, a', l₂, u, v, rfl, ha, by rw [ht, List.flatMap_cons, List.append_assoc], hafter⟩

theorem map_eq_append_cons {f : α → β} {l : List α} (h : l.map f = before ++ x :: after) :
    ∃ l₁ a l₂, l = l₁ ++ a :: l₂ ∧ before = l₁.map f ∧ x = f a ∧ after = l₂.map f := by
  obtain ⟨l₁, t, rfl, rfl, ht⟩ := List.map_eq_append_iff.1 h
  obtain ⟨a, l₂, rfl, rfl, rfl⟩ := List.map_eq_cons_iff.1 ht
  exact ⟨l₁, a, l₂, rfl, rfl, rfl, rfl⟩

theorem forall_head?_append {q : β → Prop} (hu : ∀ x ∈ u.head?, q x) (hv : ∀ x ∈ v.head?, q x) :
    ∀ x ∈ (u ++ v).head?, q x := by
  cases u with
  | nil => exact hv
  | cons y u => exact hu

theorem forall_head?_flatMap {q : β → Prop} {g : α → List β} {l : List α}
    (h : ∀ a, ∀ x ∈ (g a).head?, q x) : ∀ x ∈ (l.flatMap g).head?, q x := by
  induction l with
  | nil => simp
  | cons a l ih => exact forall_head?_append (h a) ih

theorem dropWhile_append_eq {p : β → Bool} (hu : ∀ x ∈ u, p x = true)
    (hv : ∀ x ∈ v.head?, p x = false) : (u ++ v).dropWhile p = v := by
  rw [List.dropWhile_append_of_pos hu]
  cases v with
  | nil => rfl
  | cons y v => rw [List.dropWhile_cons_of_neg (by simpa using hv)]

end Lists

/-! ## The rows below a row -/

namespace LayoutRow

variable {f : Floor} {c : Corridor} {d : Nat} {r : LayoutRow}

/-- The row of a corridor. -/
def corridorRow (f : Floor) (c : Corridor) : LayoutRow :=
  { node := .corridor f.id c.id, depth := 1, label := c.name, hasMap := c.map.isSome }

/-- The rows of lifts of a corridor, counted from a number on. -/
def liftRows (f : Floor) (c : Corridor) (lifts : List Lift) (start : Nat) : List LayoutRow :=
  (lifts.zipIdx start).map fun (l, i) => ofLift f c l i

/-- The rows of what is on a floor. -/
def underFloor (f : Floor) : List LayoutRow :=
  f.restrooms.map (ofRestroom f) ++ f.corridors.flatMap (ofCorridor f)

theorem liftRows_append (f : Floor) (c : Corridor) (ls ms : List Lift) (start : Nat) :
    liftRows f c (ls ++ ms) start = liftRows f c ls start ++ liftRows f c ms (start + ls.length) := by
  rw [liftRows, List.zipIdx_append, List.map_append, liftRows, liftRows]

theorem liftRows_eq_append_cons {lifts : List Lift} {before after : List LayoutRow} {row : LayoutRow}
    {start : Nat} (h : liftRows f c lifts start = before ++ row :: after) :
    ∃ ls l ms, lifts = ls ++ l :: ms ∧ before = liftRows f c ls start ∧
      row = ofLift f c l (start + ls.length) ∧ after = liftRows f c ms (start + ls.length + 1) := by
  obtain ⟨xs, x, ys, hsplit, rfl, rfl, rfl⟩ := map_eq_append_cons h
  obtain ⟨ls, t, rfl, rfl, ht⟩ := List.zipIdx_eq_append_iff.1 hsplit
  obtain ⟨l, ms, rfl, rfl, rfl⟩ := List.zipIdx_eq_cons_iff.1 ht.symm
  exact ⟨ls, l, ms, rfl, rfl, rfl, rfl⟩

theorem depth_of_mem_liftRows {lifts : List Lift} {start : Nat} (h : r ∈ liftRows f c lifts start) :
    r.depth = 2 := by
  obtain ⟨x, -, rfl⟩ := List.mem_map.1 h
  rfl

theorem depth_of_mem_underFloor (h : r ∈ underFloor f) : 0 < r.depth := by
  rcases List.mem_append.1 h with h | h
  · obtain ⟨r, -, rfl⟩ := List.mem_map.1 h
    exact Nat.one_pos
  · obtain ⟨c, -, h⟩ := List.mem_flatMap.1 h
    rcases List.mem_cons.1 h with rfl | h
    · exact Nat.one_pos
    · have hmem : r ∈ liftRows f c c.lifts 0 := h
      rw [depth_of_mem_liftRows hmem]
      exact Nat.two_pos

theorem head?_flatMap_onFloor (d : Nat) (fs : List Floor) :
    ∀ r ∈ (fs.flatMap onFloor).head?, r.depth ≤ d :=
  forall_head?_flatMap fun f r hr => by
    cases hr
    exact Nat.zero_le d

theorem head?_flatMap_ofCorridor (hd : 1 ≤ d) (f : Floor) (cs : List Corridor) :
    ∀ r ∈ (cs.flatMap (ofCorridor f)).head?, r.depth ≤ d :=
  forall_head?_flatMap fun c r hr => by
    cases hr
    exact hd

theorem head?_map_ofRestroom (hd : 1 ≤ d) (f : Floor) (rs : List Restroom) :
    ∀ r ∈ (rs.map (ofRestroom f)).head?, r.depth ≤ d := by
  intro r hr
  obtain ⟨r, -, rfl⟩ := List.mem_map.1 (List.mem_of_mem_head? hr)
  exact hd

end LayoutRow

/-! ## Places -/

open LayoutRow

/-- What a row stands for, with the rows before it, the rows below it and the others behind it. -/
inductive Building.RowPlace (b : Building) :
    List LayoutRow → LayoutRow → List LayoutRow → List LayoutRow → Prop
  | floor {fs gs : List Floor} {f : Floor} (hfloors : b.floors = fs ++ f :: gs) :
      RowPlace b (fs.flatMap onFloor) (ofFloor f) (underFloor f) (gs.flatMap onFloor)
  | restroom {fs gs : List Floor} {f : Floor} {rs ss : List Restroom} {r : Restroom}
      (hfloors : b.floors = fs ++ f :: gs) (hrestrooms : f.restrooms = rs ++ r :: ss) :
      RowPlace b (fs.flatMap onFloor ++ ofFloor f :: rs.map (ofRestroom f)) (ofRestroom f r) []
        (ss.map (ofRestroom f) ++ f.corridors.flatMap (ofCorridor f) ++ gs.flatMap onFloor)
  | corridor {fs gs : List Floor} {f : Floor} {cs ds : List Corridor} {c : Corridor}
      (hfloors : b.floors = fs ++ f :: gs) (hcorridors : f.corridors = cs ++ c :: ds) :
      RowPlace b
        (fs.flatMap onFloor ++
          ofFloor f :: (f.restrooms.map (ofRestroom f) ++ cs.flatMap (ofCorridor f)))
        (corridorRow f c) (liftRows f c c.lifts 0) (ds.flatMap (ofCorridor f) ++ gs.flatMap onFloor)
  | lift {fs gs : List Floor} {f : Floor} {cs ds : List Corridor} {c : Corridor} {ls ms : List Lift}
      {l : Lift} (hfloors : b.floors = fs ++ f :: gs) (hcorridors : f.corridors = cs ++ c :: ds)
      (hlifts : c.lifts = ls ++ l :: ms) :
      RowPlace b
        (fs.flatMap onFloor ++ ofFloor f :: (f.restrooms.map (ofRestroom f) ++
          cs.flatMap (ofCorridor f) ++ corridorRow f c :: liftRows f c ls 0))
        (ofLift f c l ls.length) []
        (liftRows f c ms (ls.length + 1) ++ ds.flatMap (ofCorridor f) ++ gs.flatMap onFloor)

namespace Building

variable {b : Building} {before below rest after : List LayoutRow} {row : LayoutRow}

/-- Every row has a place. -/
theorem exists_rowPlace (h : b.layoutRows = before ++ row :: after) :
    ∃ below rest, after = below ++ rest ∧ b.RowPlace before row below rest := by
  obtain ⟨fs, f, gs, u, v, hfloors, hon, rfl, rfl⟩ := flatMap_eq_append_cons h
  cases u with
  | nil =>
    obtain ⟨rfl, rfl⟩ := List.cons.inj hon
    rw [List.append_nil]
    exact ⟨_, _, rfl, .floor hfloors⟩
  | cons first u =>
    obtain ⟨rfl, hunder⟩ := List.cons.inj hon
    rcases append_eq_append_cons hunder with ⟨t, hrestroom, rfl⟩ | ⟨t, rfl, hcorridor⟩
    · obtain ⟨rs, r, ss, hrestrooms, rfl, rfl, rfl⟩ := map_eq_append_cons hrestroom
      exact ⟨[], _, rfl, .restroom hfloors hrestrooms⟩
    · obtain ⟨cs, c, ds, u, v, hcorridors, hin, rfl, rfl⟩ := flatMap_eq_append_cons hcorridor
      cases u with
      | nil =>
        obtain ⟨rfl, rfl⟩ := List.cons.inj hin
        rw [List.append_nil]
        exact ⟨_, _, List.append_assoc .., .corridor hfloors hcorridors⟩
      | cons first u =>
        obtain ⟨rfl, hlift⟩ := List.cons.inj hin
        obtain ⟨ls, l, ms, hlifts, rfl, rfl, rfl⟩ := liftRows_eq_append_cons hlift
        rw [← List.append_assoc, Nat.zero_add]
        exact ⟨[], _, rfl, .lift hfloors hcorridors hlifts⟩

/-- The rows below a row are indented further. -/
theorem RowPlace.depth_lt (h : b.RowPlace before row below rest) :
    ∀ r ∈ below, row.depth < r.depth := by
  cases h with
  | floor => exact fun r => depth_of_mem_underFloor
  | corridor => exact fun r hr => by rw [depth_of_mem_liftRows hr]; exact Nat.lt_succ_self 1
  | restroom | lift => exact fun r hr => nomatch hr

/-- The first of the others is not. -/
theorem RowPlace.head?_depth_le (h : b.RowPlace before row below rest) :
    ∀ r ∈ rest.head?, r.depth ≤ row.depth := by
  cases h with
  | @floor fs gs => exact head?_flatMap_onFloor 0 gs
  | @restroom fs gs f rs ss =>
    exact forall_head?_append
      (forall_head?_append (head?_map_ofRestroom le_rfl f ss)
        (head?_flatMap_ofCorridor le_rfl f f.corridors))
      (head?_flatMap_onFloor 1 gs)
  | @corridor fs gs f cs ds =>
    exact forall_head?_append (head?_flatMap_ofCorridor le_rfl f ds) (head?_flatMap_onFloor 1 gs)
  | @lift fs gs f cs ds =>
    exact forall_head?_append
      (forall_head?_append
        (fun r hr => (depth_of_mem_liftRows (List.mem_of_mem_head? hr)).le)
        (head?_flatMap_ofCorridor (Nat.le_succ 1) f ds))
      (head?_flatMap_onFloor 2 gs)

/-- The rows below a row are told by their depth. -/
theorem RowPlace.dropWhile_eq (h : b.RowPlace before row below rest) :
    ((below ++ rest).dropWhile fun r => row.depth < r.depth) = rest :=
  dropWhile_append_eq (fun r hr => decide_eq_true (h.depth_lt r hr)) fun r hr =>
    decide_eq_false (h.head?_depth_le r hr).not_gt

end Building

/-! ## No two rows stand for the same -/

namespace LayoutNode

/-- The id of the corridor that the row is about. -/
def corridorId? : LayoutNode → Option String
  | corridor _ c | lift _ c _ => some c
  | floor _ | restroom _ _ => none

end LayoutNode

theorem Corridor.of_mem_nodes {c : Corridor} {floor : String} {n : LayoutNode} (h : n ∈ c.nodes floor) :
    n.floorId = floor ∧ n.corridorId? = some c.id := by
  rcases List.mem_cons.1 h with rfl | h
  · exact ⟨rfl, rfl⟩
  · obtain ⟨l, -, rfl⟩ := List.mem_map.1 h
    exact ⟨rfl, rfl⟩

theorem Corridor.nodup_nodes {c : Corridor} (h : (c.lifts.map (·.id)).Nodup) (floor : String) :
    (c.nodes floor).Nodup := by
  have hlifts : (c.lifts.map fun l => LayoutNode.lift floor c.id l.id).Nodup := by
    have hinj := h.map (f := LayoutNode.lift floor c.id) fun _ _ heq => by injection heq
    rwa [List.map_map] at hinj
  refine List.nodup_cons.2 ⟨fun hmem => ?_, hlifts⟩
  obtain ⟨l, -, heq⟩ := List.mem_map.1 hmem
  cases heq

theorem Floor.floorId_of_mem_nodes {f : Floor} {n : LayoutNode} (h : n ∈ f.nodes) :
    n.floorId = f.id := by
  rcases List.mem_cons.1 h with rfl | h
  · rfl
  · rcases List.mem_append.1 h with h | h
    · obtain ⟨r, -, rfl⟩ := List.mem_map.1 h
      rfl
    · obtain ⟨c, -, h⟩ := List.mem_flatMap.1 h
      exact (Corridor.of_mem_nodes h).1

/-- Ids are distinct wherever the layout looks something up by them, and the floors are in the order of
    their numbers. -/
structure Building.Orderly (b : Building) : Prop where
  floors : (b.floors.map (·.id)).Nodup
  ascending : b.floors.Pairwise fun f g => f.number < g.number
  components : ∀ f ∈ b.floors, ∀ kind : ComponentKind, (kind.idsOn f).Nodup
  lifts : ∀ f ∈ b.floors, ∀ c ∈ f.corridors, (c.lifts.map (·.id)).Nodup

theorem Floor.nodup_nodes {f : Floor} (hcomponents : ∀ kind : ComponentKind, (kind.idsOn f).Nodup)
    (hlifts : ∀ c ∈ f.corridors, (c.lifts.map (·.id)).Nodup) : f.nodes.Nodup := by
  have hrestrooms : (f.restrooms.map fun r => LayoutNode.restroom f.id r.id).Nodup := by
    have hinj := (hcomponents .restroom).map (f := LayoutNode.restroom f.id)
      fun _ _ heq => by injection heq
    rwa [ComponentKind.idsOn, List.map_map] at hinj
  have hcorridors : (f.corridors.flatMap (·.nodes f.id)).Nodup := by
    refine List.nodup_flatMap.2 ⟨fun c hc => Corridor.nodup_nodes (hlifts c hc) f.id, ?_⟩
    refine (List.pairwise_map.1 (hcomponents .corridor)).imp fun hne n hn hn' => hne ?_
    exact Option.some.inj ((Corridor.of_mem_nodes hn).2.symm.trans (Corridor.of_mem_nodes hn').2)
  refine List.nodup_cons.2 ⟨fun hmem => ?_, List.nodup_append'.2 ⟨hrestrooms, hcorridors, ?_⟩⟩
  · rcases List.mem_append.1 hmem with hmem | hmem
    · obtain ⟨r, -, heq⟩ := List.mem_map.1 hmem
      cases heq
    · obtain ⟨c, -, hmem⟩ := List.mem_flatMap.1 hmem
      cases (Corridor.of_mem_nodes hmem).2
  · intro n hn hn'
    obtain ⟨r, -, rfl⟩ := List.mem_map.1 hn
    obtain ⟨c, -, hmem⟩ := List.mem_flatMap.1 hn'
    cases (Corridor.of_mem_nodes hmem).2

theorem Building.Orderly.nodup_nodes {b : Building} (h : b.Orderly) : b.nodes.Nodup := by
  refine List.nodup_flatMap.2
    ⟨fun f hf => Floor.nodup_nodes (h.components f hf) (h.lifts f hf), ?_⟩
  refine (List.pairwise_map.1 h.floors).imp fun hne n hn hn' => hne ?_
  exact (Floor.floorId_of_mem_nodes hn).symm.trans (Floor.floorId_of_mem_nodes hn')

end Floorplan
