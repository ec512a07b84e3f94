import Floorplan.Proofs.Intent.CombinedRequest
import Floorplan.Proofs.Intent.Quantity
import Floorplan.Proofs.Intent.Sequence

set_option autoImplicit false

/-! # A combined addition is the sequence of its parts

Floors are added first and the components then go on all floors, the new ones too, so a combined addition
does what the additions would do one after the other. It puts the building in its place in any case,
though, where a sequence without parts does nothing. The collections differ if every quantity is zero and
another building has the id of the active one (`CombinedAddition.dispatch_eq_sequence_iff`). -/

namespace Floorplan

/-- The number of components of a kind that is given. -/
def AddCounts.of (counts : AddCounts) : ComponentKind → Option Nat
  | .restroom => counts.restrooms
  | .corridor => counts.corridors

/-- The quantities that are given are acceptable. -/
def AddCounts.Limited (counts : AddCounts) : Prop :=
  ∀ n ∈ [counts.floors, counts.restrooms, counts.corridors].filterMap id, n ≤ Intent.maxQuantity

namespace Intent

variable {c : Collection} {clock : Clock} {s s' : Stamps} {b b' : Building} {said : List String}
  {counts : AddCounts}

/-- The additions that a combined one consists of: none for a quantity that is zero or not given. -/
def parts (counts : AddCounts) : List Intent :=
  (positive? counts.floors).toList.map addFloors ++
    ((positive? counts.restrooms).toList.map (addComponents .restroom · none) ++
      (positive? counts.corridors).toList.map (addComponents .corridor · none))

theorem row_growFloors {count : Option Nat} (hcount : ∀ n, count = some n → n ≤ maxQuantity)
    (h : growFloors b count clock s = ((b', said), s')) :
    Row clock ((positive? count).toList.map addFloors) b s b' s' := by
  unfold growFloors at h
  split at h
  · next hnone =>
    cases h
    rw [hnone]
    exact .nil b s
  · next n hn =>
    cases h
    have hle := hcount n (eq_of_positive?_eq_some hn)
    rw [hn]
    exact .cons (fun c hb => puts_addFloors hb hle clock s) rfl (.nil _ _)

theorem row_growComponents {kind : ComponentKind} {count : Option Nat}
    (hcount : ∀ n, count = some n → n ≤ maxQuantity)
    (h : growComponents b kind count clock s = ((b', said), s')) :
    Row clock ((positive? count).toList.map (addComponents kind · none)) b s b' s' := by
  unfold growComponents at h
  split at h
  · next hnone =>
    cases h
    rw [hnone]
    exact .nil b s
  · next n hn =>
    cases h
    have hle := hcount n (eq_of_positive?_eq_some hn)
    rw [hn]
    exact .cons (fun c hb => puts_addEverywhere hb hle kind clock s) rfl (.nil _ _)

/-- **What a combined addition does to a building, its parts do in a row**, and every floor that is there
in the end has got what is stated. -/
theorem addMultiple_row (hcounts : counts.Limited) (hb : c.active? = some b) (clock : Clock)
    (s : Stamps) :
    ∃ b' s', (addMultiple counts).Puts c clock s b' s' ∧ Row clock (parts counts) b s b' s' ∧
      ∀ kind, b'.counts kind = (b.counts kind ++ List.replicate (counts.floors.getD 0) 2).map
        (· + (counts.of kind).getD 0) := by
  have hlimit : ∀ count ∈ [counts.floors, counts.restrooms, counts.corridors], ∀ n, count = some n →
      n ≤ maxQuantity :=
    fun count hmem n hn => hcounts n (List.mem_filterMap.2 ⟨count, hmem, hn⟩)
  rcases hfloors : growFloors b counts.floors clock s with ⟨⟨taller, said₁⟩, s₁⟩
  rcases hrestrooms : growComponents taller .restroom counts.restrooms clock s₁ with
    ⟨⟨wider, said₂⟩, s₂⟩
  rcases hcorridors : growComponents wider .corridor counts.corridors clock s₂ with
    ⟨⟨widest, said₃⟩, s₃⟩
  have hedit : addMultipleTo b counts clock s =
      ((some widest, .multipleAdded (said₁ ++ said₂ ++ said₃) b.name widest.totalFloors), s₃) := by
    simp only [addMultipleTo, hfloors, hrestrooms, hcorridors]
  refine ⟨widest, s₃, ?_, ?_, ?_⟩
  · refine puts_of_edit hb (fun k hk => hcounts k ?_) rfl hedit
    exact List.max?_mem hk
  · exact (row_growFloors (hlimit _ (by simp)) hfloors).append
      ((row_growComponents (hlimit _ (by simp)) hrestrooms).append
        (row_growComponents (hlimit _ (by simp)) hcorridors))
  · intro kind
    rw [(growComponents_eq hcorridors).1, (growComponents_eq hrestrooms).1, (growFloors_eq hfloors).1]
    cases kind <;> simp [AddCounts.of]

end Intent

namespace CombinedAddition

open Intent

/-- All numbers are decimal and acceptable. -/
def Limited (a : CombinedAddition) : Prop :=
  ∀ d ∈ a.numbers, ∃ n ≤ maxQuantity, Text.word? d.toList = some n

variable {a : CombinedAddition} {c : Collection} {b : Building}

theorem Limited.typed (h : a.Limited) : a.Typed := by
  intro d hd
  obtain ⟨n, -, hn⟩ := h d hd
  exact Option.isSome_iff_exists.2 ⟨n, hn⟩

theorem number?_mem {kind : ComponentKind} {d : String} (h : a.number? kind = some d) :
    d ∈ a.numbers := by
  cases a with
  | withOne floors k count =>
    simp only [number?, Option.ite_none_right_eq_some, Option.some.injEq] at h
    simp [numbers, h.2]
  | withBoth floors restrooms corridors =>
    cases kind <;>
      · cases h
        simp [numbers]

theorem Limited.counts (h : a.Limited) : a.counts.Limited := by
  have hword : ∀ d ∈ a.numbers, ∀ n, Text.word? d.toList = some n → n ≤ maxQuantity := by
    intro d hd n hn
    obtain ⟨m, hm, heq⟩ := h d hd
    exact Option.some.inj (heq.symm.trans hn) ▸ hm
  have hfloors : a.floors ∈ a.numbers := by
    cases a <;> exact List.mem_cons_self
  intro n hn
  obtain ⟨count, hmem, rfl⟩ := List.mem_filterMap.1 hn
  simp only [CombinedAddition.counts, List.mem_cons, List.not_mem_nil, or_false] at hmem
  rcases hmem with hn | hn | hn
  · exact hword _ hfloors n hn.symm
  · obtain ⟨d, hd, hn⟩ := Option.bind_eq_some_iff.1 hn.symm
    exact hword d (number?_mem hd) n hn
  · obtain ⟨d, hd, hn⟩ := Option.bind_eq_some_iff.1 hn.symm
    exact hword d (number?_mem hd) n hn

/-- What dispatching the request leads to, and what carrying out its parts leads to. -/
theorem Limited.dispatch_and_parts (h : a.Limited) (hb : c.active? = some b) (clock : Clock)
    (s : Stamps) :
    ∃ o b' s', dispatch c a.text clock s = .ok (o, s') ∧
      o.collection.getD c = c.withBuilding b' ∧
      applyAll clock (parts a.counts) c s
        = .ok (if parts a.counts = [] then c else c.withBuilding b', s') ∧
      (parts a.counts = [] → b' = b) ∧ b'.id = b.id ∧
      ∀ kind, b'.counts kind = (b.counts kind ++ List.replicate (a.counts.floors.getD 0) 2).map
        (· + (a.counts.of kind).getD 0) := by
  obtain ⟨b', s', ⟨o, happly, hcollection⟩, hrow, hcounts⟩ := addMultiple_row h.counts hb clock s
  refine ⟨o, b', s', ?_, hcollection, hrow.applyAll_eq hb, fun hnil => ?_, hrow.id_eq, hcounts⟩
  · rw [dispatch, h.typed.parse?_eq]
    exact happly
  · rw [hnil] at hrow
    cases hrow
    rfl

/-- **A combined addition is the sequence of its parts.** Dispatching the request draws the stamps that
its parts draw when they are carried out one after the other, and the floors that it adds get the
components too. It leaves the same collection if and only if one of the quantities is not zero or no
other building has the id of the active one. -/
theorem dispatch_eq_sequence_iff (a : CombinedAddition) (h : a.Limited) (hb : c.active? = some b)
    (clock : Clock) (s : Stamps) :
    ∃ o c' s', dispatch c a.text clock s = .ok (o, s') ∧
      applyAll clock (parts a.counts) c s = .ok (c', s') ∧
      (o.collection.getD c = c' ↔
        parts a.counts ≠ [] ∨ ∀ x ∈ c.buildings, x.id = b.id → x = b) ∧
      ∃ b', (o.collection.getD c).active? = some b' ∧ ∀ kind,
        b'.counts kind = (b.counts kind ++ List.replicate (a.counts.floors.getD 0) 2).map
          (· + (a.counts.of kind).getD 0) := by
  obtain ⟨o, b', s', hdispatch, hcollection, happlyAll, hsame, hid, hcounts⟩ :=
    h.dispatch_and_parts hb clock s
  refine ⟨o, _, s', hdispatch, happlyAll, ?_, b', ?_, hcounts⟩
  · rw [hcollection]
    by_cases hnil : parts a.counts = []
    · rw [if_pos hnil, hsame hnil, Collection.withBuilding_eq_self_iff]
      simp [hnil]
    · simp [hnil]
  · rw [hcollection]
    exact Collection.active?_withBuilding hb hid

/-- Two floors, a restroom and three corridors. -/
def extension : CombinedAddition := .withBoth "2" "1" "03"

theorem extension_limited : extension.Limited := by
  have hdecimal : ∀ d ∈ ["2", "1", "03"], ∃ n ≤ maxQuantity, Text.word? d.toList = some n := by decide
  exact hdecimal

theorem farm_extension : extension.Limited ∧ farm.active? = some cottage ∧
    ∃ o c' s', dispatch farm "add 2 floors, 1 restrooms and 03 corridors" (.still 1000) {} = .ok (o, s') ∧
      applyAll (.still 1000) [addFloors 2, addComponents .restroom 1 none, addComponents .corridor 3 none]
        farm {} = .ok (c', s') ∧
      o.collection.getD farm = c' := by
  refine ⟨extension_limited, rfl, ?_⟩
  obtain ⟨o, c', s', hdispatch, hparts, hsame, -⟩ :=
    dispatch_eq_sequence_iff extension extension_limited (c := farm) rfl (.still 1000) {}
  exact ⟨o, c', s', hdispatch, hparts, hsame.2 (Or.inl (by decide))⟩

/-- A request for nothing. -/
def forNothing : CombinedAddition := .withOne "0" .restroom "0"

/-- Two buildings of one id. -/
def twins : Collection :=
  ⟨[⟨"building-1", "North", 0, []⟩, ⟨"building-1", "South", 0, []⟩], some "building-1"⟩

/-- A request for nothing puts the active building in the place of its namesake. -/
theorem twins_forNothing :
    ¬ ∀ (a : CombinedAddition) (c : Collection) (b : Building) (now : Nat) (s : Stamps),
      a.Limited → c.active? = some b →
      ∃ o c' s', dispatch c a.text (.still now) s = .ok (o, s') ∧
        applyAll (.still now) (parts a.counts) c s = .ok (c', s') ∧ o.collection.getD c = c' := by
  intro hall
  have hlimited : forNothing.Limited := by
    have hdecimal : ∀ d ∈ ["0", "0"], ∃ n ≤ maxQuantity, Text.word? d.toList = some n := by decide
    exact hdecimal
  have hactive : twins.active? = some ⟨"building-1", "North", 0, []⟩ := by decide
  have hnil : parts forNothing.counts = [] := by decide
  obtain ⟨o, c', s', hdispatch, hparts, hsame⟩ := hall forNothing twins _ 0 {} hlimited hactive
  obtain ⟨o', b', s'', hdispatch', hcollection, hparts', hkept, -⟩ :=
    hlimited.dispatch_and_parts hactive (.still 0) {}
  cases hdispatch.symm.trans hdispatch'
  rw [hnil, if_pos rfl] at hparts'
  cases hparts.symm.trans hparts'
  rw [hcollection, hkept hnil] at hsame
  revert hsame
  decide

end CombinedAddition

end Floorplan
