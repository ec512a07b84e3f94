import Floorplan.Proofs.Pattern.Absent
import Floorplan.Proofs.Pattern.Groups
import Floorplan.Proofs.Pattern.Leads

set_option autoImplicit false

/-! # Reading phrases

What the parts read of which the phrases are made: a word between two others, a number, and a name that is
perhaps in quotes. A name without quotes is read up to the end of the text unless the phrase goes on
behind it; the ways to read it are then tried from the longest (`ways_quotableName`). -/

namespace Floorplan.Phrase

open Pattern

variable {g : List (Nat × List Char × List Char)} {s : List Char}

/-! ## The characters of names -/

/-- The character does not end a name. -/
def Unquoted (x : Char) : Prop := x ≠ '"' ∧ x ≠ '\''

instance (x : Char) : Decidable (Unquoted x) := inferInstanceAs (Decidable (x ≠ '"' ∧ x ≠ '\''))

/-- A name that is read in quotes or without has no quotes inside. -/
theorem groupsWithin_unquoted {p : Pattern} (hp : p.Within Unquoted) (h : p.GroupsWithin Unquoted)
    (i : Nat) :
    (Pattern.sequence [optionalQuote, .group i p, optionalQuote]).GroupsWithin
      Unquoted := by
  simp [optionalQuote, Pattern.GroupsWithin, hp, h]

theorem contains_noneOf_quotes {x : Char} :
    (CharClass.noneOf ['"', '\'']).contains x = true ↔ Unquoted x := by
  simp [CharClass.contains, Unquoted]

@[simp] theorem groupsWithin_quotableName (i : Nat) :
    (quotableName i).GroupsWithin Unquoted :=
  groupsWithin_unquoted (p := Pattern.oneOrMore _)
    ⟨fun _ => contains_noneOf_quotes.1, fun _ => contains_noneOf_quotes.1⟩ ⟨trivial, trivial⟩ i

@[simp] theorem groupsWithin_earliestName (i : Nat) :
    (earliestName i).GroupsWithin Unquoted :=
  groupsWithin_unquoted (p := Pattern.oneOrFewMore _)
    ⟨fun _ => contains_noneOf_quotes.1, fun _ => contains_noneOf_quotes.1⟩ ⟨trivial, trivial⟩ i

theorem unquoted_of_isDigit {x : Char} (h : Text.isDigit x = true) : Unquoted x := by
  constructor <;>
    · rintro rfl
      revert h
      decide

@[simp] theorem groupsWithin_count (i : Nat) : (count i).GroupsWithin Unquoted :=
  ⟨⟨fun _ => unquoted_of_isDigit, fun _ => unquoted_of_isDigit⟩, trivial, trivial⟩

theorem groupsWithin_renameBuilding : ∀ p ∈ renameBuilding, p.GroupsWithin Unquoted := by
  simp [renameBuilding, anyWord, optionalWord, between, assignment,
    Pattern.space, Pattern.GroupsWithin]

theorem groupsWithin_createName : ∀ p ∈ createName, p.GroupsWithin Unquoted := by
  simp [createName, anyWord, optionalWord, between, optionalNamed,
    nameBeforeWith, nameAtEnd, Pattern.GroupsWithin]

theorem groupsWithin_switch : ∀ p ∈ switch, p.GroupsWithin Unquoted := by
  simp [switch, anyWord, optionalWord, between]

theorem groupsWithin_renameFloor : ∀ p ∈ renameFloor, p.GroupsWithin Unquoted := by
  simp [renameFloor, renameVerb, anyWord, between, assignment, Pattern.space, Pattern.GroupsWithin]

theorem groupsWithin_renameFloorFirst (kind : ComponentKind) :
    (renameFloorFirst kind).GroupsWithin Unquoted := by
  simp [renameFloorFirst, renameVerb, anyWord, between]

theorem groupsWithin_renameNameFirst (kind : ComponentKind) :
    (renameNameFirst kind).GroupsWithin Unquoted := by
  simp [renameNameFirst, renameVerb, anyWord, between]

/-! ## Reading names -/

theorem not_reads_quote (hs : ∀ x ∈ s.head?, Unquoted x) (r : List Char) :
    ¬ (one (.oneOf ['"', '\''])).Reads s r := by
  rintro ⟨x, hx, rfl⟩
  have hunquoted := hs x rfl
  simp only [CharClass.contains, List.contains_cons, List.contains_nil, Bool.or_false,
    Bool.or_eq_true, beq_iff_eq] at hx
  exact hx.elim hunquoted.1 hunquoted.2

theorem ways_optionalQuote (hs : ∀ x ∈ s.head?, Unquoted x) :
    optionalQuote.ways ⟨s, g⟩ = [⟨s, g⟩] := by
  have hnone : (one (.oneOf ['"', '\''])).ways ⟨s, g⟩ = [] := ways_eq_nil_iff.2 (not_reads_quote hs)
  show (one (.oneOf ['"', '\''])).ways ⟨s, g⟩ ++ [⟨s, g⟩] = [⟨s, g⟩]
  rw [hnone, List.nil_append]

theorem unquoted_of_mem_restsGreedy {c : CharClass} {r : List Char} (hs : ∀ x ∈ s, Unquoted x)
    (hr : r ∈ c.restsGreedy s) : ∀ x ∈ r.head?, Unquoted x := by
  obtain ⟨u, -, rfl⟩ := CharClass.mem_restsGreedy.1 hr
  exact fun x hx => hs x (List.mem_append_right u (List.mem_of_mem_head? hx))

/-- The ways to read a name without quotes, the longest first. -/
theorem ways_quotableName (i : Nat) {x : Char} (hs : ∀ y ∈ x :: s, Unquoted y) :
    (quotableName i).ways ⟨x :: s, g⟩ = ((CharClass.noneOf ['"', '\'']).restsGreedy s).map fun r =>
      ⟨r, (i, x :: s, r) :: g⟩ := by
  obtain ⟨hx, htail⟩ := List.forall_mem_cons.1 hs
  have hfirst := contains_noneOf_quotes.2 hx
  have hread : ∀ r ∈ (CharClass.noneOf ['"', '\'']).restsGreedy s,
      optionalQuote.ways ⟨r, (i, x :: s, r) :: g⟩ = [⟨r, (i, x :: s, r) :: g⟩] :=
    fun r hr => ways_optionalQuote (unquoted_of_mem_restsGreedy htail hr)
  have hstart : optionalQuote.ways ⟨x :: s, g⟩ = [⟨x :: s, g⟩] :=
    ways_optionalQuote fun y hy => hs y (List.mem_of_mem_head? hy)
  simp only [quotableName, Pattern.sequence, List.foldr_cons, List.foldr_nil, Pattern.ways, hstart,
    oneOrMore, hfirst, if_true, List.flatMap_cons, List.flatMap_nil, List.append_nil, List.map_map]
  rw [List.flatMap_map, List.map_eq_flatMap]
  refine List.flatMap_congr fun r hr => ?_
  simp [hread r hr]

/-- All of a name without quotes is read. -/
theorem leads_quotableName (i : Nat) (hne : s ≠ []) (hs : ∀ x ∈ s, Unquoted x) :
    (quotableName i).Leads ⟨s, g⟩ ⟨[], (i, s, []) :: g⟩ := by
  cases s with
  | nil => exact absurd rfl hne
  | cons x s =>
    have htail : ∀ y ∈ s, (CharClass.noneOf ['"', '\'']).contains y = true := fun y hy =>
      contains_noneOf_quotes.2 (hs y (List.mem_cons_of_mem x hy))
    have hhead := CharClass.head_restsGreedy (v := []) htail (by simp)
    rw [List.append_nil] at hhead
    rw [Leads, ways_quotableName i hs, List.head?_map, hhead]
    rfl

/-- Where the phrase goes on behind the name, and cannot do so any later, the name ends. -/
theorem leads_quotableName_before (i : Nat) {q : Pattern} {n v : List Char} {c : Char} {m : Cursor}
    (hne : n ≠ []) (hs : ∀ x ∈ n ++ c :: v, Unquoted x) (hlater : ∀ t, t <:+ v → ∀ r, ¬ q.Reads t r)
    (hq : q.Leads ⟨c :: v, (i, n ++ c :: v, c :: v) :: g⟩ m) :
    (andThen (quotableName i) q).Leads ⟨n ++ c :: v, g⟩ m := by
  cases n with
  | nil => exact absurd rfl hne
  | cons x n =>
    have hn : ∀ y ∈ n, (CharClass.noneOf ['"', '\'']).contains y = true := fun y hy =>
      contains_noneOf_quotes.2 (hs y (by simp [hy]))
    have hc : (CharClass.noneOf ['"', '\'']).contains c = true :=
      contains_noneOf_quotes.2 (hs c (by simp))
    obtain ⟨shorter, hrests⟩ := CharClass.restsGreedy_append hn (c :: v)
    rw [CharClass.restsGreedy, if_pos hc] at hrests
    have hways : (quotableName i).ways ⟨x :: (n ++ c :: v), g⟩ = _ := ways_quotableName i hs
    rw [hrests, List.append_assoc, List.map_append, List.singleton_append, List.map_cons] at hways
    refine Leads.andThen_of_ways hways (fun k hk r => ?_) hq
    obtain ⟨t, ht, rfl⟩ := List.mem_map.1 hk
    obtain ⟨u, -, hu⟩ := CharClass.mem_restsGreedy.1 ht
    exact hlater t ⟨u, hu.symm⟩ r

/-- A name in quotes is read without them, whatever stands behind it. -/
theorem leads_quotableName_quoted (i : Nat) {c : Char} (hc : c ∈ ['"', '\'']) (hne : s ≠ [])
    (hs : ∀ x ∈ s, Unquoted x) (r : List Char) :
    (quotableName i).Leads ⟨c :: (s ++ c :: r), g⟩ ⟨r, (i, s ++ c :: r, c :: r) :: g⟩ := by
  have hquote : (CharClass.oneOf ['"', '\'']).contains c = true := by
    simpa [CharClass.contains] using hc
  have hend : ∀ x ∈ (c :: r).head?, (CharClass.noneOf ['"', '\'']).contains x = false := by
    rintro x ⟨⟩
    simpa [CharClass.contains, or_iff_not_imp_left] using hc
  have hread := leads_oneOrMore (g := g) hne (fun x hx => contains_noneOf_quotes.2 (hs x hx)) hend
  exact (leads_one hquote).optional.andThen ((hread.group i).andThen
    ((leads_one hquote).optional.andThen (leads_nothing _)))

/-- The ways to read a name that may end early, the shortest first. -/
theorem ways_earliestName (i : Nat) {x : Char} (hx : Unquoted x) (s : List Char) :
    (earliestName i).ways ⟨x :: s, g⟩ = ((CharClass.noneOf ['"', '\'']).restsReluctant s).flatMap
      fun r => optionalQuote.ways ⟨r, (i, x :: s, r) :: g⟩ := by
  have hfirst := contains_noneOf_quotes.2 hx
  have hstart : optionalQuote.ways ⟨x :: s, g⟩ = [⟨x :: s, g⟩] :=
    ways_optionalQuote fun y hy => Option.some.inj hy ▸ hx
  simp only [earliestName, Pattern.sequence, List.foldr_cons, List.foldr_nil, Pattern.ways, hstart,
    oneOrFewMore, hfirst, if_true, List.flatMap_cons, List.flatMap_nil, List.append_nil,
    List.flatMap_map]
  exact List.flatMap_congr fun r _ => List.flatMap_singleton' _

/-- A name that may end early ends where the phrase first goes on behind it. -/
theorem leads_earliestName_before (i : Nat) {q : Pattern} {n v : List Char} {m : Cursor}
    (hne : n ≠ []) (hn : ∀ x ∈ n, Unquoted x) (hv : ∀ x ∈ v.head?, Unquoted x)
    (hearlier : ∀ t, t ≠ [] → t <:+ n → ∀ r, ¬ q.Reads (t ++ v) r)
    (hq : q.Leads ⟨v, (i, n ++ v, v) :: g⟩ m) :
    (andThen (earliestName i) q).Leads ⟨n ++ v, g⟩ m := by
  cases n with
  | nil => exact absurd rfl hne
  | cons x n =>
    obtain ⟨hx, htail⟩ := List.forall_mem_cons.1 hn
    obtain ⟨longer, hlonger, hplaces⟩ := CharClass.restsReluctant_append
      (fun y hy => contains_noneOf_quotes.2 (htail y hy)) v
    obtain ⟨later, hlater⟩ := CharClass.exists_restsReluctant (.noneOf ['"', '\'']) v
    have hend : ∀ groups, optionalQuote.ways ⟨v, groups⟩ = [⟨v, groups⟩] := fun _ =>
      ways_optionalQuote hv
    have hways := ways_earliestName (g := g) i hx (n ++ v)
    rw [hlonger, hlater, List.flatMap_append, List.flatMap_cons, hend] at hways
    refine Leads.andThen_of_ways hways (fun k hk r hread => ?_) hq
    obtain ⟨t, ht, hk⟩ := List.mem_flatMap.1 hk
    obtain ⟨w, hw, hsuffix, rfl⟩ := hplaces t ht
    have hplace : optionalQuote.ways ⟨w ++ v, (i, x :: (n ++ v), w ++ v) :: g⟩
        = [⟨w ++ v, (i, x :: (n ++ v), w ++ v) :: g⟩] := by
      refine ways_optionalQuote fun y hy => ?_
      rw [List.head?_append_of_ne_nil _ hw] at hy
      exact htail y (hsuffix.subset (List.mem_of_mem_head? hy))
    rw [hplace, List.mem_singleton] at hk
    rw [hk] at hread
    exact hearlier w hw (hsuffix.trans (List.suffix_cons x n)) r hread

/-! ## Reading words -/

theorem noun_ne_nil (kind : ComponentKind) : kind.noun.toList ≠ [] := by
  cases kind <;> decide

theorem isBlank_head_noun (kind : ComponentKind) :
    ∀ x ∈ kind.noun.toList.head?, Text.isBlank x = false := by
  cases kind <;> decide

/-- None of the words begins with white space, and where one of them stands none of the others is read. -/
def Apart (ws : List String) : Prop :=
  ∀ w ∈ ws, w.toList ≠ [] ∧ (∀ x ∈ w.toList.head?, Text.isBlank x = false) ∧
    ∀ v ∈ ws, v ≠ w → (word v).leftovers w.toList = []

instance (ws : List String) : Decidable (Apart ws) :=
  inferInstanceAs (Decidable (∀ w ∈ ws, _ ∧ _ ∧ ∀ v ∈ ws, v ≠ w → _))

/-- One of the words is read where it stands. -/
theorem leads_anyWord {ws : List String} {w : String} (hws : Apart ws) (hw : w ∈ ws) (s : List Char) :
    (anyWord ws).Leads ⟨w.toList ++ s, g⟩ ⟨s, g⟩ := by
  have hothers := (hws w hw).2.2
  have hread : (word w).Leads ⟨w.toList ++ s, g⟩ ⟨s, g⟩ := leads_word rfl s
  clear hws
  unfold anyWord
  induction ws with
  | nil => cases hw
  | cons v ws ih =>
    obtain ⟨hv, hothers⟩ := List.forall_mem_cons.1 hothers
    cases ws with
    | nil =>
      rw [List.mem_singleton.1 hw] at hread ⊢
      exact hread
    | cons v' ws =>
      by_cases heq : v = w
      · exact Leads.orElse (heq ▸ hread)
      · have htail := ih ((List.mem_cons.1 hw).resolve_left (Ne.symm heq)) hothers
        exact Leads.orElse_right (not_reads_of_leftovers (hv heq) s) htail

/-- A word between two others is read with the white space around it. -/
theorem leads_between {ws : List String} {w : String} (hws : Apart ws) (hw : w ∈ ws) (s : List Char) :
    (between ws).Leads ⟨' ' :: (w.toList ++ ' ' :: s), g⟩ ⟨Text.trimLeft s, g⟩ := by
  obtain ⟨hne, hhead, -⟩ := hws w hw
  exact (leads_gap_before hne hhead _).andThen ((leads_anyWord hws hw _).andThen
    ((leads_gap rfl s).andThen (leads_nothing _)))

/-- The word "to" is read with the white space around it. -/
theorem leads_to (s : List Char) :
    (between ["to"]).Leads ⟨' ' :: ("to".toList ++ ' ' :: s), g⟩ ⟨Text.trimLeft s, g⟩ :=
  leads_between (by decide) (by decide) s

end Floorplan.Phrase
