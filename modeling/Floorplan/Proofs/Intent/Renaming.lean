import Floorplan.Proofs.Intent.Named
import Floorplan.Proofs.Pattern.Mentions
import Floorplan.Proofs.Text.Decimal

set_option autoImplicit false

/-! # Two wordings of a renaming

"rename restroom 1 in floor 2 to Main" and "rename restroom 1 to Main in floor 2" are made of the same
pieces in another order. None of what the texts are looked through for can lie across two of the pieces,
so a word occurs in the one exactly when it occurs in the other, and then it occurs in the name or is one
of the fixed pieces. Hence both are taken for a request for help, or for the list of buildings, or neither
is (`Renaming.Plain.showCommands?_eq`, `Renaming.Plain.listBuildings?_eq`); and a verb of renaming stands
in front and nowhere else (`Renaming.Plain.no_verb`). -/

namespace Floorplan

open Text (spaced smallForm smallForms Mentions)

/-! ## The two wordings -/

/-- A request to rename one component. -/
structure Renaming where
  kind : ComponentKind
  index : Nat
  floor : Nat
  preposition : String
  name : String

namespace Renaming

/-- The request with the floor in front of the name. -/
def floorFirst (r : Renaming) : String :=
  "rename " ++ r.kind.noun ++ " " ++ toString r.index ++ " " ++ r.preposition ++ " floor "
    ++ toString r.floor ++ " to " ++ r.name

/-- The request with the name in front of the floor. -/
def nameFirst (r : Renaming) : String :=
  "rename " ++ r.kind.noun ++ " " ++ toString r.index ++ " to " ++ r.name ++ " " ++ r.preposition
    ++ " floor " ++ toString r.floor

/-- The numbers fit words, one of the prepositions is used, and the name has something in it, but no
    quotes and no verb of renaming. -/
structure Plain (r : Renaming) : Prop where
  index_lt : r.index < wordLimit
  floor_lt : r.floor < wordLimit
  preposition : r.preposition ∈ ["in", "on", "of"]
  name_not_blank : Text.allBlank r.name = false
  name_unquoted : ∀ x ∈ r.name.toList, Phrase.Unquoted x
  name_no_verb : Text.containsAny ["rename", "change"] (Text.lowerChars r.name.toList) = false

variable {r : Renaming}

/-! ## The pieces -/

/-- What both wordings have behind the verb before they part. -/
def what (r : Renaming) : List (List Char) := [r.kind.noun.toList, Nat.toDigits 10 r.index]

/-- Where the component is. -/
def place (r : Renaming) : List (List Char) :=
  [r.preposition.toList, "floor".toList, Nat.toDigits 10 r.floor]

theorem toList_floorFirst (r : Renaming) : r.floorFirst.toList
    = spaced ("rename".toList :: r.what ++ (r.place ++ ["to".toList, r.name.toList])) := by
  -- For so long a text the equation of the definition takes long to make.
  delta floorFirst
  simp [what, place, spaced, Nat.toString_eq_repr, Nat.toList_repr]

theorem toList_nameFirst (r : Renaming) : r.nameFirst.toList
    = spaced ("rename".toList :: r.what ++ (["to".toList, r.name.toList] ++ r.place)) := by
  delta nameFirst
  simp [what, place, spaced, Nat.toString_eq_repr, Nat.toList_repr]

theorem floorFirst_verb (r : Renaming) : r.floorFirst.toList
    = "rename ".toList ++ spaced (r.what ++ (r.place ++ ["to".toList, r.name.toList])) := by
  rw [toList_floorFirst]
  rfl

theorem nameFirst_verb (r : Renaming) : r.nameFirst.toList
    = "rename ".toList ++ spaced (r.what ++ (["to".toList, r.name.toList] ++ r.place)) := by
  rw [toList_nameFirst]
  rfl

/-- The words of a request behind the verb. -/
def pieceWords : List String := ["restroom", "corridor", "in", "on", "of", "floor", "to"]

/-- A word of the request or a number. -/
def IsPiece (p : List Char) : Prop := (∃ w ∈ pieceWords, p = w.toList) ∨ ∃ n, p = Nat.toDigits 10 n

/-- The letters and digits of the pieces. -/
def alphabet : List Char := "renamstocidfl0123456789".toList

theorem mem_alphabet_of_isPiece {p : List Char} (hp : IsPiece p) : ∀ x ∈ p, x ∈ alphabet := by
  rcases hp with ⟨w, hw, rfl⟩ | ⟨n, rfl⟩
  · have hall : ∀ w ∈ pieceWords, ∀ x ∈ w.toList, x ∈ alphabet := by decide
    exact hall w hw
  · intro x hx
    have hall : ∀ x ∈ "0123456789".toList, x ∈ alphabet := by decide
    exact hall x (Text.mem_digits_of_mem_toDigits hx)

/-- A word that is in none of the pieces. -/
theorem not_infix_of_isPiece {w p : List Char} (hw : ∀ q ∈ pieceWords, ¬ w <:+: q.toList)
    (hletter : ∃ x ∈ w, x ∉ "0123456789".toList) (hp : IsPiece p) : ¬ w <:+: p := by
  rcases hp with ⟨q, hq, rfl⟩ | ⟨n, rfl⟩
  · exact hw q hq
  · intro hocc
    obtain ⟨x, hx, hnot⟩ := hletter
    exact hnot (Text.mem_digits_of_mem_toDigits (hocc.subset hx))

theorem isPiece_of_mem_what {p : List Char} (hp : p ∈ r.what) : IsPiece p := by
  simp only [what, List.mem_cons, List.not_mem_nil, or_false] at hp
  rcases hp with rfl | rfl
  · cases r.kind
    · exact Or.inl ⟨"restroom", by decide, rfl⟩
    · exact Or.inl ⟨"corridor", by decide, rfl⟩
  · exact Or.inr ⟨r.index, rfl⟩

theorem Plain.isPiece_of_mem_place (h : r.Plain) {p : List Char} (hp : p ∈ r.place) : IsPiece p := by
  simp only [place, List.mem_cons, List.not_mem_nil, or_false] at hp
  rcases hp with rfl | rfl | rfl
  · have hall : ∀ w ∈ ["in", "on", "of"], w ∈ pieceWords := by decide
    exact Or.inl ⟨r.preposition, hall _ h.preposition, rfl⟩
  · exact Or.inl ⟨"floor", by decide, rfl⟩
  · exact Or.inr ⟨r.floor, rfl⟩

/-- The fixed pieces are in lower case. -/
theorem smallForms_of_fixed {s : List Char} (hs : ∀ x ∈ s, x = ' ' ∨ x ∈ alphabet) :
    smallForms s = s := by
  have hsmall : ∀ x ∈ ' ' :: alphabet, smallForm x = [x] := by decide
  induction s with
  | nil => rfl
  | cons x s ih =>
    obtain ⟨hx, hs⟩ := List.forall_mem_cons.1 hs
    have htail : smallForms (x :: s) = smallForm x ++ smallForms s := rfl
    rw [htail, ih hs, hsmall x (List.mem_cons.2 hx)]
    rfl

theorem fixed_spaced {ps : List (List Char)} (hps : ∀ p ∈ ps, ∀ x ∈ p, x ∈ alphabet) :
    ∀ x ∈ spaced ps, x = ' ' ∨ x ∈ alphabet := by
  intro x hx
  exact (Text.mem_spaced hx).imp_right fun ⟨p, hp, hmem⟩ => hps p hp x hmem

/-! ## What both wordings are looked through for -/

/-- Both wordings are made of the same pieces. -/
theorem pieces_perm (r : Renaming) :
    ("rename".toList :: r.what ++ (r.place ++ ["to".toList, r.name.toList])).Perm
      ("rename".toList :: r.what ++ (["to".toList, r.name.toList] ++ r.place)) :=
  List.perm_append_comm.append_left _

theorem infix_word_iff {w : List Char} (hne : w ≠ []) (hblank : ' ' ∉ w) :
    w <:+: smallForms r.floorFirst.toList ↔ w <:+: smallForms r.nameFirst.toList := by
  rw [toList_floorFirst, toList_nameFirst, Text.smallForms_spaced, Text.smallForms_spaced,
    Text.infix_spaced_iff hne hblank, Text.infix_spaced_iff hne hblank]
  have hperm := r.pieces_perm.map smallForms
  exact exists_congr fun p => and_congr_left' hperm.mem_iff

/-- A phrase with a letter that no fixed piece has, and a word in front of each of its blanks that does
    not end like "to", does not begin in front of a name. -/
theorem infix_behind_iff {w a b : List Char} (hletter : ∃ x ∈ w, x ≠ ' ' ∧ x ∉ alphabet)
    (hword : ∀ u ∈ w.inits, ∀ v ∈ w.tails, w = u ++ ' ' :: v → u.getLast? ∉ [none, some 'o'])
    (ha : ∀ x ∈ a, x = ' ' ∨ x ∈ alphabet) (hlast : a.getLast? = some 'o') :
    w <:+: a ++ ' ' :: b ↔ w <:+: b := by
  constructor
  · intro h
    rcases Text.infix_append_cons_iff.1 h with h | h | ⟨u, v, rfl, hu, -⟩
    · obtain ⟨x, hx, hne, hnot⟩ := hletter
      exact absurd (ha x (h.subset hx)) (by simp [hne, hnot])
    · exact h
    · have hend := hword u (by simp) v (by simp) rfl
      obtain ⟨t, rfl⟩ := hu
      cases hu : u.getLast? with
      | none => simp [hu] at hend
      | some c =>
        rw [List.getLast?_append, hu] at hlast
        exact absurd (hu.trans hlast) fun heq => hend (by simp [heq])
  · exact fun h => h.trans ((List.suffix_cons ' ' b).trans (List.suffix_append a _)).isInfix

/-- A phrase with a letter that no fixed piece has, and a word behind each of its blanks that does not
    begin like a preposition, does not end behind a name. -/
theorem infix_before_iff {w a b : List Char} (hletter : ∃ x ∈ w, x ≠ ' ' ∧ x ∉ alphabet)
    (hword : ∀ u ∈ w.inits, ∀ v ∈ w.tails, w = u ++ ' ' :: v →
      v.head? ∉ [none, some 'i', some 'o'])
    (hb : ∀ x ∈ b, x = ' ' ∨ x ∈ alphabet) (hhead : b.head? = some 'i' ∨ b.head? = some 'o') :
    w <:+: a ++ ' ' :: b ↔ w <:+: a := by
  constructor
  · intro h
    rcases Text.infix_append_cons_iff.1 h with h | h | ⟨u, v, rfl, -, hv⟩
    · exact h
    · obtain ⟨x, hx, hne, hnot⟩ := hletter
      exact absurd (hb x (h.subset hx)) (by simp [hne, hnot])
    · have hend := hword u (by simp) v (by simp) rfl
      obtain ⟨t, rfl⟩ := hv
      cases hv : v.head? with
      | none => simp [hv] at hend
      | some c =>
        rw [List.head?_append, hv] at hhead
        refine absurd hend (not_not.2 ?_)
        rcases hhead with hhead | hhead <;> simp [hv, Option.some.inj hhead]
  · exact fun h => h.trans (List.prefix_append a _).isInfix

/-- The pieces in front of the name, with some of them behind the number of the component. -/
def front (r : Renaming) (ps : List (List Char)) : List Char :=
  spaced ("rename".toList :: r.what ++ ps ++ ["to".toList])

theorem floorFirst_eq (r : Renaming) :
    r.floorFirst.toList = r.front r.place ++ ' ' :: r.name.toList := by
  simp [toList_floorFirst, front, what, place, spaced]

theorem nameFirst_eq (r : Renaming) :
    r.nameFirst.toList = r.front [] ++ ' ' :: (r.name.toList ++ ' ' :: spaced r.place) := by
  simp [toList_nameFirst, front, what, place, spaced]

theorem fixed_front {ps : List (List Char)} (hps : ∀ p ∈ ps, IsPiece p) :
    ∀ x ∈ r.front ps, x = ' ' ∨ x ∈ alphabet := by
  refine fixed_spaced fun p hp => ?_
  simp only [List.cons_append, List.mem_cons, List.mem_append, List.not_mem_nil, or_false] at hp
  rcases hp with rfl | (hp | hp) | rfl
  · decide
  · exact mem_alphabet_of_isPiece (isPiece_of_mem_what hp)
  · exact mem_alphabet_of_isPiece (hps p hp)
  · decide

theorem getLast?_front (r : Renaming) (ps : List (List Char)) :
    (r.front ps).getLast? = some 'o' := by
  rw [front, Text.spaced_append (by simp) (by simp), List.getLast?_append]
  rfl

theorem Plain.fixed_place (h : r.Plain) : ∀ x ∈ spaced r.place, x = ' ' ∨ x ∈ alphabet :=
  fixed_spaced fun _ hp => mem_alphabet_of_isPiece (h.isPiece_of_mem_place hp)

theorem Plain.head?_place (h : r.Plain) :
    (spaced r.place).head? = some 'i' ∨ (spaced r.place).head? = some 'o' := by
  have hall : ∀ w ∈ ["in", "on", "of"], w.toList.head? = some 'i' ∨ w.toList.head? = some 'o' := by
    decide
  have hhead := hall _ h.preposition
  rw [place, Text.spaced_cons _ (by simp), List.head?_append]
  rcases hhead with hhead | hhead <;> simp [hhead]

theorem Plain.infix_phrase_iff (h : r.Plain) {w : List Char}
    (hletter : ∃ x ∈ w, x ≠ ' ' ∧ x ∉ alphabet)
    (hbefore : ∀ u ∈ w.inits, ∀ v ∈ w.tails, w = u ++ ' ' :: v → u.getLast? ∉ [none, some 'o'])
    (hbehind : ∀ u ∈ w.inits, ∀ v ∈ w.tails, w = u ++ ' ' :: v →
      v.head? ∉ [none, some 'i', some 'o']) :
    w <:+: smallForms r.floorFirst.toList ↔ w <:+: smallForms r.nameFirst.toList := by
  have hplace := fixed_front (r := r) fun _ => h.isPiece_of_mem_place
  have hnothing : ∀ x ∈ r.front [], x = ' ' ∨ x ∈ alphabet := fixed_front (by simp)
  have hblank : ∀ s, smallForms (' ' :: s) = ' ' :: smallForms s := fun _ => rfl
  simp only [floorFirst_eq, nameFirst_eq, Text.smallForms_append, hblank]
  rw [smallForms_of_fixed hplace, smallForms_of_fixed hnothing, smallForms_of_fixed h.fixed_place,
    infix_behind_iff hletter hbefore hplace (r.getLast?_front _),
    infix_behind_iff hletter hbefore hnothing (r.getLast?_front _),
    infix_before_iff hletter hbehind h.fixed_place h.head?_place]

/-- What a text is looked through for by the families that go before all others. -/
def requestWords : List String :=
  ["show", "list", "what", "command", "help", "can you do", "building", "all", "show all buildings"]

theorem Plain.infix_iff (h : r.Plain) {w : String} (hw : w ∈ requestWords) :
    w.toList <:+: smallForms r.floorFirst.toList ↔ w.toList <:+: smallForms r.nameFirst.toList := by
  by_cases hblank : ' ' ∈ w.toList
  · simp only [requestWords, List.mem_cons, List.not_mem_nil, or_false] at hw
    rcases hw with rfl | rfl | rfl | rfl | rfl | rfl | rfl | rfl | rfl
    all_goals first
      | exact absurd hblank (by decide)
      | exact h.infix_phrase_iff (by decide) (by decide) (by decide)
  · refine infix_word_iff (fun hnil => ?_) hblank
    have hall : ∀ w ∈ requestWords, w.toList ≠ [] := by decide
    exact hall w hw hnil

theorem Plain.containsAny_eq (h : r.Plain) {ws : List String} (hws : ∀ w ∈ ws, w ∈ requestWords) :
    Text.containsAny ws (Text.lowerChars r.floorFirst.toList)
      = Text.containsAny ws (Text.lowerChars r.nameFirst.toList) := by
  have hfree : ∀ w ∈ ws, Text.SigmaFree w.toList := by
    have hall : ∀ w ∈ requestWords, Text.SigmaFree w.toList := by decide
    exact fun w hw => hall w (hws w hw)
  rw [Bool.eq_iff_iff, Text.containsAny_lowerChars hfree, Text.containsAny_lowerChars hfree]
  exact exists_congr fun w => and_congr_right fun hw => h.infix_iff (hws w hw)

/-- **Both wordings ask for help** or neither does. -/
theorem Plain.showCommands?_eq (h : r.Plain) :
    Intent.showCommands? r.floorFirst.toList = Intent.showCommands? r.nameFirst.toList := by
  simp only [Intent.showCommands?]
  rw [h.containsAny_eq (by decide), h.containsAny_eq (by decide)]

/-- **Both wordings ask for the list of buildings** or neither does. -/
theorem Plain.listBuildings?_eq (h : r.Plain) :
    Intent.listBuildings? r.floorFirst.toList = Intent.listBuildings? r.nameFirst.toList := by
  have hverb : ∀ s, Text.lowerChars ("rename ".toList ++ s) ≠ "buildings".toList :=
    Text.lowerChars_append_ne (by decide) (by decide) (by decide)
  have hfloor := hverb (spaced (r.what ++ (r.place ++ ["to".toList, r.name.toList])))
  have hname := hverb (spaced (r.what ++ (["to".toList, r.name.toList] ++ r.place)))
  rw [← floorFirst_verb] at hfloor
  rw [← nameFirst_verb] at hname
  simp only [Intent.listBuildings?, hfloor, hname]
  rw [h.containsAny_eq (by decide), h.containsAny_eq (by decide), h.containsAny_eq (by decide)]

/-! ## Where the verbs stand -/

/-- A verb of renaming occurs in none of the pieces. -/
theorem Plain.no_verb (h : r.Plain) {ps : List (List Char)}
    (hps : ∀ p ∈ ps, IsPiece p ∨ p = r.name.toList) : ¬ Mentions ["rename", "change"] (spaced ps) := by
  rintro ⟨w, hw, hocc⟩
  have hne : w.toList ≠ [] ∧ ' ' ∉ w.toList := by
    have hall : ∀ w ∈ ["rename", "change"], w.toList ≠ [] ∧ ' ' ∉ w.toList := by decide
    exact hall w hw
  rw [Text.smallForms_spaced, Text.infix_spaced_iff hne.1 hne.2] at hocc
  obtain ⟨_, hmem, hocc⟩ := hocc
  obtain ⟨p, hp, rfl⟩ := List.mem_map.1 hmem
  rcases hps p hp with hpiece | rfl
  · have hfixed : smallForms p = p :=
      smallForms_of_fixed fun x hx => Or.inr (mem_alphabet_of_isPiece hpiece x hx)
    rw [hfixed] at hocc
    have hnot : ∀ w ∈ ["rename", "change"], (∀ q ∈ pieceWords, ¬ w.toList <:+: q.toList) ∧
        ∃ x ∈ w.toList, x ∉ "0123456789".toList := by decide
    exact not_infix_of_isPiece (hnot w hw).1 (hnot w hw).2 hpiece hocc
  · exact (Text.containsAny_lowerChars_eq_false (by decide)).1 h.name_no_verb ⟨w, hw, hocc⟩

end Renaming

end Floorplan
