import Floorplan.Proofs.Intent.Clause
import Floorplan.Proofs.Pattern.Woven
import Floorplan.Proofs.Text.Split

set_option autoImplicit false

/-! # Requests with a list of names

In "rename all floors to [Ground, First]" and "rename all restrooms in floor 2 to [Men, Women]" the names
stand in brackets with commas between them. What is cut at the commas are the names again, the empty ones
in their places (`Intent.bracketNames_nameList`). Names hold no bracket, so behind the one of the list no
pattern begins that asks for a list, and in front of it stands what tells the requests apart. The main
results are `Intent.bulkRename?_floorsRequest` and `Intent.bulkRename?_componentsRequest`. -/

namespace Floorplan

open Pattern

variable {names : List String} {verb preposition digits : String} {kind : ComponentKind} {n : Nat}

/-! ## Lists of names -/

/-- A name that a list can hold: no white space around it, and no comma, bracket or quote in it. -/
structure Listable (name : String) : Prop where
  trimmed : Text.Trimmed name.toList
  no_marks : ∀ x ∈ name.toList, x ∉ [',', '[', ']']
  no_quotes : ∀ x ∈ name.toList, x ∉ Intent.listQuotes

instance (name : String) : Decidable (Listable name) :=
  decidable_of_iff (Text.Trimmed name.toList ∧ (∀ x ∈ name.toList, x ∉ [',', '[', ']']) ∧
      ∀ x ∈ name.toList, x ∉ Intent.listQuotes)
    ⟨fun h => ⟨h.1, h.2.1, h.2.2⟩, fun h => ⟨h.trimmed, h.no_marks, h.no_quotes⟩⟩

/-- Nothing is taken from a name, and of what may stand in front of it the blank. -/
theorem Listable.cleaned {name : String} (h : Listable name) :
    String.ofList (Text.trimChars (Text.without Intent.listQuotes name.toList)) = name ∧
      String.ofList (Text.trimChars (Text.without Intent.listQuotes (' ' :: name.toList))) = name := by
  have hkept : ∀ x ∈ ' ' :: name.toList, (!Intent.listQuotes.contains x) = true := by
    refine List.forall_mem_cons.2 ⟨by decide, fun x hx => ?_⟩
    simpa using h.no_quotes x hx
  have hname : ∀ s, s ⊆ ' ' :: name.toList → Text.without Intent.listQuotes s = s :=
    fun s hs => List.filter_eq_self.2 fun x hx => hkept x (hs hx)
  have hblank : Text.trimLeft (' ' :: name.toList) = name.toList := h.trimmed.trimLeft_eq
  rw [hname _ (List.subset_cons_self ..), hname _ (List.Subset.refl _),
    ← Text.trimChars_trimLeft (' ' :: name.toList), hblank, h.trimmed.trimChars_eq,
    String.ofList_toList]
  exact ⟨rfl, rfl⟩

/-- The names with commas between them. -/
def nameList (names : List String) : String := ", ".intercalate names

namespace Intent

theorem forall_mem_nameList {P : Char → Prop} (hcomma : P ',') (hblank : P ' ')
    (h : ∀ name ∈ names, ∀ x ∈ name.toList, P x) : ∀ x ∈ (nameList names).toList, P x := by
  rw [nameList, String.toList_intercalate]
  refine Text.forall_mem_intercalate ?_ ?_
  · exact List.forall_mem_cons.2 ⟨hcomma, List.forall_mem_singleton.2 hblank⟩
  · exact List.forall_mem_map.2 h

/-- No bracket is in a list of names. -/
theorem ne_bracket_of_mem_nameList (h : ∀ name ∈ names, Listable name) :
    ∀ x ∈ (nameList names).toList, x ≠ '[' ∧ x ≠ ']' := by
  refine forall_mem_nameList (by decide) (by decide) fun name hname x hx => ?_
  have hmarks := (h name hname).no_marks x hx
  simp only [List.mem_cons, not_or] at hmarks
  exact ⟨hmarks.2.1, hmarks.2.2.1⟩

theorem nameList_ne_nil (hne : names ≠ []) (hsingle : names ≠ [""]) :
    (nameList names).toList ≠ [] := by
  cases names with
  | nil => exact absurd rfl hne
  | cons name names =>
    cases names with
    | nil => simpa [nameList] using hsingle
    | cons => simp [nameList]

/-- **The names in a list are found again**, the empty ones too. -/
theorem bracketNames_nameList (h : ∀ name ∈ names, Listable name) (hne : names ≠ []) :
    bracketNames (nameList names).toList = names := by
  have hcomma : ∀ name ∈ names, ',' ∉ name.toList :=
    fun name hname hmem => (h name hname).no_marks ',' hmem List.mem_cons_self
  cases names with
  | nil => exact absurd rfl hne
  | cons name names =>
    obtain ⟨hname, hnames⟩ := List.forall_mem_cons.1 h
    obtain ⟨hfirst, hothers⟩ := List.forall_mem_cons.1 hcomma
    have hsplit : Text.splitAt ',' (nameList (name :: names)).toList
        = name.toList :: (names.map String.toList).map ([' '] ++ ·) := by
      rw [nameList, String.toList_intercalate]
      exact Text.splitAt_intercalate (by decide) hfirst (List.forall_mem_map.2 hothers)
    rw [bracketNames, hsplit, List.map_cons, hname.cleaned.1, List.map_map, List.map_map]
    have hrest := List.map_congr_left fun m hm => (hnames m hm).cleaned.2
    exact congrArg (name :: ·) (hrest.trans (List.map_id' names))

end Intent

/-! ## The requests -/

/-- A request to give names to all floors. -/
def floorsRequest (verb : String) (names : List String) : String :=
  verb ++ " all floors to [" ++ nameList names ++ "]"

/-- A request to give names to the components of a kind on the floor that the digits say. -/
def componentsRequest (verb : String) (kind : ComponentKind) (preposition digits : String)
    (names : List String) : String :=
  verb ++ " all " ++ kind.plural ++ " " ++ preposition ++ " floor " ++ digits ++ " to ["
    ++ nameList names ++ "]"

namespace Phrase

variable {g : List (Nat × List Char × List Char)} {s : List Char} {ps : List Pattern} {i : Nat}

theorem toList_floorsRequest (verb : String) (names : List String) :
    (floorsRequest verb names).toList = verb.toList ++ ' ' :: ("all".toList ++ ' ' ::
      ("floor".toList ++ 's' :: ' ' :: ("to".toList ++ ' ' :: '[' ::
        ((nameList names).toList ++ [']'])))) := by
  simp [floorsRequest]

theorem toList_componentsRequest (verb : String) (kind : ComponentKind)
    (preposition digits : String) (names : List String) :
    (componentsRequest verb kind preposition digits names).toList = verb.toList ++ ' ' ::
      ("all".toList ++ ' ' :: (kind.noun.toList ++ 's' :: ' ' :: (preposition.toList ++ ' ' ::
        ("floor".toList ++ ' ' :: (digits.toList ++ ' ' :: ("to".toList ++ ' ' :: '[' ::
          ((nameList names).toList ++ [']']))))))) := by
  simp [componentsRequest, ComponentKind.plural]

/-! ### What is read -/

/-- A word in the plural is read with the s. -/
theorem leads_plural (w : String) (s : List Char) :
    (singularOrPlural w).Leads ⟨w.toList ++ 's' :: s, g⟩ ⟨s, g⟩ :=
  (leads_word rfl _).andThen ((Leads.optional (leads_word (w := "s") (u := ['s']) rfl s)).andThen
    (leads_nothing _))

/-- The list at the end of a request is read up to its bracket. -/
theorem leads_toBracketed (i : Nat) (hne : s ≠ []) (hs : ∀ x ∈ s, x ≠ '[' ∧ x ≠ ']') :
    (sequence [between ["to"], bracketed i]).Leads
      ⟨' ' :: ("to".toList ++ ' ' :: '[' :: (s ++ [']'])), g⟩
      ⟨[], (i, s ++ [']'], [']']) :: g⟩ := by
  have hopen : (one (.exactly '[')).Leads ⟨'[' :: (s ++ [']']), g⟩ ⟨s ++ [']'], g⟩ := leads_one rfl
  have hlist : (group i (oneOrMore (.noneOf [']']))).Leads ⟨s ++ [']'], g⟩
      ⟨[']'], (i, s ++ [']'], [']']) :: g⟩ := by
    refine (leads_oneOrMore hne (fun x hx => ?_) ?_).group i
    · simpa [CharClass.contains] using (hs x hx).2
    · rintro x ⟨⟩
      rfl
  have hclose : (one (.exactly ']')).Leads ⟨[']'], (i, s ++ [']'], [']']) :: g⟩
      ⟨[], (i, s ++ [']'], [']']) :: g⟩ := leads_one rfl
  exact (leads_to _).andThen ((hopen.andThen (hlist.andThen (hclose.andThen (leads_nothing _)))).andThen
    (leads_nothing _))

theorem apart_places : Apart ["in", "on"] := by decide

/-- The word "all" is read up to what stands behind it. -/
theorem leads_all {u : List Char} (hne : u ≠ []) (hu : ∀ x ∈ u.head?, Text.isBlank x = false)
    (s : List Char) :
    (between ["all"]).Leads ⟨' ' :: ("all".toList ++ ' ' :: (u ++ s)), g⟩ ⟨u ++ s, g⟩ := by
  have h := leads_between (g := g) (by decide : Apart ["all"]) List.mem_cons_self (u ++ s)
  rwa [Text.trimLeft_of_head (Text.isBlank_head_append hne hu s)] at h

/-- The list of names is found in a request for all floors. -/
theorem find?_bulkFloors (hverb : verb ∈ ["rename", "change"]) (hne : (nameList names).toList ≠ [])
    (hnames : ∀ x ∈ (nameList names).toList, x ≠ '[' ∧ x ≠ ']') :
    ∃ m, bulkFloors.find? (floorsRequest verb names).toList = some m ∧
      m.group? 1 = some (nameList names).toList := by
  have hleads : bulkFloors.Leads ⟨(floorsRequest verb names).toList, []⟩
      ⟨[], [(1, (nameList names).toList ++ [']'], [']'])]⟩ := by
    rw [toList_floorsRequest]
    exact (leads_anyWord apart_renameVerbs hverb _).andThen
      ((leads_all (by decide) (by decide) _).andThen
        ((leads_plural "floor" _).andThen (leads_toBracketed 1 hne hnames)))
  exact ⟨_, hleads.find?_eq, by simp [Match.group?, Match.between_append]⟩

/-- The number and the list of names are found in a request for the components of a floor. -/
theorem find?_bulkComponents (kind : ComponentKind) (hverb : verb ∈ ["rename", "change"])
    (hpreposition : preposition ∈ ["in", "on"]) (hdigits : Text.word? digits.toList = some n)
    (hne : (nameList names).toList ≠ [])
    (hnames : ∀ x ∈ (nameList names).toList, x ≠ '[' ∧ x ≠ ']') :
    ∃ m, (bulkComponents kind).find? (componentsRequest verb kind preposition digits names).toList
        = some m ∧ m.number? 1 = some n ∧ m.group? 2 = some (nameList names).toList := by
  obtain ⟨hdne, hd⟩ := Text.isDigit_of_word? hdigits
  have hleads : (bulkComponents kind).Leads
      ⟨(componentsRequest verb kind preposition digits names).toList, []⟩
      ⟨[], [(2, (nameList names).toList ++ [']'], [']']),
        (1, digits.toList ++ ' ' :: ("to".toList ++ ' ' :: '[' :: ((nameList names).toList ++ [']'])),
          ' ' :: ("to".toList ++ ' ' :: '[' :: ((nameList names).toList ++ [']'])))]⟩ := by
    rw [toList_componentsRequest]
    exact (leads_anyWord apart_renameVerbs hverb _).andThen
      ((leads_all (noun_ne_nil kind) (isBlank_head_noun kind) _).andThen
        ((leads_plural kind.noun _).andThen
          (leads_place apart_places hpreposition hdne hd (isDigit_blank _)
            (leads_toBracketed 2 hne hnames))))
  refine ⟨_, hleads.find?_eq, ?_, by simp [Match.group?, Match.between_append]⟩
  rw [Match.number?_of_lookup rfl, hdigits]

/-! ### What is not found -/

/-- No list is found behind the bracket with which the last one begins. -/
theorem find?_bracketed_eq_none (h : ∀ x ∈ s, x ≠ '[') : (bracketed i).find? s = none := by
  rw [find?_eq_none_iff]
  rintro t ht r ⟨z, ⟨x, hx, rfl⟩, -⟩
  obtain rfl : x = '[' := by simpa [CharClass.contains] using hx
  exact h '[' (ht.subset List.mem_cons_self) rfl

theorem not_reads_renameVerb_of_isDigit {x : Char} (hx : Text.isDigit x = true) (s r : List Char) :
    ¬ renameVerb.Reads (x :: s) r := by
  have hwords : ∀ w ∈ ["rename", "change"],
      (∀ y ∈ (w.toList.map foldLetter).head?, Text.isDigit y = false) ∧ w.toList ≠ [] := by decide
  intro hread
  obtain ⟨_, hp, hword⟩ := (reads_choice (by simp)).1 hread
  obtain ⟨w, hw, rfl⟩ := List.mem_map.1 hp
  exact not_reads_word_of_isDigit (hwords w hw).1 (hwords w hw).2 hx s r hword

/-- A pattern for a list that begins with a verb and does not go on as the request does is not found
    there, whatever the names are. -/
theorem find?_renameVerb_list_eq_none (hpart : bracketed i ∈ ps) {front : String}
    (hfront : (sequence (renameVerb :: ps)).clears front.toList = true)
    (hto : (sequence (renameVerb :: ps)).clears " to [".toList = true)
    (hd : ∀ x ∈ digits.toList, Text.isDigit x = true)
    (hnames : ∀ x ∈ (nameList names).toList, x ≠ '[' ∧ x ≠ ']') :
    (sequence (renameVerb :: ps)).find?
      (Text.weave [front] [digits] (" to [" ++ nameList names ++ "]")) = none := by
  have hverb : ∀ x t r, Text.isDigit x = true → ¬ (sequence (renameVerb :: ps)).Reads (x :: t) r := by
    rintro x t r hx ⟨z, hread, -⟩
    exact not_reads_renameVerb_of_isDigit hx t z hread
  have hlist : ∀ x ∈ (nameList names ++ "]").toList, x ≠ '[' := by
    rw [String.toList_append, List.forall_mem_append]
    exact ⟨fun x hx => (hnames x hx).1, by decide⟩
  refine find?_weave_eq_none hverb (List.forall_mem_singleton.2 hfront)
    (List.forall_mem_singleton.2 hd) ?_
  rw [String.append_assoc, String.toList_append]
  exact find?_append_of_clears hto
    (find?_eq_none_of_part (List.mem_cons_of_mem _ hpart) (find?_bracketed_eq_none hlist))

/-- What a request for the components of a floor has in front of the number of the floor. -/
def componentsFront (verb : String) (kind : ComponentKind) (preposition : String) : String :=
  verb ++ " all " ++ kind.plural ++ " " ++ preposition ++ " floor "

theorem componentsRequest_eq_weave (verb : String) (kind : ComponentKind)
    (preposition digits : String) (names : List String) :
    (componentsRequest verb kind preposition digits names).toList
      = Text.weave [componentsFront verb kind preposition] [digits]
        (" to [" ++ nameList names ++ "]") := by
  simp [componentsRequest, componentsFront, Text.weave]

/-- A request for the components of a floor is not taken for one for all floors. -/
theorem find?_bulkFloors_eq_none (kind : ComponentKind) (hverb : verb ∈ ["rename", "change"])
    (hpreposition : preposition ∈ ["in", "on"]) (hd : ∀ x ∈ digits.toList, Text.isDigit x = true)
    (hnames : ∀ x ∈ (nameList names).toList, x ≠ '[' ∧ x ≠ ']') :
    bulkFloors.find? (componentsRequest verb kind preposition digits names).toList = none := by
  have hfront : ∀ verb ∈ ["rename", "change"], ∀ preposition ∈ ["in", "on"],
      bulkFloors.clears (componentsFront verb kind preposition).toList = true := by
    cases kind <;> decide +kernel
  rw [componentsRequest_eq_weave]
  exact find?_renameVerb_list_eq_none (i := 1) (by simp) (hfront verb hverb preposition hpreposition)
    (by decide +kernel) hd hnames

/-- A request for corridors is not taken for one for restrooms. -/
theorem find?_bulkRestrooms_eq_none (hverb : verb ∈ ["rename", "change"])
    (hpreposition : preposition ∈ ["in", "on"]) (hd : ∀ x ∈ digits.toList, Text.isDigit x = true)
    (hnames : ∀ x ∈ (nameList names).toList, x ≠ '[' ∧ x ≠ ']') :
    (bulkComponents .restroom).find? (componentsRequest verb .corridor preposition digits names).toList
      = none := by
  have hfront : ∀ verb ∈ ["rename", "change"], ∀ preposition ∈ ["in", "on"],
      (bulkComponents .restroom).clears (componentsFront verb .corridor preposition).toList = true := by
    decide +kernel
  rw [componentsRequest_eq_weave]
  exact find?_renameVerb_list_eq_none (i := 2) (by simp) (hfront verb hverb preposition hpreposition)
    (by decide +kernel) hd hnames

end Phrase

/-! ## What the requests are taken for -/

namespace Intent

/-- Both requests begin with the words that a text is looked through for. -/
theorem containsAny_renameAll (hverb : verb ∈ ["rename", "change"]) (s : List Char) :
    Text.containsAny ["rename all", "change all"]
      (Text.lowerChars (verb.toList ++ ' ' :: ("all".toList ++ s))) = true := by
  have hwords : ∀ verb ∈ ["rename", "change"],
      Text.Mentions ["rename all", "change all"] (verb.toList ++ " all".toList) := by decide
  rw [Text.containsAny_lowerChars (by decide)]
  refine (hwords verb hverb).mono ⟨[], s, ?_⟩
  simp

/-- **A request for all floors** is taken for what it is, with the names as they are listed. -/
theorem bulkRename?_floorsRequest (hlist : ∀ name ∈ names, Listable name) (hne : names ≠ [])
    (hsingle : names ≠ [""]) (hverb : verb ∈ ["rename", "change"]) :
    bulkRename? (floorsRequest verb names).toList = some (.bulkRename .floors names) := by
  have hasks : Text.containsAny ["rename all", "change all"]
      (Text.lowerChars (floorsRequest verb names).toList) = true := by
    rw [Phrase.toList_floorsRequest]
    exact containsAny_renameAll hverb _
  obtain ⟨m, hfind, hgroup⟩ := Phrase.find?_bulkFloors hverb (nameList_ne_nil hne hsingle)
    (ne_bracket_of_mem_nameList hlist)
  simp only [bulkRename?, hasks, if_true, hfind, hgroup, Option.map_some,
    bracketNames_nameList hlist hne]

/-- **A request for the components of a floor** is taken for what it is, with the number that the digits
    are read as and the names as they are listed. -/
theorem bulkRename?_componentsRequest (hlist : ∀ name ∈ names, Listable name) (hne : names ≠ [])
    (hsingle : names ≠ [""]) (hverb : verb ∈ ["rename", "change"]) (kind : ComponentKind)
    (hpreposition : preposition ∈ ["in", "on"]) (hdigits : Text.word? digits.toList = some n) :
    bulkRename? (componentsRequest verb kind preposition digits names).toList
      = some (.bulkRename (.components kind n) names) := by
  have hasks : Text.containsAny ["rename all", "change all"]
      (Text.lowerChars (componentsRequest verb kind preposition digits names).toList) = true := by
    rw [Phrase.toList_componentsRequest]
    exact containsAny_renameAll hverb _
  have hd := (Text.isDigit_of_word? hdigits).2
  have hnames := ne_bracket_of_mem_nameList hlist
  have hfloors := Phrase.find?_bulkFloors_eq_none kind hverb hpreposition hd hnames
  obtain ⟨m, hfind, hnumber, hgroup⟩ := Phrase.find?_bulkComponents kind hverb hpreposition hdigits
    (nameList_ne_nil hne hsingle) hnames
  have hread : bulkComponents? kind m = some (.bulkRename (.components kind n) names) := by
    simp only [bulkComponents?, hnumber, hgroup, Option.bind_eq_bind, Option.bind_some,
      bracketNames_nameList hlist hne]
    rfl
  cases kind with
  | restroom => simp only [bulkRename?, hasks, if_true, hfloors, hfind, hread]
  | corridor =>
    have hrestrooms := Phrase.find?_bulkRestrooms_eq_none hverb hpreposition hd hnames
    simp only [bulkRename?, hasks, if_true, hfloors, hrestrooms, hfind, Option.bind_some, hread]

end Intent

end Floorplan
