import Floorplan.Proofs.Pattern.Lookahead
import Floorplan.Proofs.Pattern.Groups
import Floorplan.Proofs.Text.Digit
import Floorplan.Intent.Phrase

set_option autoImplicit false

/-! # Additions that a floor or another addition does not follow

"add 2 restrooms" is an addition on every floor unless the word "floor" follows, and "add 2 floors" is a
single addition unless it is joined to another. The phrases end in a plural that may be missing, so
a match that is followed is tried again without the plural letter.

That is as much as a look ahead behind the phrase could do (`Phrase.lookaheadExact_add`): the letter
a stands in no such phrase but at its beginning, so no addition begins within another, and up to the
plural there is one way to read it. -/

namespace Floorplan

open Pattern

/-! ## Places in bytes -/

namespace Text

/-- The place in a text, in bytes, at which a rest of it begins. -/
def byteOffset (s rest : List Char) : String.Pos.Raw :=
  ⟨(String.ofList s).utf8ByteSize - (String.ofList rest).utf8ByteSize⟩

theorem byteOffset_append (u rest : List Char) :
    byteOffset (u ++ rest) rest = ⟨(String.ofList u).utf8ByteSize⟩ := by
  rw [byteOffset, String.ofList_append, String.utf8ByteSize_append, Nat.add_sub_cancel_right]

/-- A rest of a text begins between two of its characters. -/
theorem isValid_byteOffset (u rest : List Char) :
    (byteOffset (u ++ rest) rest).IsValid (String.ofList (u ++ rest)) := by
  rw [byteOffset_append, String.Pos.Raw.isValid_ofList]
  exact ⟨u.length, by simp⟩

/-- One byte in front of a rest is the character of one byte that stands there. -/
theorem byteOffset_cons (u rest : List Char) {x : Char} (hx : x.utf8Size = 1) :
    (byteOffset (u ++ x :: rest) rest).byteIdx - 1 =
      (byteOffset (u ++ x :: rest) (x :: rest)).byteIdx := by
  simp only [byteOffset, String.ofList_append, String.utf8ByteSize_append, String.ofList_cons,
    String.utf8ByteSize_singleton, hx]
  omega

end Text

/-! ## Matches in repeated search -/

namespace Pattern

theorem exists_of_mem_findAll {p : Pattern} {s : List Char} {m : Match} (h : m ∈ p.findAll s) :
    m.start <:+ s ∧ p.Reads m.start m.stop := by
  induction hlen : s.length using Nat.strong_induction_on generalizing s with
  | _ n ih =>
    subst hlen
    rw [findAll] at h
    cases hfind : p.find? s with
    | none =>
      simp only [hfind] at h
      cases h
    | some m' =>
      obtain ⟨hstart, hways⟩ := exists_of_find? hfind
      have hread : p.Reads m'.start m'.stop :=
        (exists_ways_iff p ⟨m'.start, []⟩ m'.stop).1 ⟨_, List.mem_of_head? hways, rfl⟩
      simp only [hfind] at h
      split at h
      · next hshorter =>
        rcases List.mem_cons.1 h with rfl | h
        · exact ⟨hstart, hread⟩
        · obtain ⟨hsuffix, hm⟩ := ih _ hshorter h rfl
          exact ⟨hsuffix.trans (hread.suffix.trans hstart), hm⟩
      · cases List.mem_singleton.1 h
        exact ⟨hstart, hread⟩

/-- The emulation of a look ahead gives what the look ahead itself would give. -/
structure LookaheadExact (p ahead : Pattern) (s : List Char) : Prop where
  /-- Something is found exactly if the pattern can be read somewhere without `ahead` behind it. -/
  isSome_iff : (p.findUnlessFollowed? ahead s).isSome = true ↔
    ∃ t r, t <:+ s ∧ p.Reads t r ∧ ahead.startsText r = false
  /-- It stands at the same place and has read the same groups as the leftmost such match. -/
  same_groups : (p.findUnlessFollowed? ahead s).map (fun m => (m.start, m.groups)) =
    (p.findUnlessAhead? ahead s).map fun m => (m.start, m.groups)
  /-- So it counts the same. -/
  same_count : (p.findUnlessFollowed? ahead s).bind (·.number? 1) =
    (p.findUnlessAhead? ahead s).bind (·.number? 1)
  /-- One byte in front of the end of any match a character begins. -/
  isValid_pred : ∀ m ∈ p.findAll s,
    String.Pos.Raw.IsValid (String.ofList s) ⟨(Text.byteOffset s m.stop).byteIdx - 1⟩
  /-- If the match ends in a plural letter, it is that character. -/
  pred_eq : ∀ m ∈ p.findAll s, m.text.getLast? = some 's' →
    Text.byteOffset s ('s' :: m.stop) = ⟨(Text.byteOffset s m.stop).byteIdx - 1⟩

end Pattern

namespace Phrase

variable {w : String} {s t r : List Char}

/-- A word for something that can be added. The letters that "add" and "more" begin with tell it from
them. -/
structure Noun (w : String) : Prop where
  head : ∃ x xs, w.toList = x :: xs ∧ Text.isBlank x = false ∧ Text.isDigit x = false ∧ x ≠ 'm'
  last : ∃ u x, w.toList = u ++ [x] ∧ x ≠ 's' ∧ x.utf8Size = 1
  not_mem : 'a' ∉ w.toList

theorem noun_floor : Noun "floor" :=
  ⟨⟨_, _, rfl, by decide⟩, ⟨"floo".toList, 'r', rfl, by decide⟩, by decide⟩

theorem noun_component (kind : ComponentKind) : Noun kind.noun :=
  match kind with
  | .restroom => ⟨⟨_, _, rfl, by decide⟩, ⟨"restroo".toList, 'm', rfl, by decide⟩, by decide⟩
  | .corridor => ⟨⟨_, _, rfl, by decide⟩, ⟨"corrido".toList, 'r', rfl, by decide⟩, by decide⟩

/-- An addition in the singular. -/
def addOne (w : String) : Pattern :=
  sequence [exactly "add", gap, count 1, space, optional (sequence [exactly "more", gap]), exactly w]

theorem ways_add (w : String) (k : Cursor) :
    (add w).ways k = (andThen (addOne w) (optional (exactly "s"))).ways k := by
  simp [add, addOne, moreOf, nouns, Pattern.sequence, ways, List.flatMap_assoc]

/-! ### One way to read it -/

/-- The noun, with nothing behind it. -/
theorem Noun.not_reads (h : Noun w) {x : Char}
    (hx : Text.isBlank x = true ∨ Text.isDigit x = true ∨ x = 'm') (s r : List Char) :
    ¬ (sequence [exactly w]).Reads (x :: s) r := by
  rintro ⟨t, hread, -⟩
  obtain ⟨y, ys, hw, hblank, hdigit, hm⟩ := h.head
  rw [reads_exactly, hw] at hread
  obtain ⟨rfl, -⟩ := List.cons.inj hread
  rcases hx with hx | hx | rfl
  · rw [hblank] at hx
    cases hx
  · rw [hdigit] at hx
    cases hx
  · exact hm rfl

/-- The noun, perhaps with "more" in front of it. -/
def maybeMore (w : String) : Pattern :=
  andThen (optional (sequence [exactly "more", gap])) (sequence [exactly w])

theorem reads_more_head {x : Char} (h : (sequence [exactly "more", gap]).Reads (x :: s) r) :
    x = 'm' := by
  obtain ⟨t, hread, -⟩ := h
  rw [reads_exactly] at hread
  exact (List.cons.inj hread).1

theorem Noun.not_reads_maybeMore (h : Noun w) {x : Char}
    (hx : Text.isBlank x = true ∨ Text.isDigit x = true) (s r : List Char) :
    ¬ (maybeMore w).Reads (x :: s) r := by
  rintro ⟨t, hmore | rfl, hread⟩
  · obtain rfl := reads_more_head hmore
    revert hx
    decide
  · exact h.not_reads (hx.imp_right Or.inl) s r hread

theorem Noun.single_maybeMore (h : Noun w) : (maybeMore w).Single := by
  have hnoun : (sequence [exactly w]).Single := (single_exactly w).andThen single_nothing
  have hgap : (andThen gap (sequence [exactly w])).Single :=
    (trails_oneOrMore .blank).andThen hnoun fun x s r hx => h.not_reads (Or.inl hx) s r
  have hmore : (andThen (sequence [exactly "more", gap]) (sequence [exactly w])).Single := by
    intro k
    have hk := (single_exactly "more").andThen hgap k
    simpa [Pattern.sequence, ways, List.flatMap_assoc] using hk
  refine hmore.optional_andThen hnoun fun s r t hread hother => ?_
  cases s with
  | nil =>
    obtain ⟨y, ys, hw, -⟩ := h.head
    obtain ⟨t, hread, -⟩ := hread
    rw [reads_exactly, hw] at hread
    cases hread
  | cons x s => exact h.not_reads (Or.inr (Or.inr (reads_more_head hother))) s r hread

/-- Up to the plural there is one way to read an addition: white space, digits and letters are told apart
by their first characters. -/
theorem Noun.single_addOne (h : Noun w) : (addOne w).Single := by
  have hspace : (andThen space (maybeMore w)).Single :=
    (trails_many .blank).andThen h.single_maybeMore fun x s r hx =>
      h.not_reads_maybeMore (Or.inl hx) s r
  have hcount : (andThen (count 1) (andThen space (maybeMore w))).Single := by
    refine ((trails_oneOrMore .digit).group 1).andThen hspace fun x s r hx => ?_
    rintro ⟨t, ⟨u, hu, heq⟩, hread⟩
    cases u with
    | nil =>
      obtain rfl : x :: s = t := heq
      exact h.not_reads_maybeMore (Or.inr hx) s r hread
    | cons y u =>
      obtain ⟨rfl, -⟩ := List.cons.inj heq
      have hblank := hu x List.mem_cons_self
      rw [CharClass.contains, Text.isBlank_of_isDigit hx] at hblank
      cases hblank
  refine (single_exactly "add").andThen ((trails_oneOrMore .blank).andThen hcount fun x s r hx => ?_)
  rintro ⟨t, hread, -⟩
  obtain ⟨y, u, hdigits, heq⟩ := reads_count.1 hread
  obtain ⟨rfl, -⟩ := List.cons.inj heq
  have hblank := Text.isBlank_of_isDigit (hdigits x List.mem_cons_self)
  rw [show Text.isBlank x = true from hx] at hblank
  cases hblank

/-! ### How it begins and ends -/

/-- What an addition in the singular reads ends with the noun. -/
theorem exists_of_reads_addOne (h : (addOne w).Reads s r) : ∃ u, s = u ++ w.toList ++ r := by
  have hsplit : (sequence ([exactly "add", gap, count 1, space,
      optional (sequence [exactly "more", gap])] ++ [exactly w])).Reads s r := h
  obtain ⟨t, hbefore, t', hnoun, rfl⟩ := reads_sequence_append.1 hsplit
  obtain ⟨u, rfl⟩ := hbefore.suffix
  rw [reads_exactly] at hnoun
  exact ⟨u, by rw [hnoun, List.append_assoc]⟩

theorem reads_add_iff : (add w).Reads s r ↔
    ∃ t, (addOne w).Reads s t ∧ (t = 's' :: r ∨ t = r) := by
  have hways : (add w).Reads s r ↔ (andThen (addOne w) (optional (exactly "s"))).Reads s r := by
    rw [← exists_ways_iff _ ⟨s, []⟩, ← exists_ways_iff _ ⟨s, []⟩, ways_add]
  rw [hways]
  refine exists_congr fun t => and_congr_right fun _ => ?_
  exact or_congr reads_exactly eq_comm

/-- An addition ends in a letter of one byte. -/
theorem Noun.exists_of_reads_add (hw : Noun w) (h : (add w).Reads s r) :
    ∃ u x, s = u ++ x :: r ∧ x.utf8Size = 1 := by
  obtain ⟨t, hone, rfl | rfl⟩ := reads_add_iff.1 h
  · obtain ⟨u, rfl⟩ := exists_of_reads_addOne hone
    exact ⟨u ++ w.toList, 's', rfl, by decide⟩
  · obtain ⟨u, rfl⟩ := exists_of_reads_addOne hone
    obtain ⟨v, x, hv, -, hx⟩ := hw.last
    exact ⟨u ++ v, x, by simp [hv], hx⟩

/-- The letter a stands at the beginning of an addition and nowhere else in it. -/
theorem Noun.reads_add_head (hw : Noun w) (h : (add w).Reads s r) :
    ∃ u, s = 'a' :: u ++ r ∧ 'a' ∉ u := by
  obtain ⟨t, hadd, hrest⟩ := h
  have hblank : ∀ x, Text.isBlank x = true → x ≠ 'a' := by
    rintro _ hx rfl
    revert hx
    decide
  have hdigit : ∀ x, Text.isDigit x = true → x ≠ 'a' := fun x => Text.ne_of_isDigit (by decide)
  have hgap : gap.Within (· ≠ 'a') := ⟨hblank, hblank⟩
  have hmore : (moreOf w).Within (· ≠ 'a') := by
    refine within_sequence.2 ?_
    simp only [List.forall_mem_cons, List.not_mem_nil, false_imp_iff, implies_true, and_true]
    refine ⟨⟨hdigit, hdigit⟩, hblank, ⟨⟨within_exactly (by decide), hgap, trivial⟩, trivial⟩, ?_⟩
    exact ⟨within_exactly fun x hx => ne_of_mem_of_not_mem hx hw.not_mem,
      ⟨within_exactly (by decide), trivial⟩, trivial⟩
  have hwithin : (sequence [gap, moreOf w]).Within (· ≠ 'a') := ⟨hgap, hmore, trivial⟩
  obtain ⟨u, hu, rfl⟩ := Reads.within hwithin hrest
  rw [reads_exactly] at hadd
  refine ⟨'d' :: 'd' :: u, hadd, ?_⟩
  simpa using fun hmem => hu 'a' hmem rfl

theorem Noun.pluralWays (hw : Noun w) (s : List Char) : PluralWays s ((add w).ways ⟨s, []⟩) := by
  rw [ways_add, ways]
  rcases hw.single_addOne.ways_eq ⟨s, []⟩ with hnil | ⟨l, hl⟩
  · rw [hnil]
    exact .none
  · have hread : (addOne w).Reads s l.rest :=
      (exists_ways_iff (addOne w) ⟨s, []⟩ l.rest).1 ⟨l, hl ▸ List.mem_singleton_self l, rfl⟩
    rw [hl]
    obtain ⟨u, hu⟩ := exists_of_reads_addOne hread
    obtain ⟨v, x, hlast, hx, -⟩ := hw.last
    obtain ⟨rest, groups⟩ := l
    simp only at hu
    rw [List.flatMap_singleton]
    by_cases hs : rest.head? = some 's'
    · obtain ⟨t, rfl⟩ := List.head?_eq_some_iff.1 hs
      have hways : (optional (exactly "s")).ways ⟨'s' :: t, groups⟩ =
          [⟨t, groups⟩, ⟨'s' :: t, groups⟩] := by
        simp [Pattern.optional, exactly, ways, CharClass.contains]
      rw [hways]
      refine .plural ?_
      rw [hu, List.append_cons, Match.between_append, List.getLast?_concat]
    · have hnone : (exactly "s").ways ⟨rest, groups⟩ = [] := by
        refine ways_eq_nil_iff.2 fun r hr => hs ?_
        rw [reads_exactly] at hr
        rw [show rest = 's' :: r from hr, List.head?_cons]
      have hways : (optional (exactly "s")).ways ⟨rest, groups⟩ = [⟨rest, groups⟩] := by
        rw [Pattern.optional, ways, hnone, ways, List.nil_append]
      rw [hways]
      refine .singular ?_
      rw [hu, Match.between_append, hlast, ← List.append_assoc, List.getLast?_concat]
      simpa using hx

/-- **Additions are words with a plural that may be missing.** -/
theorem Noun.plural (hw : Noun w) : (add w).Plural where
  ways := hw.pluralWays
  advances s r h := by
    obtain ⟨u, rfl, -⟩ := hw.reads_add_head h
    simp only [List.length_append, List.length_cons]
    omega
  apart u v s hu hv h r hr := by
    -- The second reading would begin with a letter a inside the first.
    obtain ⟨y, hy, hnot⟩ := hw.reads_add_head h
    obtain ⟨z, hz, -⟩ := hw.reads_add_head hr
    obtain ⟨x, u, rfl⟩ := List.exists_cons_of_ne_nil hu
    obtain ⟨x', v, rfl⟩ := List.exists_cons_of_ne_nil hv
    obtain rfl : x' = 'a' := (List.cons.inj hz).1
    obtain ⟨-, htail⟩ := List.cons.inj hy
    rw [← List.append_cancel_right htail] at hnot
    exact hnot (List.mem_append_right u List.mem_cons_self)

/-- Of every match the last character has one byte. -/
theorem Noun.exists_last (hw : Noun w) {m : Match} (hm : m ∈ (add w).findAll s) : ∃ u x,
    s = u ++ x :: m.stop ∧ m.text.getLast? = some x ∧ x.utf8Size = 1 := by
  obtain ⟨⟨v, hv⟩, hread⟩ := exists_of_mem_findAll hm
  obtain ⟨u, x, hstart, hx⟩ := hw.exists_of_reads_add hread
  refine ⟨v ++ u, x, by rw [← hv, hstart, List.append_assoc], ?_, hx⟩
  rw [Match.text, hstart, List.append_cons, Match.between_append, List.getLast?_concat]

theorem Noun.lookaheadExact (hw : Noun w) (ahead : Pattern) (s : List Char) :
    LookaheadExact (add w) ahead s where
  isSome_iff := by
    have hsome := congrArg Option.isSome (hw.plural.findUnlessFollowed?_eq ahead s)
    rw [Option.isSome_map, Option.isSome_map] at hsome
    rw [← findUnlessAhead?_isSome_iff, hsome]
  same_groups := hw.plural.findUnlessFollowed?_eq ahead s
  same_count := by
    have hcount := congrArg (·.bind fun g => (Match.mk g.1 [] g.2).number? 1)
      (hw.plural.findUnlessFollowed?_eq ahead s)
    rwa [Option.bind_map, Option.bind_map] at hcount
  isValid_pred m hm := by
    obtain ⟨u, x, htext, -, hx⟩ := hw.exists_last hm
    rw [htext, Text.byteOffset_cons u m.stop hx]
    exact Text.isValid_byteOffset u (x :: m.stop)
  pred_eq m hm hplural := by
    obtain ⟨u, x, htext, hlast, hx⟩ := hw.exists_last hm
    obtain rfl : x = 's' := Option.some.inj (hlast.symm.trans hplural)
    rw [htext, Text.byteOffset_cons u m.stop hx]

/-- **Looking from match to match is as good as looking ahead.** Restrooms, corridors and floors are added
exactly if a look ahead behind the phrase lets it match somewhere, and the number is the one that the
leftmost such match has read; the place in front of the plural letter is always between two
characters. -/
theorem lookaheadExact_add (text : List Char) :
    (∀ kind : ComponentKind, LookaheadExact (add kind.noun) onFloor text) ∧
      LookaheadExact (add "floor") conjunction text :=
  ⟨fun kind => (noun_component kind).lookaheadExact onFloor text,
    noun_floor.lookaheadExact conjunction text⟩

end Phrase

end Floorplan
