import Floorplan.Proofs.Json.Document

set_option autoImplicit false

/-! # Indented documents are read as they are written

The indented text of a document has the same tokens as the compact one, with lines and spaces between
them. So it is parsed to the same document (`Json.parse?_pretty`). -/

namespace Floorplan.Json

/-! ## Texts with white space -/

/-- The text consists of these tokens and white space, in front of a text that does not go on with a
    number. -/
def Covers (cs : List Char) (ts : List Token) : Prop :=
  ∀ us s, Numeral.Ends s → Spells us s → Spells (ts ++ us) (cs ++ s)

theorem Covers.nil : Covers [] [] := fun _ _ _ h => h

theorem Covers.token {t : Token} (ht : t.WellFormed) : Covers t.chars [t] := by
  have hextends := Extends.singleton ht
  intro us s hs h
  have hspells := hextends us s hs h
  rw [List.flatMap_cons, List.flatMap_nil, List.append_nil] at hspells
  exact hspells

/-- White space goes in front of any text. -/
theorem Covers.spaced (blanks : List Char) {cs : List Char} {ts : List Token}
    (hblanks : ∀ c ∈ blanks, isSpace c = true) (h : Covers cs ts) : Covers (blanks ++ cs) ts := by
  intro us s hs hus
  have hspells := h us s hs hus
  rw [List.append_assoc]
  induction blanks with
  | nil => exact hspells
  | cons c blanks ih =>
    obtain ⟨hc, hblanks⟩ := List.forall_mem_cons.1 hblanks
    exact .space hc (ih hblanks)

/-- A text that does not begin like a number goes behind any other. -/
theorem Covers.append {cs ds : List Char} {ts us : List Token} (hcs : Covers cs ts)
    (hds : Covers ds us) (hends : ∀ s, Numeral.Ends (ds ++ s)) : Covers (cs ++ ds) (ts ++ us) := by
  intro vs s hs h
  rw [List.append_assoc, List.append_assoc]
  exact hcs _ _ (hends s) (hds vs s hs h)

/-- A token that is not a number goes in front of any text. -/
theorem Covers.cons {t : Token} {cs : List Char} {ts : List Token} (ht : ∀ n, t ≠ .number n)
    (h : Covers cs ts) : Covers (t.chars ++ cs) (t :: ts) := by
  intro us s hs hus
  rw [List.append_assoc, List.cons_append]
  cases t with
  | number n => exact absurd rfl (ht n)
  | _ => exact .token trivial trivial (h us s hs hus)

theorem isSpace_of_mem_newLine {level : Nat} {c : Char} (hc : c ∈ newLine level) :
    isSpace c = true := by
  rcases List.mem_cons.1 hc with rfl | hc
  · rfl
  · rw [List.eq_of_mem_replicate hc]
    rfl

/-- No numeral goes on with a new line. -/
theorem ends_newLine (level : Nat) (s : List Char) : Numeral.Ends (newLine level ++ s) := by
  intro c hc
  obtain rfl := Option.some.inj hc
  decide

/-- What stands on a line of its own. -/
theorem Covers.line {cs : List Char} {ts : List Token} (level : Nat) (h : Covers cs ts) :
    Covers (newLine level ++ cs) ts := h.spaced _ fun _ hc => isSpace_of_mem_newLine hc

/-- A list between brackets, the closing one on a line of its own. -/
theorem Covers.enclosed {cs : List Char} {ts : List Token} (level : Nat) (first last : Token)
    (hfirst : ∀ n, first ≠ .number n) (hlast : last.WellFormed) (h : Covers cs ts) :
    Covers (first.chars ++ (cs ++ (newLine level ++ last.chars))) (first :: (ts ++ [last])) := by
  refine .cons hfirst (h.append ((Covers.token hlast).line level) fun s => ?_)
  rw [List.append_assoc]
  exact ends_newLine level _

/-- A list goes on behind a comma. -/
theorem Covers.comma {cs ds : List Char} {ts us : List Token} (hcs : Covers cs ts)
    (hds : Covers ds us) : Covers (cs ++ ',' :: ds) (ts ++ .comma :: us) :=
  hcs.append (.cons (t := .comma) (by simp) hds) fun _ => ends_of_mem (by decide)

/-! ## Lists of items and members -/

theorem indentedItems_cons (level : Nat) (j k : Json) (items : List Json) :
    indentedItems level (j :: k :: items)
      = newLine level ++ indented level j ++ ',' :: indentedItems level (k :: items) := by
  rw [indentedItems]
  simp

theorem indentedMembers_cons (level : Nat) (name : Option String) (j : Json)
    (m : Option String × Json) (members : List (Option String × Json)) :
    indentedMembers level ((name, j) :: m :: members)
      = newLine level ++ Token.chars (.string name) ++ ':' :: ' ' :: indented level j ++
          ',' :: indentedMembers level (m :: members) := by
  rw [indentedMembers]
  simp

/-- A member on a line of its own: its name, a colon and a space, and its value. -/
theorem Covers.member {cs : List Char} {ts : List Token} (level : Nat) (name : Option String)
    (h : Covers cs ts) : Covers (newLine level ++ Token.chars (.string name) ++ ':' :: ' ' :: cs)
      (.string name :: .colon :: ts) := by
  have hvalue : Covers (' ' :: cs) ts := h.spaced [' '] (List.forall_mem_singleton.2 rfl)
  have hcolon : Covers (':' :: ' ' :: cs) (.colon :: ts) := .cons (t := .colon) (by simp) hvalue
  rw [List.append_assoc]
  exact (Covers.cons (by simp) hcolon).line level

/-! ## Documents -/

mutual

/-- The indented text of a document consists of its tokens. -/
theorem covers_indented (level : Nat) (j : Json) (h : j.WellFormed) :
    Covers (indented level j) j.tokens := by
  match j with
  | null | bool _ | string _ => exact .token trivial
  | number n =>
    have hn : (Token.number n).WellFormed := h _ (by rw [tokens]; exact List.mem_cons_self)
    exact .token hn
  | array [] => exact .cons (t := .openArray) (by simp) (.token (t := .closeArray) trivial)
  | object [] => exact .cons (t := .openObject) (by simp) (.token (t := .closeObject) trivial)
  | array (j :: items) =>
    rw [WellFormed, tokens] at h
    have hitems := covers_indentedItems (level + 1) (j :: items) h.cons.2.append.1
    rw [tokens, indented, List.append_assoc]
    exact hitems.enclosed level .openArray .closeArray (by simp) trivial
  | object (m :: members) =>
    rw [WellFormed, tokens] at h
    have hmembers := covers_indentedMembers (level + 1) (m :: members) h.cons.2.append.1
    rw [tokens, indented, List.append_assoc]
    exact hmembers.enclosed level .openObject .closeObject (by simp) trivial

theorem covers_indentedItems (level : Nat) (items : List Json) (h : Accepted (itemTokens items)) :
    Covers (indentedItems level items) (itemTokens items) := by
  match items with
  | [] => exact .nil
  | [j] =>
    rw [itemTokens] at h ⊢
    rw [indentedItems]
    exact (covers_indented level j h).line level
  | j :: k :: items =>
    rw [itemTokens_cons] at h ⊢
    rw [indentedItems_cons]
    exact ((covers_indented level j h.append.1).line level).comma
      (covers_indentedItems level (k :: items) h.append.2.cons.2)

theorem covers_indentedMembers (level : Nat) (members : List (Option String × Json))
    (h : Accepted (memberTokens members)) :
    Covers (indentedMembers level members) (memberTokens members) := by
  match members with
  | [] => exact .nil
  | [(name, j)] =>
    rw [memberTokens] at h ⊢
    rw [indentedMembers]
    exact (covers_indented level j h.cons.2.cons.2).member level name
  | (name, j) :: m :: members =>
    rw [memberTokens_cons] at h ⊢
    rw [indentedMembers_cons]
    obtain ⟨hj, hrest⟩ := h.cons.2.cons.2.append
    exact ((covers_indented level j hj).member level name).comma
      (covers_indentedMembers level (m :: members) hrest.cons.2)

end

/-- **The indented text of a document is parsed to the document.** -/
theorem parse?_pretty {j : Json} (h : j.WellFormed) : parse? j.pretty = some j := by
  have hspells := covers_indented 0 j h [] [] (by simp [Numeral.Ends]) .nil
  rw [List.append_nil, List.append_nil] at hspells
  refine parse?_of_spells ?_
  rw [pretty, String.toList_ofList]
  exact hspells

end Floorplan.Json
