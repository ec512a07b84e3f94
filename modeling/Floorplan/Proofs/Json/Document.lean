import Floorplan.Json.Document
import Floorplan.Proofs.Json.Token

set_option autoImplicit false

/-! # Documents are read as they are written

The tokens of a document read back to the document, and its compact text consists of these tokens. So
the compact text of a document whose numerals a reader accepts is parsed to this document
(`Json.parse?_compact`). -/

namespace Floorplan.Json

/-! ## Tokens of lists -/

theorem itemTokens_cons (j k : Json) (items : List Json) :
    itemTokens (j :: k :: items) = j.tokens ++ .comma :: itemTokens (k :: items) := by
  rw [itemTokens]
  simp

theorem memberTokens_cons (name : Option String) (j : Json) (m : Option String × Json)
    (members : List (Option String × Json)) :
    memberTokens ((name, j) :: m :: members)
      = .string name :: .colon :: (j.tokens ++ .comma :: memberTokens (m :: members)) := by
  rw [memberTokens]
  simp

/-- A document begins with none of the tokens that end a list. -/
theorem tokens_eq_cons (j : Json) :
    ∃ t ts, j.tokens = t :: ts ∧ t ≠ .closeArray ∧ t ≠ .closeObject := by
  cases j <;> exact ⟨_, _, by rw [tokens], by simp, by simp⟩

theorem itemTokens_eq_cons (j : Json) (items : List Json) :
    ∃ t ts, itemTokens (j :: items) = t :: ts ∧ t ≠ .closeArray := by
  obtain ⟨t, ts, hts, hne, -⟩ := tokens_eq_cons j
  cases items with
  | nil => exact ⟨t, ts, by rw [itemTokens, hts], hne⟩
  | cons k items => exact ⟨t, _, by rw [itemTokens_cons, hts, List.cons_append], hne⟩

theorem memberTokens_eq_cons (m : Option String × Json) (members : List (Option String × Json)) :
    ∃ ts, memberTokens (m :: members) = .string m.1 :: ts := by
  cases members with
  | nil => exact ⟨_, by rw [memberTokens]⟩
  | cons k members => exact ⟨_, by rw [memberTokens_cons]⟩

/-! ## From tokens to documents -/

mutual

/-- The tokens of a document read back to it, with as much fuel as there are tokens. -/
theorem readValue_tokens (j : Json) (fuel : Nat) (rest : List Token)
    (hfuel : j.tokens.length ≤ fuel) : readValue fuel (j.tokens ++ rest) = some (j, rest) := by
  obtain ⟨t, ts, hts, -, -⟩ := tokens_eq_cons j
  obtain ⟨fuel, rfl⟩ : ∃ k, fuel = k + 1 := ⟨fuel - 1, by rw [hts] at hfuel; simp at hfuel; omega⟩
  -- A list that is empty is read by a rule of its own, so any other must begin with another token.
  match j with
  | null | bool _ | number _ | string _ | array [] | object [] => rfl
  | array (j :: items) =>
    rw [tokens, List.length_cons, List.length_append, List.length_singleton] at hfuel
    have hitems := readItems_tokens (j :: items) (by simp) fuel rest (by omega)
    obtain ⟨t, ts, hfirst, hne⟩ := itemTokens_eq_cons j items
    rw [hfirst, List.cons_append] at hitems
    rw [tokens, hfirst, List.cons_append, List.append_assoc, List.cons_append,
      List.singleton_append, readValue]
    · rw [hitems, Option.map_some]
    · exact fun _ h => hne (List.cons.inj h).1
  | object (m :: members) =>
    rw [tokens, List.length_cons, List.length_append, List.length_singleton] at hfuel
    have hmembers := readMembers_tokens (m :: members) (by simp) fuel rest (by omega)
    obtain ⟨ts, hfirst⟩ := memberTokens_eq_cons m members
    rw [hfirst, List.cons_append] at hmembers
    rw [tokens, hfirst, List.cons_append, List.append_assoc, List.cons_append,
      List.singleton_append, readValue]
    · rw [hmembers, Option.map_some]
    · exact fun _ h => nomatch (List.cons.inj h).1

theorem readItems_tokens (items : List Json) (hitems : items ≠ []) (fuel : Nat)
    (rest : List Token) (hfuel : (itemTokens items).length < fuel) :
    readItems fuel (itemTokens items ++ .closeArray :: rest) = some (items, rest) := by
  obtain ⟨fuel, rfl⟩ : ∃ k, fuel = k + 1 := ⟨fuel - 1, by omega⟩
  match items with
  | [] => exact absurd rfl hitems
  | [j] =>
    rw [itemTokens] at hfuel ⊢
    rw [readItems, readValue_tokens j _ _ (by omega)]
  | j :: k :: items =>
    rw [itemTokens_cons, List.length_append, List.length_cons] at hfuel
    have hrest := readItems_tokens (k :: items) (by simp) fuel rest (by omega)
    rw [itemTokens_cons, List.append_assoc, List.cons_append, readItems,
      readValue_tokens j _ _ (by omega)]
    simp only [hrest, Option.map_some]

theorem readMembers_tokens (members : List (Option String × Json)) (hmembers : members ≠ [])
    (fuel : Nat) (rest : List Token) (hfuel : (memberTokens members).length < fuel) :
    readMembers fuel (memberTokens members ++ .closeObject :: rest) = some (members, rest) := by
  obtain ⟨fuel, rfl⟩ : ∃ k, fuel = k + 1 := ⟨fuel - 1, by omega⟩
  match members with
  | [] => exact absurd rfl hmembers
  | [(name, j)] =>
    simp only [memberTokens, List.length_cons] at hfuel
    rw [memberTokens, List.cons_append, List.cons_append, readMembers,
      readValue_tokens j _ _ (by omega)]
  | (name, j) :: m :: members =>
    simp only [memberTokens_cons, List.length_append, List.length_cons] at hfuel
    have hrest := readMembers_tokens (m :: members) (by simp) fuel rest (by omega)
    rw [memberTokens_cons, List.cons_append, List.cons_append, List.append_assoc,
      List.cons_append, readMembers, readValue_tokens j _ _ (by omega)]
    simp only [hrest, Option.map_some]

end

/-! ## From text to documents -/

/-- The numerals of the tokens are ones that a reader accepts. -/
def Accepted (ts : List Token) : Prop := ∀ t ∈ ts, t.WellFormed

/-- The numerals of the document are ones that a reader accepts. -/
def WellFormed (j : Json) : Prop := Accepted j.tokens

/-- The text of these tokens, in front of a text that does not go on with a number. -/
def Extends (ts : List Token) : Prop :=
  ∀ us s, Numeral.Ends s → Spells us s → Spells (ts ++ us) (ts.flatMap Token.chars ++ s)

theorem Extends.nil : Extends [] := fun _ _ _ h => h

theorem Extends.singleton {t : Token} (ht : t.WellFormed) : Extends [t] := by
  intro us s hs h
  rw [List.singleton_append, List.flatMap_cons, List.flatMap_nil, List.append_nil]
  refine .token ht ?_ h
  cases t <;> first | exact hs | trivial

/-- Tokens that do not begin with a number go behind any others. -/
theorem Extends.append {ts us : List Token} (hts : Extends ts) (hus : Extends us)
    (hends : ∀ s, Numeral.Ends (us.flatMap Token.chars ++ s)) : Extends (ts ++ us) := by
  intro vs s hs h
  rw [List.append_assoc, List.flatMap_append, List.append_assoc]
  exact hts _ _ (hends s) (hus vs s hs h)

/-- A token that is not a number goes in front of any others. -/
theorem Extends.cons {t : Token} {ts : List Token} (ht : ∀ n, t ≠ .number n)
    (h : Extends ts) : Extends (t :: ts) := by
  intro us s hs hus
  rw [List.cons_append, List.flatMap_cons, List.append_assoc]
  cases t with
  | number n => exact absurd rfl (ht n)
  | _ => exact .token trivial trivial (h us s hs hus)

/-- No numeral begins or goes on with one of these characters. -/
theorem ends_of_mem {c : Char} {s : List Char} (hc : c ∈ [']', '\x7d', ',']) :
    Numeral.Ends (c :: s) := by
  intro d hd
  obtain rfl := Option.some.inj hd
  simp only [List.mem_cons, List.not_mem_nil, or_false] at hc
  rcases hc with rfl | rfl | rfl <;> decide

theorem Accepted.append {ts us : List Token} (h : Accepted (ts ++ us)) :
    Accepted ts ∧ Accepted us := List.forall_mem_append.1 h

theorem Accepted.cons {t : Token} {ts : List Token} (h : Accepted (t :: ts)) :
    t.WellFormed ∧ Accepted ts := List.forall_mem_cons.1 h

mutual

theorem extends_tokens (j : Json) (h : j.WellFormed) : Extends j.tokens := by
  match j with
  | null | bool _ | string _ => exact .singleton trivial
  | number n =>
    have hn : (Token.number n).WellFormed := h _ (by rw [tokens]; exact List.mem_cons_self)
    exact .singleton hn
  | array items =>
    rw [WellFormed, tokens] at h
    rw [tokens]
    refine .cons (by simp) (.append (extends_itemTokens items h.cons.2.append.1)
      (.singleton trivial) fun s => ?_)
    exact ends_of_mem (by decide)
  | object members =>
    rw [WellFormed, tokens] at h
    rw [tokens]
    refine .cons (by simp) (.append (extends_memberTokens members h.cons.2.append.1)
      (.singleton trivial) fun s => ?_)
    exact ends_of_mem (by decide)

theorem extends_itemTokens (items : List Json) (h : Accepted (itemTokens items)) :
    Extends (itemTokens items) := by
  match items with
  | [] => exact .nil
  | [j] =>
    rw [itemTokens] at h ⊢
    exact extends_tokens j h
  | j :: k :: items =>
    rw [itemTokens_cons] at h ⊢
    refine .append (extends_tokens j h.append.1)
      (.cons (by simp) (extends_itemTokens (k :: items) h.append.2.cons.2)) fun s => ?_
    exact ends_of_mem (by decide)

theorem extends_memberTokens (members : List (Option String × Json))
    (h : Accepted (memberTokens members)) : Extends (memberTokens members) := by
  match members with
  | [] => exact .nil
  | [(name, j)] =>
    rw [memberTokens] at h ⊢
    exact .cons (by simp) (.cons (by simp) (extends_tokens j h.cons.2.cons.2))
  | (name, j) :: m :: members =>
    rw [memberTokens_cons] at h ⊢
    obtain ⟨hj, hrest⟩ := h.cons.2.cons.2.append
    refine .cons (by simp) (.cons (by simp) (.append (extends_tokens j hj)
      (.cons (by simp) (extends_memberTokens (m :: members) hrest.cons.2)) fun s => ?_))
    exact ends_of_mem (by decide)

end

/-- A text is parsed to the document whose tokens it consists of. -/
theorem parse?_of_spells {j : Json} {s : String} (h : Spells j.tokens s.toList) :
    parse? s = some j := by
  have hread := readValue_tokens j (2 * j.tokens.length) [] (by omega)
  rw [List.append_nil] at hread
  rw [parse?, tokens?_of_spells h]
  simp only [Option.bind_eq_bind, Option.bind_some, hread]

/-- **The compact text of a document is parsed to the document.** -/
theorem parse?_compact {j : Json} (h : j.WellFormed) : parse? j.compact = some j := by
  have hspells := extends_tokens j h [] [] (by simp [Numeral.Ends]) .nil
  rw [List.append_nil, List.append_nil] at hspells
  refine parse?_of_spells ?_
  rw [compact, String.toList_ofList]
  exact hspells

/-! ## Documents that are put together -/

theorem wellFormed_null : null.WellFormed := by
  simp [WellFormed, Accepted, tokens, Token.WellFormed]

theorem wellFormed_string (s : Option String) : (string s).WellFormed := by
  simp [WellFormed, Accepted, tokens, Token.WellFormed]

theorem wellFormed_number {n : Numeral} (h : n.WellFormed) : (number n).WellFormed := by
  simpa [WellFormed, Accepted, tokens, Token.WellFormed] using h

theorem accepted_itemTokens {items : List Json} (h : ∀ j ∈ items, j.WellFormed) :
    Accepted (itemTokens items) := by
  induction items with
  | nil => simp [Accepted, itemTokens]
  | cons j items ih =>
    obtain ⟨hj, hitems⟩ := List.forall_mem_cons.1 h
    cases items with
    | nil =>
      rw [itemTokens]
      exact hj
    | cons k items =>
      rw [itemTokens_cons]
      exact List.forall_mem_append.2 ⟨hj, List.forall_mem_cons.2 ⟨trivial, ih hitems⟩⟩

theorem accepted_memberTokens {members : List (Option String × Json)}
    (h : ∀ m ∈ members, m.2.WellFormed) : Accepted (memberTokens members) := by
  induction members with
  | nil => simp [Accepted, memberTokens]
  | cons m members ih =>
    obtain ⟨hm, hmembers⟩ := List.forall_mem_cons.1 h
    refine (?_ : Accepted (memberTokens ((m.1, m.2) :: members)))
    cases members with
    | nil =>
      rw [memberTokens]
      exact List.forall_mem_cons.2 ⟨trivial, List.forall_mem_cons.2 ⟨trivial, hm⟩⟩
    | cons k members =>
      rw [memberTokens_cons]
      refine List.forall_mem_cons.2 ⟨trivial, List.forall_mem_cons.2 ⟨trivial, ?_⟩⟩
      exact List.forall_mem_append.2 ⟨hm, List.forall_mem_cons.2 ⟨trivial, ih hmembers⟩⟩

theorem wellFormed_array {items : List Json} (h : ∀ j ∈ items, j.WellFormed) :
    (array items).WellFormed := by
  rw [WellFormed, tokens]
  refine List.forall_mem_cons.2 ⟨trivial, List.forall_mem_append.2 ⟨accepted_itemTokens h, ?_⟩⟩
  exact List.forall_mem_singleton.2 trivial

theorem wellFormed_object {members : List (Option String × Json)}
    (h : ∀ m ∈ members, m.2.WellFormed) : (object members).WellFormed := by
  rw [WellFormed, tokens]
  refine List.forall_mem_cons.2 ⟨trivial, List.forall_mem_append.2 ⟨accepted_memberTokens h, ?_⟩⟩
  exact List.forall_mem_singleton.2 trivial

end Floorplan.Json
