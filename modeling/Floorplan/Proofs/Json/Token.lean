import Floorplan.Json.Token
import Floorplan.Proofs.Json.Numeral

set_option autoImplicit false

/-! # Tokens are read as they are written

The text of a token reads back to the token. For a text in quotes this goes through its pieces: every
character is one piece, and the pieces make up the text again because no control character is half of
a pair. `Spells` says that a text is a sequence of tokens with white space anywhere between them; such a
text has these tokens and no others. -/

namespace Floorplan.Json

/-! ## Texts in quotes -/

/-- The piece as which a character is read. -/
def pieceOf (c : Char) : StringPiece :=
  if c.toNat < 0x20 ∧ c ≠ '\n' ∧ c ≠ '\r' ∧ c ≠ '\t' ∧ c ≠ '\x08' ∧ c ≠ '\x0c' then .unit c.toNat
  else .char c

theorem hexUnit?_hexDigit {n : Nat} (h : n < 0x20) :
    hexUnit? '0' '0' (hexDigit (n / 16)) (hexDigit (n % 16)) = some n := by
  interval_cases n <;> decide

theorem readPieces_escape (c : Char) (s : List Char) :
    readPieces (escape c ++ s)
      = (readPieces s).map fun (ps, left) => (pieceOf c :: ps, left) := by
  unfold escape
  by_cases hquote : c = '"'
  · subst hquote
    rfl
  by_cases hslash : c = '\\'
  · subst hslash
    rfl
  by_cases hn : c = '\n'
  · subst hn
    rfl
  by_cases hr : c = '\r'
  · subst hr
    rfl
  by_cases ht : c = '\t'
  · subst ht
    rfl
  by_cases hb : c = '\x08'
  · subst hb
    rfl
  by_cases hf : c = '\x0c'
  · subst hf
    rfl
  rw [if_neg hquote, if_neg hslash, if_neg hn, if_neg hr, if_neg ht, if_neg hb, if_neg hf]
  -- Of the characters without an escape of their own only control characters are escaped.
  by_cases hcontrol : c.toNat < 0x20
  · have hpiece : pieceOf c = .unit c.toNat := if_pos ⟨hcontrol, hn, hr, ht, hb, hf⟩
    rw [if_pos hcontrol, hpiece]
    simp only [List.cons_append, List.nil_append, readPieces, hexUnit?_hexDigit hcontrol]
  · have hpiece : pieceOf c = .char c := if_neg fun h => hcontrol h.1
    rw [if_neg hcontrol, hpiece, List.singleton_append]
    conv_lhs => unfold readPieces
    split
    · rename_i heq
      cases heq
    · rename_i heq
      exact absurd (List.cons.inj heq).1 hquote
    · rename_i heq
      exact absurd (List.cons.inj heq).1 hslash
    · rename_i heq
      exact absurd (List.cons.inj heq).1 hslash
    · rename_i heq
      obtain ⟨rfl, rfl⟩ := List.cons.inj heq
      rw [if_neg (not_or.2 ⟨hcontrol, hslash⟩)]

theorem textOf?_pieceOf (c : Char) (ps : List StringPiece) :
    textOf? (pieceOf c :: ps) = (textOf? ps).map (c :: ·) := by
  unfold pieceOf
  split
  · rename_i hcontrol
    have hlead : isLead c.toNat = false := by
      simp only [isLead, Bool.and_eq_false_iff, decide_eq_false_iff_not]
      omega
    have htrail : isTrail c.toNat = false := by
      simp only [isTrail, Bool.and_eq_false_iff, decide_eq_false_iff_not]
      omega
    cases ps with
    | nil => simp [textOf?, hlead, htrail]
    | cons p ps => cases p <;> simp [textOf?, hlead, htrail]
  · rfl

theorem readPieces_quoted (cs s : List Char) :
    readPieces (cs.flatMap escape ++ '"' :: s) = some (cs.map pieceOf, s) := by
  induction cs with
  | nil => rfl
  | cons c cs ih =>
    rw [List.flatMap_cons, List.append_assoc, readPieces_escape, ih]
    rfl

theorem textOf?_map_pieceOf (cs : List Char) : textOf? (cs.map pieceOf) = some cs := by
  induction cs with
  | nil => rfl
  | cons c cs ih => rw [List.map_cons, textOf?_pieceOf, ih, Option.map_some]

/-! ## Tokens -/

namespace Token

/-- The token is one that a reader accepts. -/
def WellFormed : Token → Prop
  | number n => n.WellFormed
  | _ => True

/-- What stands behind the token does not go on with it. -/
def Ends : Token → List Char → Prop
  | number _, s => Numeral.Ends s
  | _, _ => True

theorem head_numeral {n : Numeral} (h : n.WellFormed) :
    ∃ c s, n.chars = c :: s ∧ (c = '-' ∨ ∃ d < 10, c = Numeral.digitChar d) := by
  obtain ⟨d, ds, hds, hlt⟩ := h.whole_eq_cons
  rw [Numeral.chars_eq, hds]
  cases n.negative with
  | true => exact ⟨'-', _, rfl, Or.inl rfl⟩
  | false => exact ⟨Numeral.digitChar d, _, rfl, Or.inr ⟨d, hlt, rfl⟩⟩

/-- The first character of a numeral begins no other token. -/
theorem read?_numeral {c : Char} {s : List Char}
    (hc : c = '-' ∨ ∃ d < 10, c = Numeral.digitChar d) :
    read? (c :: s) = (Numeral.read? (c :: s)).map fun (n, left) => (number n, left) := by
  rcases hc with rfl | ⟨d, hd, rfl⟩
  · rfl
  · interval_cases d <;> rfl

/-- A token reads back, whatever stands behind it. -/
theorem read?_chars {t : Token} {s : List Char} (ht : t.WellFormed) (hs : t.Ends s) :
    read? (t.chars ++ s) = some (t, s) := by
  cases t with
  | number n =>
    obtain ⟨c, rest, hchars, hc⟩ := head_numeral ht
    have hread := Numeral.read?_chars ht hs
    rw [chars, hchars, List.cons_append] at *
    rw [read?_numeral hc, hread]
    rfl
  | string text =>
    cases text with
    | none => rfl
    | some text =>
      have hpieces := readPieces_quoted text.toList s
      simp only [chars, quoted, List.cons_append, List.append_assoc, List.nil_append, read?,
        hpieces, Option.map_some, textOf?_map_pieceOf, String.ofList_toList]
  | bool b => cases b <;> rfl
  | openArray | closeArray | openObject | closeObject | comma | colon | null => rfl

theorem chars_eq_cons {t : Token} (ht : t.WellFormed) :
    ∃ c s, t.chars = c :: s ∧ isSpace c = false := by
  cases t with
  | number n =>
    obtain ⟨c, s, hchars, hc⟩ := head_numeral ht
    refine ⟨c, s, hchars, ?_⟩
    rcases hc with rfl | ⟨d, hd, rfl⟩
    · decide
    · interval_cases d <;> decide
  | string text => cases text <;> exact ⟨_, _, rfl, by decide⟩
  | bool b => cases b <;> exact ⟨_, _, rfl, by decide⟩
  | openArray | closeArray | openObject | closeObject | comma | colon | null =>
    exact ⟨_, _, rfl, by decide⟩

end Token

/-! ## Sequences of tokens -/

/-- The text consists of these tokens, with white space anywhere between them. -/
inductive Spells : List Token → List Char → Prop
  | nil : Spells [] []
  | space {ts : List Token} {s : List Char} {c : Char} (hc : isSpace c = true) (h : Spells ts s) :
      Spells ts (c :: s)
  | token {t : Token} {ts : List Token} {s : List Char} (ht : t.WellFormed) (hs : t.Ends s)
      (h : Spells ts s) : Spells (t :: ts) (t.chars ++ s)

theorem tokensWithin_of_spells {ts : List Token} {s : List Char} (h : Spells ts s) {fuel : Nat}
    (hfuel : s.length ≤ fuel) : tokensWithin fuel s = some ts := by
  induction h generalizing fuel with
  | nil => cases fuel <;> rfl
  | @space ts s c hc _ ih =>
    obtain ⟨fuel, rfl⟩ : ∃ k, fuel = k + 1 := ⟨fuel - 1, by simp at hfuel; omega⟩
    simp only [tokensWithin, hc, if_true]
    exact ih (by simpa using hfuel)
  | @token t ts s ht hs _ ih =>
    obtain ⟨c, rest, hchars, hc⟩ := Token.chars_eq_cons ht
    have hread := Token.read?_chars ht hs
    rw [hchars, List.cons_append] at hread hfuel ⊢
    obtain ⟨fuel, rfl⟩ : ∃ k, fuel = k + 1 := ⟨fuel - 1, by simp at hfuel; omega⟩
    simp only [List.length_cons, List.length_append] at hfuel
    have hrest : tokensWithin fuel s = some ts := ih (by omega)
    simp only [tokensWithin, hc, Bool.false_eq_true, if_false, hread, hrest, Option.map_some]

/-- A text has the tokens that it consists of. -/
theorem tokens?_of_spells {ts : List Token} {s : List Char} (h : Spells ts s) :
    tokens? s = some ts := tokensWithin_of_spells h le_rfl

end Floorplan.Json
