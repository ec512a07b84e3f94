import Floorplan.Proofs.Intent.Phrase
import Floorplan.Proofs.Text.Lowercase

set_option autoImplicit false

/-! # Names as they are written

A name can be written as it is or in quotes of either kind. However it is written, as long as it has no
quotes inside it is read from the first to the last of its characters, at the end of a request
(`Writable.leads_name`) as well as in front of what goes on behind it (`Writable.leads_name_before`), and
without the white space around it it is the name that is given (`Writable.name?_of_lookup`). -/

namespace Floorplan

open Pattern Phrase
open Text (Mentions)

/-- How a name is written. -/
inductive Quoting where
  | bare
  | single
  | double
  deriving DecidableEq, Repr

namespace Quoting

/-- What stands on both sides of the name. -/
def mark : Quoting → List Char
  | bare => []
  | single => ['\'']
  | double => ['"']

/-- The name as it is written. -/
def write (q : Quoting) (name : String) : String := String.ofList (q.mark ++ name.toList ++ q.mark)

variable {q : Quoting} {name : String}

/-- A name is written as it is or between two quotes. -/
theorem toList_write (q : Quoting) (name : String) : (q.write name).toList = name.toList ∨
    ∃ c ∈ ['"', '\''], (q.write name).toList = c :: (name.toList ++ [c]) := by
  cases q with
  | bare => exact Or.inl (by simp [write, mark])
  | single => exact Or.inr ⟨'\'', by decide, by simp [write, mark]⟩
  | double => exact Or.inr ⟨'"', by decide, by simp [write, mark]⟩

theorem isBlank_quote {c : Char} (hc : c ∈ ['"', '\'']) : Text.isBlank c = false := by
  have hall : ∀ c ∈ ['"', '\''], Text.isBlank c = false := by decide
  exact hall c hc

/-- Quotes are mentioned by no word. -/
theorem mentions_write {ws : List String}
    (hws : ∀ w ∈ ws, w.toList ≠ [] ∧ ∀ c ∈ ['"', '\''], c ∉ w.toList)
    (h : Mentions ws (q.write name).toList) : Mentions ws name.toList := by
  have hempty : ¬ Mentions ws [] := by
    rintro ⟨w, hw, hocc⟩
    exact (hws w hw).1 (List.infix_nil.1 hocc)
  have hquotes : ∀ c ∈ ['"', '\''], Text.smallForm c = [c] := by decide
  rcases q.toList_write name with heq | ⟨c, hc, heq⟩
  · rwa [heq] at h
  · have hfree : ∀ w ∈ ws, c ∉ w.toList := fun w hw => (hws w hw).2 c hc
    rw [heq, ← List.nil_append (c :: _), Text.mentions_append_cons_iff (hquotes c hc) hfree,
      Text.mentions_append_cons_iff (hquotes c hc) hfree] at h
    exact (h.resolve_left hempty).resolve_right hempty

end Quoting

/-- Between the two places stands the name, perhaps with white space around it. -/
def Holds (name : String) (start stop : List Char) : Prop :=
  Text.trimChars (Match.between start stop) = Text.trimChars name.toList

/-- A name that can be written with and without quotes. -/
structure Writable (name : String) : Prop where
  not_blank : Text.allBlank name = false
  unquoted : ∀ x ∈ name.toList, Unquoted x

namespace Writable

variable {name : String} {p : Pattern} {g : List (Nat × List Char × List Char)} {v : List Char}

theorem ne_nil (h : Writable name) : name.toList ≠ [] := by
  obtain ⟨x, hx, -⟩ := Text.exists_not_blank h.not_blank
  exact List.ne_nil_of_mem hx

theorem unquoted_trimLeft (h : Writable name) : ∀ x ∈ Text.trimLeft name.toList, Unquoted x :=
  fun x hx => h.unquoted x ((Text.trimLeft_suffix _).subset hx)

theorem holds_append {u : List Char} (hu : Text.trimChars u = Text.trimChars name.toList)
    (s : List Char) : Holds name (u ++ s) s := by
  rw [Holds, Match.between_append, hu]

/-- The written name is not white space either. -/
theorem trimLeft_write_append (h : Writable name) (q : Quoting) (s : List Char) :
    Text.trimLeft ((q.write name).toList ++ s) = Text.trimLeft (q.write name).toList ++ s := by
  refine Text.trimLeft_append ?_ s
  rcases q.toList_write name with heq | ⟨c, hc, heq⟩
  · rw [heq]
    exact Text.exists_not_blank h.not_blank
  · rw [heq]
    exact ⟨c, List.mem_cons_self, Quoting.isBlank_quote hc⟩

/-- **At the end of a request** all of the name is read. -/
theorem leads_name (h : Writable name) (q : Quoting) (i : Nat) :
    ∃ start stop, Holds name start stop ∧ ∀ g,
      (quotableName i).Leads ⟨Text.trimLeft (q.write name).toList, g⟩ ⟨[], (i, start, stop) :: g⟩ := by
  rcases q.toList_write name with heq | ⟨c, hc, heq⟩
  · have hholds := holds_append (Text.trimChars_trimLeft name.toList) []
    rw [List.append_nil] at hholds
    refine ⟨_, _, hholds, fun g => ?_⟩
    rw [heq]
    exact leads_quotableName i (Text.trimLeft_ne_nil h.not_blank) h.unquoted_trimLeft
  · refine ⟨_, _, holds_append rfl [c], fun g => ?_⟩
    rw [heq, Text.trimLeft_cons _ (Quoting.isBlank_quote hc)]
    exact leads_quotableName_quoted i hc h.ne_nil h.unquoted []

/-- **Where the request goes on** behind a blank, and cannot go on any later, the name ends. -/
theorem leads_name_before (h : Writable name) (q : Quoting) (i : Nat) (hv : ∀ x ∈ v, Unquoted x)
    (hlater : ∀ t, t <:+ v → ∀ r, ¬ p.Reads t r) : ∃ start stop, Holds name start stop ∧
      ∀ g m, p.Leads ⟨' ' :: v, (i, start, stop) :: g⟩ m →
        (andThen (quotableName i) p).Leads ⟨Text.trimLeft (q.write name).toList ++ ' ' :: v, g⟩ m := by
  rcases q.toList_write name with heq | ⟨c, hc, heq⟩
  · refine ⟨_, _, holds_append (Text.trimChars_trimLeft _) (' ' :: v), fun g m hp => ?_⟩
    rw [heq]
    refine leads_quotableName_before i (Text.trimLeft_ne_nil h.not_blank) (fun x hx => ?_) hlater hp
    rcases List.mem_append.1 hx with hx | hx
    · exact h.unquoted_trimLeft x hx
    · rcases List.mem_cons.1 hx with rfl | hx
      · decide
      · exact hv x hx
  · refine ⟨_, _, holds_append rfl (c :: ' ' :: v), fun g m hp => ?_⟩
    rw [heq, Text.trimLeft_cons _ (Quoting.isBlank_quote hc)]
    have hname := leads_quotableName_quoted (g := g) i hc h.ne_nil h.unquoted (' ' :: v)
    refine Leads.andThen (l := ⟨' ' :: v, (i, name.toList ++ c :: ' ' :: v, c :: ' ' :: v) :: g⟩) ?_ hp
    simpa using hname

/-- The name is given without the white space around it. -/
theorem name?_of_lookup (h : Writable name) {m : Match} {i : Nat} {start stop : List Char}
    (hm : m.groups.lookup i = some (start, stop)) (hname : Holds name start stop) :
    m.name? i = some (Text.trim name) := by
  refine Match.name?_eq_some.2 ⟨Match.between start stop, by rw [Match.group?, hm]; rfl, ?_, ?_⟩
  · rw [hname]
    exact Text.trimChars_ne_nil h.not_blank
  · rw [hname]
    rfl

end Writable

end Floorplan
