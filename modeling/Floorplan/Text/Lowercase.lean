import Floorplan.Text.Lowercase.Table

set_option autoImplicit false

/-! # Lower case of a text

The full Unicode lower case: every capital becomes its small letter, the capital I with a dot becomes
the letter i followed by a combining dot, and a capital sigma becomes the final form of the letter
where a word ends with it. -/

namespace Floorplan.Text

/-- The small letter of a capital in one of the runs, when there is one. -/
def smallIn : List CapitalRun → Nat → Option Nat
  | [], _ => none
  | run :: rest, n =>
    if n < run.first then none
    else if n ≤ run.last then
      if (n - run.first) % run.step = 0 then some (run.small + (n - run.first)) else smallIn rest n
    else smallIn rest n

/-- The small letter of a character; other characters are their own. -/
def smallLetter (c : Char) : Char :=
  match smallIn capitalRuns c.toNat with
  | some n => Char.ofNat n
  | none => c

/-- Skipping what case ignores, is the next character a cased one? -/
def casedNext (s : List Char) : Bool :=
  match s.dropWhile (fun c => caseIgnorableTable.contains c.toNat) with
  | [] => false
  | c :: _ => casedTable.contains c.toNat

/-- The small form of a capital sigma: the final one after a cased character, unless another cased
character follows. -/
def smallSigma (before after : List Char) : Char :=
  if casedNext before && !casedNext after then 'ς' else 'σ'

/-- Lower case of the text that comes after `before`, which is given from its end backwards. -/
def lowerAfter (before : List Char) : List Char → List Char
  | [] => []
  | c :: rest =>
    let small :=
      if c = 'Σ' then [smallSigma before rest]
      else if c = 'İ' then ['i', '\u0307']
      else [smallLetter c]
    small ++ lowerAfter (c :: before) rest

/-- The lower case of a text. -/
def lowerChars (s : List Char) : List Char := lowerAfter [] s

/-- The lower case of a text. -/
def lower (s : String) : String := String.ofList (lowerChars s.toList)

/-- An ASCII capital has the small letter that core gives it. -/
theorem smallLetter_ascii (c : Char) (h : c.toNat < 128) : smallLetter c = c.toLower := by
  have key : ∀ n : Fin 128, smallLetter (Char.ofNat n.val) = (Char.ofNat n.val).toLower := by decide
  have := key ⟨c.toNat, h⟩
  simpa using this

end Floorplan.Text
