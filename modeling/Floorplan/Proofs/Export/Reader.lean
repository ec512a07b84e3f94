import Floorplan.Export.Csv

set_option autoImplicit false

/-! # Reading comma-separated values

A reader of comma-separated values that knows nothing of how they are written. It goes through a text one
letter at a time. A field that begins with a quote goes on to the quote that closes it, whatever stands
between, and two quotes in it stand for one; any other field goes on to the next comma or the end of the
line. A line feed ends a record, alone or behind a carriage return. A text in which a quote, or a carriage
return, stands where none can be is refused.

`Spells` says which texts stand for which records, and the reader finds the records of every such text
(`read_of_spells`). -/

namespace Floorplan.Csv

/-! ## The reader -/

/-- Where a reader is in a field. -/
inductive Place where
  /-- Before the first letter. -/
  | start
  /-- In a field without quotes. -/
  | bare
  /-- Between the quotes. -/
  | quoted
  /-- Behind a quote between quotes: the last one, or the first of two. -/
  | closed
  /-- Behind the carriage return that a line feed has to follow. -/
  | returned
  deriving DecidableEq

/-- What has been read: the records, the fields of the record that is being read, and the letters of its
    last field. -/
structure Reader where
  records : List (List String) := []
  fields : List String := []
  letters : List Char := []
  place : Place := .start
  deriving DecidableEq

namespace Reader

/-- A letter of the field. -/
def put (r : Reader) (x : Char) (p : Place) : Reader := { r with letters := r.letters ++ [x], place := p }

/-- The end of a field. -/
def endField (r : Reader) : Reader :=
  { r with fields := r.fields ++ [String.ofList r.letters], letters := [], place := .start }

/-- The end of a record. -/
def endRecord (r : Reader) : Reader := { records := r.records ++ [r.endField.fields] }

/-- What a letter means outside of quotes. -/
def stepOutside (r : Reader) (x : Char) : Option Reader :=
  if x = ',' then some r.endField
  else if x = '\n' then some r.endRecord
  else if x = '\r' then some { r with place := .returned }
  else if x = '"' ∨ r.place = .closed then none
  else some (r.put x .bare)

/-- What a letter means. -/
def step (r : Reader) (x : Char) : Option Reader :=
  match r.place with
  | .start => if x = '"' then some { r with place := .quoted } else r.stepOutside x
  | .bare => r.stepOutside x
  | .quoted => some (if x = '"' then { r with place := .closed } else r.put x .quoted)
  | .closed => if x = '"' then some (r.put x .quoted) else r.stepOutside x
  | .returned => if x = '\n' then some r.endRecord else none

/-- What a text means, from where the reader is. -/
def run (r : Reader) (s : List Char) : Option Reader := s.foldlM step r

/-- The records at the end of a text. The last record needs no end of the line. -/
def finish (r : Reader) : Option (List (List String)) :=
  if r.place = .quoted ∨ r.place = .returned then none
  else if r.place = .start ∧ r.fields = [] then some r.records
  else some r.endRecord.records

variable {r : Reader}

@[simp] theorem run_nil : r.run [] = some r := rfl

theorem run_cons (x : Char) (s : List Char) : r.run (x :: s) = (r.step x).bind (·.run s) := rfl

theorem run_append (s t : List Char) : r.run (s ++ t) = (r.run s).bind (·.run t) := by
  simp [run, List.foldlM_append, Option.bind_eq_bind]

end Reader

/-- The records that a text stands for, if it stands for any. -/
def read (text : String) : Option (List (List String)) :=
  (({} : Reader).run text.toList).bind Reader.finish

/-- Two quotes for one, the letters of a carriage return and a line feed, and a last line without an end. -/
example : read "a,\"b\"\"\r\n\"\r\n,c" = some [["a", "b\"\r\n"], ["", "c"]] := by decide +kernel

/-! ## The texts that stand for records -/

/-- The letters of a field between quotes. -/
def doubled (s : List Char) : List Char := s.flatMap fun x => if x = '"' then ['"', '"'] else [x]

/-- A text stands for a field. -/
inductive SpellsField : List Char → List Char → Prop where
  | bare {s : List Char} : (∀ x ∈ s, isSpecial x = false) → SpellsField s s
  | quoted (s : List Char) : SpellsField ('"' :: doubled s ++ ['"']) s

/-- A text stands for the fields of a record, with the end of the line behind the last. -/
inductive SpellsRecord : List Char → List String → Prop where
  | last {w s e : List Char} : SpellsField w s → e = ['\n'] ∨ e = ['\r', '\n'] →
      SpellsRecord (w ++ e) [String.ofList s]
  | cons {w s v : List Char} {fields : List String} : SpellsField w s → SpellsRecord v fields →
      SpellsRecord (w ++ ',' :: v) (String.ofList s :: fields)

/-- A text stands for records. -/
inductive Spells : List Char → List (List String) → Prop where
  | nil : Spells [] []
  | cons {v t : List Char} {fields : List String} {records : List (List String)} :
      SpellsRecord v fields → Spells t records → Spells (v ++ t) (fields :: records)

/-! ## They are read -/

theorem isSpecial_eq_false_iff {x : Char} :
    isSpecial x = false ↔ x ≠ ',' ∧ x ≠ '"' ∧ x ≠ '\n' ∧ x ≠ '\r' := by
  simp [isSpecial, and_assoc]

/-- The places at which a field can end. -/
def Place.CanEnd (p : Place) : Prop := p = .start ∨ p = .bare ∨ p = .closed

namespace Reader

variable {r : Reader}

theorem step_comma (h : r.place.CanEnd) : r.step ',' = some r.endField := by
  rcases h with h | h | h <;> simp [step, h, stepOutside]

theorem step_lineFeed (h : r.place.CanEnd) : r.step '\n' = some r.endRecord := by
  rcases h with h | h | h <;> simp [step, h, stepOutside]

theorem step_carriageReturn (h : r.place.CanEnd) :
    r.step '\r' = some { r with place := .returned } := by
  rcases h with h | h | h <;> simp [step, h, stepOutside]

/-- Either end of the line ends the record. -/
theorem run_lineEnd {e : List Char} (h : r.place.CanEnd) (he : e = ['\n'] ∨ e = ['\r', '\n']) :
    r.run e = some r.endRecord := by
  rcases he with rfl | rfl
  · rw [run_cons, step_lineFeed h]
    rfl
  · rw [run_cons, step_carriageReturn h]
    rfl

/-- Letters that are not special are letters of a field without quotes. -/
theorem run_bare {s : List Char} (hs : ∀ x ∈ s, isSpecial x = false)
    (h : r.place = .start ∨ r.place = .bare) :
    ∃ p, p.CanEnd ∧ r.run s = some { r with letters := r.letters ++ s, place := p } := by
  induction s generalizing r with
  | nil =>
    refine ⟨r.place, h.imp_right Or.inl, ?_⟩
    rw [run_nil, List.append_nil]
  | cons x s ih =>
    obtain ⟨hcomma, hquote, hfeed, hreturn⟩ := isSpecial_eq_false_iff.1 (hs x List.mem_cons_self)
    have hstep : r.step x = some (r.put x .bare) := by
      rcases h with h | h <;> simp [step, stepOutside, h, hcomma, hquote, hfeed, hreturn]
    obtain ⟨p, hp, hrun⟩ := ih (r := r.put x .bare) (fun y hy => hs y (List.mem_cons_of_mem x hy))
      (Or.inr rfl)
    refine ⟨p, hp, ?_⟩
    rw [run_cons, hstep, Option.bind_some, hrun]
    simp [put]

/-- Between quotes every letter is one of the field, and two quotes are one. -/
theorem run_doubled (s : List Char) (h : r.place = .quoted) :
    r.run (doubled s) = some { r with letters := r.letters ++ s } := by
  induction s generalizing r with
  | nil => simp [doubled]
  | cons x s ih =>
    have hrest : (r.put x .quoted).run (doubled s) = some { r with letters := r.letters ++ x :: s } := by
      rw [ih rfl]
      simp [put, h]
    rw [← hrest]
    by_cases hquote : x = '"'
    · have htwo : doubled (x :: s) = '"' :: '"' :: doubled s := by simp [doubled, hquote]
      rw [htwo, run_cons, hquote]
      simp only [step, h, if_true, Option.bind_some, run_cons]
      rfl
    · have hone : doubled (x :: s) = x :: doubled s := by simp [doubled, hquote]
      rw [hone, run_cons]
      simp only [step, h, if_neg hquote, Option.bind_some]

/-- A field is read whole, up to where it can end. -/
theorem run_of_spellsField {w s : List Char} (h : SpellsField w s) (records : List (List String))
    (fields : List String) :
    ∃ p, p.CanEnd ∧ ({ records, fields } : Reader).run w
      = some { records, fields, letters := s, place := p } := by
  cases h with
  | bare hs =>
    obtain ⟨p, hp, hrun⟩ := run_bare (r := { records, fields }) hs (Or.inl rfl)
    exact ⟨p, hp, hrun⟩
  | quoted =>
    refine ⟨.closed, Or.inr (Or.inr rfl), ?_⟩
    have hopen : ({ records, fields } : Reader).step '"'
        = some { records, fields, place := .quoted } := rfl
    rw [List.cons_append, run_cons, hopen, Option.bind_some, run_append, run_doubled s rfl]
    rfl

/-- A record is read whole. -/
theorem run_of_spellsRecord {v : List Char} {rest : List String} (h : SpellsRecord v rest)
    (records : List (List String)) (fields : List String) :
    ({ records, fields } : Reader).run v = some { records := records ++ [fields ++ rest] } := by
  induction h generalizing fields with
  | last hfield he =>
    obtain ⟨p, hp, hrun⟩ := run_of_spellsField hfield records fields
    rw [run_append, hrun, Option.bind_some, run_lineEnd hp he]
    rfl
  | @cons w s v rest hfield _ ih =>
    obtain ⟨p, hp, hrun⟩ := run_of_spellsField hfield records fields
    rw [run_append, hrun, Option.bind_some, run_cons, step_comma hp, Option.bind_some]
    have hrest := ih (fields ++ [String.ofList s])
    rw [List.append_assoc, List.singleton_append] at hrest
    exact hrest

theorem run_of_spells {t : List Char} {rest : List (List String)} (h : Spells t rest)
    (records : List (List String)) :
    ({ records } : Reader).run t = some { records := records ++ rest } := by
  induction h generalizing records with
  | nil => simp
  | @cons v t fields rest hrecord _ ih =>
    rw [run_append, run_of_spellsRecord hrecord, Option.bind_some, List.nil_append, ih,
      List.append_assoc, List.singleton_append]

end Reader

/-- The reader finds the records that a text stands for. -/
theorem read_of_spells {t : List Char} {records : List (List String)} (h : Spells t records) :
    read (String.ofList t) = some records := by
  have hrun := Reader.run_of_spells h []
  rw [read, String.toList_ofList]
  simp only [List.nil_append] at hrun
  rw [hrun]
  rfl

/-- No text stands for two lists of records. -/
theorem Spells.unique {t : List Char} {records records' : List (List String)} (h : Spells t records)
    (h' : Spells t records') : records = records' :=
  Option.some.inj ((read_of_spells h).symm.trans (read_of_spells h'))

end Floorplan.Csv
