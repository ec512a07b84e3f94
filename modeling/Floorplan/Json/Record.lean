import Floorplan.Json.Document

set_option autoImplicit false

/-! # Records in documents

A record is written as an object. It may be read from an object in which every field occurs at most
once, among members that are not fields of the record, or from an array of its fields in order, of
which the last may be missing if they can be left out. -/

namespace Floorplan.Json

/-- The text of a string. -/
def toText? : Json → Option String
  | string s => s
  | _ => none

/-- The natural number of 64 bits. -/
def toNat? : Json → Option Nat
  | number n => n.toNat?
  | _ => none

/-- The coordinate. -/
def toBinary64? : Json → Option Binary64
  | number n => n.toBinary64?
  | _ => none

/-- The items of an array, each read. -/
def toList? {α : Type} (read : Json → Option α) : Json → Option (List α)
  | array items => items.mapM read
  | _ => none

/-- A text as a document. -/
def ofText (s : String) : Json := string (some s)

/-- A natural number as a document. -/
def ofNat (n : Nat) : Json := number (.ofNat n)

/-- A coordinate as a document. -/
def ofBinary64 (x : Binary64) : Json := number (.ofBinary64 x)

/-- An object of fields in order. -/
def record (fields : List (String × Json)) : Json :=
  object (fields.map fun (name, value) => (some name, value))

/-- A field that is left out if it has no value. -/
def fieldIfSome (name : String) (value : Option String) : List (String × Json) :=
  match value with
  | some s => [(name, ofText s)]
  | none => []

/-- The values of a record's fields in order, `none` for those that are missing. In an array the
first `required` fields have to be present. -/
def fields? (names : List String) (required : Nat) : Json → Option (List (Option Json))
  | object members =>
    if members.all (fun m => m.1.isSome) &&
        names.all (fun n => ((members.filter fun m => m.1 == some n).length ≤ 1)) then
      some (names.map fun n => members.lookup (some n))
    else none
  | array items =>
    if required ≤ items.length && items.length ≤ names.length then
      some ((List.range names.length).map fun i => items[i]?)
    else none
  | _ => none

/-- A field that has to be there. -/
def required? {α : Type} (read : Json → Option α) (field : Option Json) : Option α := field.bind read

/-- A text field that may be missing or null. -/
def optional? : Option Json → Option (Option String)
  | none => some none
  | some null => some none
  | some j => (toText? j).map some

end Floorplan.Json
