import Floorplan.Building.Record
import Floorplan.Export.Csv
import Floorplan.Store.Disk

set_option autoImplicit false

/-! # Exports to files

A collection is exported as comma-separated values or as an indented document. The records are written
through a buffer, so that a short export to a full device only fails when the buffer is emptied at the
end. -/

namespace Floorplan

/-- Why an export fails. -/
inductive ExportError where
  | create (path : String) (reason : DiskError)
  | write (reason : DiskError)
  | record (reason : DiskError)
  deriving DecidableEq, Repr

/-- The failure in words. -/
def ExportError.message : ExportError → String
  | create path reason => "failed to create file '" ++ path ++ "': " ++ reason.message
  | write reason => "failed to write data: " ++ reason.message
  | record reason => "CSV write failed: " ++ reason.message

/-- The formats of an export. -/
inductive ExportFormat where
  | csv
  | json
  deriving DecidableEq, Repr

namespace ExportFormat

/-- The collection in a format. -/
def render : ExportFormat → Collection → String
  | csv, c => Csv.write c
  | json, c => c.toJson.pretty

/-- The bytes that records are collected in before they are written. -/
def bufferSize : Nat := 8192

/-- A failure to write a text. -/
def writeError (f : ExportFormat) (text : String) (reason : DiskError) : ExportError :=
  match f with
  | csv => if bufferSize < text.utf8ByteSize then .record reason else .write reason
  | json => .write reason

/-- Exports a collection to a file. -/
def exportTo (f : ExportFormat) (c : Collection) (disk : Disk) (path : String) :
    Except ExportError Disk :=
  match disk.create path with
  | .error reason => .error (.create path reason)
  | .ok (place, made) =>
    let text := f.render c
    match made.fill place text with
    | .error reason => .error (f.writeError text reason)
    | .ok written => .ok written

end ExportFormat

end Floorplan
