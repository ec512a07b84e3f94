import Floorplan.Text.Search

set_option autoImplicit false

/-! # Paths

A path is a text whose parts are separated by slashes. Repeated slashes, slashes at the end and single
dots are passed over when the parts are named; two dots are a part like any other. -/

namespace Floorplan.Path

/-- Does the path start at the root? -/
def isAbsolute (path : String) : Bool := path.toList.head? == some '/'

/-- Does the path end with a slash? -/
def endsWithSlash (path : String) : Bool := path.toList.getLast? == some '/'

/-- The pieces between slashes that are not empty. -/
def pieces (path : String) : List (List Char) :=
  (Text.splitAt '/' path.toList).filter fun p => !p.isEmpty

/-- The pieces without single dots. -/
def parts (path : String) : List (List Char) := (pieces path).filter fun p => p ≠ ['.']

/-- The path of a name in a directory. An absolute name stands for itself. -/
def join (dir name : String) : String :=
  if isAbsolute name then name
  else if dir.isEmpty || endsWithSlash dir then dir ++ name
  else dir ++ "/" ++ name

/-- The last part, unless it leads upwards. -/
def fileName? (path : String) : Option (List Char) :=
  (parts path).getLast?.filter fun p => p ≠ ['.', '.']

/-- What follows the last dot of a file name, unless that dot is its first character. -/
def extension? (path : String) : Option (List Char) := do
  let name ← fileName? path
  let reversed := name.reverse
  let ending := reversed.takeWhile (· ≠ '.')
  match reversed.drop ending.length with
  | '.' :: _ :: _ => some ending.reverse
  | _ => none

/-- The path that leads through the first parts of a path. -/
def leading (path : String) (count : Nat) : String :=
  let start := if isAbsolute path then "/" else ""
  start ++ String.ofList (List.intercalate ['/'] ((parts path).take count))

end Floorplan.Path
