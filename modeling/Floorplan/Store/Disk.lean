import Floorplan.Store.Path

set_option autoImplicit false

/-! # Files

The files that are within reach, as a value: directories, files with their bytes, and two devices. The
operations are those that the stores and the exports need, and fail for the same reasons as on a real
disk. Relative paths start at the working directory. -/

namespace Floorplan

/-- What a path can lead to. -/
inductive Node where
  | file (bytes : ByteArray)
  | directory
  /-- A device that takes everything and holds nothing. -/
  | sink
  /-- A device on which there is no room. -/
  | full

/-- Why an operation on files fails. -/
inductive DiskError where
  | notFound
  | exists
  | notDirectory
  | isDirectory
  | noSpace
  | nameTooLong
  | zeroInPath
  | notText
  deriving DecidableEq, Repr

/-- The reason in words. -/
def DiskError.message : DiskError → String
  | notFound => "No such file or directory (os error 2)"
  | «exists» => "File exists (os error 17)"
  | notDirectory => "Not a directory (os error 20)"
  | isDirectory => "Is a directory (os error 21)"
  | noSpace => "No space left on device (os error 28)"
  | nameTooLong => "File name too long (os error 36)"
  | zeroInPath => "file name contained an unexpected NUL byte"
  | notText => "stream did not contain valid UTF-8"

/-- A place on the disk: the names from the root. -/
abbrev Place := List (List Char)

/-- Everything on the disk, and the working directory. -/
structure Disk where
  nodes : List (Place × Node)
  here : Place

/-- Where a path leads: to something, or to a name that is free in an existing directory. -/
inductive Target where
  | found (place : Place) (node : Node)
  | free (place : Place)

namespace Disk

/-- An empty working directory, beside the devices. -/
def empty : Disk :=
  let place (names : List String) : Place := names.map String.toList
  { nodes :=
      [(place [], .directory), (place ["dev"], .directory), (place ["dev", "null"], .sink),
       (place ["dev", "full"], .full), (place ["work"], .directory)]
    here := place ["work"] }

/-- What is at a place. -/
def node? (d : Disk) (place : Place) : Option Node := d.nodes.lookup place

/-- The disk with something at a place. -/
def put (d : Disk) (place : Place) (node : Node) : Disk :=
  { d with nodes := (place, node) :: d.nodes.filter fun entry => entry.1 ≠ place }

/-- The disk with nothing at a place. -/
def drop (d : Disk) (place : Place) : Disk :=
  { d with nodes := d.nodes.filter fun entry => entry.1 ≠ place }

/-- The bytes that a name takes. -/
def byteLength (name : List Char) : Nat := (String.ofList name).utf8ByteSize

/-- The longest name in a directory, in bytes. -/
def maxName : Nat := 255

/-- The longest path, in bytes. -/
def maxPath : Nat := 4095

/-- Goes from a place, which holds `node`, through the names. -/
def walk (d : Disk) (place : Place) (node : Node) : List (List Char) → Except DiskError Target
  | [] => .ok (.found place node)
  | name :: rest =>
    match node with
    | .directory =>
      if name = ['.'] then d.walk place node rest
      else if name = ['.', '.'] then d.walk place.dropLast .directory rest
      else if maxName < byteLength name then .error .nameTooLong
      else
        match d.node? (place ++ [name]) with
        | some next => d.walk (place ++ [name]) next rest
        | none => if rest.isEmpty then .ok (.free (place ++ [name])) else .error .notFound
    | _ => .error .notDirectory

/-- Where a path leads. -/
def resolve (d : Disk) (path : String) : Except DiskError Target :=
  if path.toList.contains '\x00' then .error .zeroInPath
  else if path.isEmpty then .error .notFound
  else if maxPath < path.utf8ByteSize then .error .nameTooLong
  else d.walk (if Path.isAbsolute path then [] else d.here) .directory (Path.pieces path)

/-- Is there a directory? -/
def isDirectory (d : Disk) (path : String) : Bool :=
  match d.resolve path with
  | .ok (.found _ .directory) => true
  | _ => false

/-- The bytes of a file. -/
def read (d : Disk) (path : String) : Except DiskError ByteArray :=
  match d.resolve path with
  | .error e => .error e
  | .ok (.free _) => .error .notFound
  | .ok (.found _ .directory) => .error .isDirectory
  | .ok (.found _ node) =>
    if Path.endsWithSlash path then .error .notDirectory
    else
      match node with
      | .file bytes => .ok bytes
      | _ => .ok ByteArray.empty

/-- The text of a file. -/
def readText (d : Disk) (path : String) : Except DiskError String :=
  match d.read path with
  | .error e => .error e
  | .ok bytes =>
    match String.fromUTF8? bytes with
    | some text => .ok text
    | none => .error .notText

/-- Where a file is to be written. It is made, or emptied, at once. -/
def create (d : Disk) (path : String) : Except DiskError (Place × Disk) :=
  match d.resolve path with
  | .error e => .error e
  | .ok (.free place) =>
    if Path.endsWithSlash path then .error .isDirectory
    else .ok (place, d.put place (.file ByteArray.empty))
  | .ok (.found place node) =>
    match node with
    | .directory => .error .isDirectory
    | .file _ =>
      if Path.endsWithSlash path then .error .isDirectory
      else .ok (place, d.put place (.file ByteArray.empty))
    | _ => if Path.endsWithSlash path then .error .isDirectory else .ok (place, d)

/-- Writes a text to a file that was made for it. -/
def fill (d : Disk) (place : Place) (text : String) : Except DiskError Disk :=
  match d.node? place with
  | some .full => if text.isEmpty then .ok d else .error .noSpace
  | some .sink => .ok d
  | _ => .ok (d.put place (.file text.toUTF8))

/-- Writes a file. -/
def write (d : Disk) (path text : String) : Except DiskError Disk :=
  match d.create path with
  | .error e => .error e
  | .ok (place, made) => made.fill place text

/-- Removes a file. -/
def remove (d : Disk) (path : String) : Except DiskError Disk :=
  match d.resolve path with
  | .error e => .error e
  | .ok (.free _) => .error .notFound
  | .ok (.found place node) =>
    match node with
    | .directory => .error .isDirectory
    | _ => if Path.endsWithSlash path then .error .notDirectory else .ok (d.drop place)

/-- Makes a directory in an existing one. -/
def makeDirectory (d : Disk) (path : String) : Except DiskError Disk :=
  match d.resolve path with
  | .error e => .error e
  | .ok (.free place) => .ok (d.put place .directory)
  | .ok (.found _ _) => .error .exists

/-- Makes the directories through the first parts of a path, as far as they are missing. What was made
stays if a later one fails. -/
def makeLeading (d : Disk) (path : String) : Nat → Disk × Option DiskError
  | 0 => (d, none)
  | count + 1 =>
    let step := Path.leading path (count + 1)
    match d.makeDirectory step with
    | .ok made => (made, none)
    | .error .notFound =>
      match d.makeLeading path count with
      | (parent, some e) => (parent, some e)
      | (parent, none) =>
        match parent.makeDirectory step with
        | .ok made => (made, none)
        | .error e => if parent.isDirectory step then (parent, none) else (parent, some e)
    | .error e => if d.isDirectory step then (d, none) else (d, some e)

/-- Makes a directory and those on the way to it. Nothing is to be done for an empty path. -/
def makeDirectories (d : Disk) (path : String) : Disk × Option DiskError :=
  d.makeLeading path (Path.parts path).length

end Disk

end Floorplan
