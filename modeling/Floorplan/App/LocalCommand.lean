import Floorplan.Text.Blank

set_option autoImplicit false

/-! # Local commands

A line that begins with a colon is not sent to the assistant, but acts on the selected row. -/

namespace Floorplan

/-- What can be done to a row. -/
inductive RowCommand where
  | map (path : String)
  | fixture (path : String)
  | unmap
  | unfixture
  | name (name : String)
  deriving DecidableEq, Repr

/-- What a line with a colon asks for. -/
inductive LocalCommand where
  | onRow (command : RowCommand)
  | clear
  deriving DecidableEq, Repr

/-- A line with a colon that asks for nothing. -/
inductive LocalCommandError where
  | missingArgument (verb : String)
  | unknown (verb : String)
  deriving DecidableEq, Repr

/-- The failure in words. -/
def LocalCommandError.message : LocalCommandError → String
  | missingArgument verb => ":" ++ verb ++ " needs an argument"
  | unknown verb => "unknown command :" ++ verb

namespace LocalCommand

/-- The command of a verb and its argument, which may be empty. -/
def ofVerb (verb argument : String) : Except LocalCommandError LocalCommand :=
  let withArgument (make : String → RowCommand) : Except LocalCommandError LocalCommand :=
    if argument.isEmpty then .error (.missingArgument verb) else .ok (onRow (make argument))
  match verb with
  | "map" => withArgument .map
  | "fixture" => withArgument .fixture
  | "name" => .ok (onRow (.name argument))
  | "unmap" => .ok (onRow .unmap)
  | "unfixture" => .ok (onRow .unfixture)
  | "clear" => .ok clear
  | _ => .error (.unknown verb)

/-- The command of a line, or none if the line does not begin with a colon. White space around the
line and around the argument does not count. -/
def parse? (line : String) : Option (Except LocalCommandError LocalCommand) :=
  match Text.trimChars line.toList with
  | ':' :: rest =>
    let verb := rest.takeWhile fun c => !Text.isBlank c
    some (ofVerb (String.ofList verb) (String.ofList (Text.trimChars (rest.drop verb.length))))
  | _ => none

end LocalCommand

end Floorplan
