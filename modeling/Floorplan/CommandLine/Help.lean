import Floorplan.CommandLine.Config

set_option autoImplicit false

/-! # Help and version

What the program says about itself. The options stand in one column and their descriptions, each on one
line however long, in another. -/

namespace Floorplan.CommandLine

/-- The name of the program with its version. -/
def versionText : String := "sitewise 1.0.0\n"

/-- The column in which descriptions begin. -/
def descriptionColumn : Nat := 24

/-- An option, or the letters for it, with its description. -/
def optionHelp (option description : String) : String :=
  option ++ String.ofList (List.replicate (descriptionColumn - option.length) ' ') ++
    description ++ "\n"

/-- The help; it shows what the environment names as the data directory. -/
def helpText (environment : Option String) : String :=
  "SiteWise - model buildings by chatting with a terminal assistant\n\n" ++
  "Usage: sitewise [OPTIONS]\n\n" ++
  "Options:\n" ++
  optionHelp "      --data-dir <DIR>"
    ("Directory for saved buildings, chat history and the log file [env: SITEWISE_DATA_DIR=" ++
      environment.getD "" ++ "]") ++
  optionHelp "      --delay-ms <MS>"
    ("Pause before each reply, in milliseconds [default: " ++ toString Config.defaultDelay ++ "]") ++
  optionHelp "  -c, --command <TEXT>"
    "Run a command without the TUI and print the reply (repeatable)" ++
  optionHelp "      --csv <FILE>" "Export the saved buildings to CSV" ++
  optionHelp "      --json <FILE>" "Export the saved buildings to JSON" ++
  optionHelp "      --clear" "Delete all saved buildings and reset the chat" ++
  optionHelp "  -h, --help" "Print help" ++
  optionHelp "  -V, --version" "Print version"

end Floorplan.CommandLine
