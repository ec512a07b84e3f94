import Floorplan.CommandLine.Arguments
import Floorplan.CommandLine.Help
import Floorplan.Export.File
import Floorplan.Session.Basic

set_option autoImplicit false

/-! # Runs of the program

A run without the screen: clear, commands, exports, in this order, over the store in the data
directory. What was printed before a failure stays printed. -/

namespace Floorplan.CommandLine

/-- How a run ends: its exit code, what it printed, and the disk. -/
structure RunResult where
  exitCode : Nat
  output : String
  disk : Disk

/-- The exit code of a run that fails. -/
def failureCode : Nat := 1

/-- The exit code of a run whose arguments are wrong. -/
def usageCode : Nat := 2

/-- The exit code of a run that is broken off by a fault. -/
def faultCode : Nat := 101

/-- What is printed after clearing. -/
def clearedText (dir : String) : String := "Cleared saved buildings in " ++ dir ++ "\n"

/-- What is printed for a command and its reply. -/
def replyText (command reply : String) : String := "> " ++ command ++ "\n" ++ reply ++ "\n\n"

/-- What is printed after an export. -/
def exportedText (format : ExportFormat) (path : String) : String :=
  match format with
  | .csv => "Exported to CSV: " ++ path ++ "\n"
  | .json => "Exported to JSON: " ++ path ++ "\n"

/-- Makes the data directory and the log file in it. -/
def prepare (config : Config) (disk : Disk) : Disk × Option DiskError :=
  match disk.makeDirectories config.dataDir with
  | (disk, some e) => (disk, some e)
  | (disk, none) =>
    match disk.resolve config.logPath with
    | .ok (.found _ .directory) => (disk, some .isDirectory)
    | .ok (.found _ _) => (disk, none)
    | .ok (.free place) => (disk.put place (.file ByteArray.empty), none)
    | .error e => (disk, some e)

/-- Runs the commands in order up to one that ends in a fault, and gives what they print, the session
that they lead to and the fault. -/
def converse {σ : Type} [BlobStore σ] (clock : Clock) (output : String) (s : Session σ) :
    List String → String × Session σ × Option Fault
  | [] => (output, s, none)
  | command :: rest =>
    match s.send command clock with
    | .error fault => (output, s, some fault)
    | .ok (some reply, s) => converse clock (output ++ replyText command reply) s rest
    | .ok (none, s) => converse clock output s rest

/-- Writes the exports that are asked for, and gives what is printed. -/
def writeExports (c : Collection) (output : String) (disk : Disk) :
    List (ExportFormat × Option String) → RunResult
  | [] => ⟨0, output, disk⟩
  | (_, none) :: rest => writeExports c output disk rest
  | (format, some path) :: rest =>
    match format.exportTo c disk path with
    | .error _ =>
      ⟨failureCode, output, ((disk.create path).toOption.map (·.2)).getD disk⟩
    | .ok written => writeExports c (output ++ exportedText format path) written rest

/-- A run with options that were read. -/
def runWith (o : Options) (config : Config) (disk : Disk) (clock : Clock) : RunResult :=
  match prepare config disk with
  | (disk, some _) => ⟨failureCode, "", disk⟩
  | (disk, none) =>
    let restored : Session FileStore := .restore ⟨config.dataDir, disk⟩ clock
    let (output, cleared) :=
      if o.clear then (clearedText config.dataDir, restored.clear clock) else ("", restored)
    match converse clock output cleared o.commands with
    | (output, s, some _) => ⟨faultCode, output, s.store.disk⟩
    | (output, s, none) =>
      writeExports s.collection output s.store.disk [(.csv, o.csv), (.json, o.json)]

/-- A run of the program. -/
def run (args : List String) (environment home override : Option String) (disk : Disk)
    (clock : Clock) : RunResult :=
  match read args environment with
  | .refused => ⟨usageCode, "", disk⟩
  | .help => ⟨0, helpText environment, disk⟩
  | .version => ⟨0, versionText, disk⟩
  | .run o =>
    let config : Config :=
      ⟨o.dataDir.getD (Config.defaultDataDir home override), o.delay.getD Config.defaultDelay⟩
    runWith o config disk clock

end Floorplan.CommandLine
