import Floorplan.CommandLine.Run
import Floorplan.Text.Lines
import Std.Time.DateTime.Timestamp

set_option autoImplicit false

/-! # The program

The files that a run can change are read into a disk, the run takes place on that disk, and what it
changed is written back. Without work on the command line the lines of the standard input are a
conversation: each is a run with one command. -/

namespace Floorplan.CommandLine

/-- The files in the data directory. -/
def ownFiles (config : Config) : List String :=
  let store : FileStore := ⟨config.dataDir, .empty⟩
  [store.pathOf buildingsKey, store.pathOf messagesKey, config.logPath]

/-- A disk on which something is at a path, with the directories on the way to it. -/
def onDisk (disk : Disk) (path : String) (node : Node) : Disk :=
  let made := (disk.makeDirectories (Path.leading path ((Path.parts path).length - 1))).1
  match made.resolve path with
  | .ok (.free place) => made.put place node
  | _ => made

/-- Reads the files that a run may change. An export that cannot be written is taken for a directory. -/
def readFiles (o : Options) (config : Config) : IO Disk := do
  let mut disk := Disk.empty
  for path in ownFiles config do
    if let .ok bytes ← (IO.FS.readBinFile path).toBaseIO then
      disk := onDisk disk path (.file bytes)
  for path in o.csv.toList ++ o.json.toList do
    let writable ← (IO.FS.withFile path .append fun _ => pure ()).toBaseIO
    match writable with
    | .ok () => disk := onDisk disk path (.file ByteArray.empty)
    | .error _ => disk := onDisk disk path .directory
  return disk

/-- Writes back the files that a run changed. -/
def writeFiles (paths : List String) (before after : Disk) : IO Unit := do
  for path in paths do
    match (before.read path).toOption, (after.read path).toOption with
    | old, some bytes => if old != some bytes then IO.FS.writeBinFile path bytes
    | some _, none => IO.FS.removeFile path
    | none, none => pure ()

/-- A clock that stands still at the present time. -/
def clock : IO Clock := do
  let nanos := (← Std.Time.Timestamp.now).toNanosecondsSinceUnixEpoch.toInt.toNat
  return ⟨fun _ => nanos / 1000000, fun _ => nanos⟩

/-- Does what the options ask for, and gives the exit code. -/
def perform (o : Options) (config : Config) : IO UInt32 := do
  IO.FS.createDirAll config.dataDir
  let before ← readFiles o config
  let awaited := o.commands.countP fun c => !Text.allBlank c
  IO.sleep (awaited * config.delayMillis).toUInt32
  let result := runWith o config before (← clock)
  writeFiles (ownFiles config ++ o.csv.toList ++ o.json.toList) before result.disk
  IO.print result.output
  return result.exitCode.toUInt32

/-- Answers the lines of the standard input up to its end, or up to a failure. -/
partial def answerLines (config : Config) : IO UInt32 := do
  let line ← (← IO.getStdin).getLine
  if line.isEmpty then return 0
  let code ← perform { commands := [String.ofList (Text.firstLine line.toList)] } config
  if code ≠ 0 then return code
  answerLines config

/-- A run with the arguments and the environment of the process. -/
def start (args : List String) : IO UInt32 := do
  let environment ← IO.getEnv "SITEWISE_DATA_DIR"
  match read args environment with
  | .refused => return usageCode.toUInt32
  | .help => IO.print (helpText environment); return 0
  | .version => IO.print versionText; return 0
  | .run o =>
    let usual := Config.default (← IO.getEnv "HOME") (← IO.getEnv "XDG_DATA_HOME")
    let config : Config := ⟨o.dataDir.getD usual.dataDir, o.delay.getD usual.delayMillis⟩
    if o.hasWork then perform o config else answerLines config

end Floorplan.CommandLine

/-- The program. A failure of the files themselves ends it with a message. -/
def main (args : List String) : IO UInt32 :=
  Floorplan.CommandLine.start args
