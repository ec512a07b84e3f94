import Floorplan.Store.Path

set_option autoImplicit false

/-! # Settings

Where the data lives and how long the assistant takes to reply. Without an explicit directory the data
lives in the user's data directory, which an absolute path in the environment may replace. -/

namespace Floorplan

/-- The settings of a run. -/
structure Config where
  dataDir : String
  delayMillis : Nat
  deriving DecidableEq, Repr

namespace Config

/-- The pause before a reply, unless another one is set. -/
def defaultDelay : Nat := 1500

/-- The log file in the data directory. -/
def logPath (c : Config) : String := Path.join c.dataDir "sitewise.log"

/-- The data directory of a user with a home directory, given what the environment names instead of
the user's usual one. -/
def defaultDataDir (home override : Option String) : String :=
  match override.filter Path.isAbsolute with
  | some dir => Path.join dir "sitewise"
  | none =>
    match home.filter fun dir => !dir.isEmpty with
    | some dir => Path.join (Path.join dir ".local/share") "sitewise"
    | none => ".sitewise"

/-- The settings of a run on which nothing is set. -/
def default (home override : Option String) : Config := ⟨defaultDataDir home override, defaultDelay⟩

end Config

end Floorplan
