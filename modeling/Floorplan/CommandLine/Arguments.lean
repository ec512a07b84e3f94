import Floorplan.CommandLine.Config
import Floorplan.Text.Digit

set_option autoImplicit false

/-! # Arguments

The arguments of the command line. They are read from the left, and the first that is wrong or asks for
help or the version decides. A value stands behind its option, or is attached to it with an equals sign
(behind the single letter also without one). Text that begins with a minus sign is never a value
behind an option, unless it is the minus sign alone. -/

namespace Floorplan.CommandLine

/-- The options that have a value. -/
inductive ValueOption where
  | dataDir
  | delay
  | command
  | csv
  | json
  deriving DecidableEq, Repr

/-- What the arguments ask for. -/
structure Options where
  dataDir : Option String := none
  delay : Option Nat := none
  commands : List String := []
  csv : Option String := none
  json : Option String := none
  clear : Bool := false
  deriving DecidableEq, Repr

/-- What is to be done after reading the arguments. -/
inductive Reading where
  | run (o : Options)
  | help
  | version
  | refused
  deriving DecidableEq, Repr

/-- The option with a long name that has a value. -/
def ValueOption.ofName? : String → Option ValueOption
  | "data-dir" => some dataDir
  | "delay-ms" => some delay
  | "command" => some command
  | "csv" => some csv
  | "json" => some json
  | _ => none

/-- A number of 64 bits, perhaps with a plus sign. -/
def number? (s : String) : Option Nat :=
  match s.toList with
  | '+' :: digits => Text.word? digits
  | digits => Text.word? digits

/-- A path: any text that is not empty. -/
def path? (s : String) : Option String := if s.isEmpty then none else some s

/-- A value for an option that may be given once. -/
def once {α : Type} (already value : Option α) : Option (Option α) :=
  if already.isSome then none else value.map some

namespace Options

/-- Are there commands to run or files to write? -/
def hasWork (o : Options) : Bool :=
  o.clear || !o.commands.isEmpty || o.csv.isSome || o.json.isSome

/-- The options with a value taken up, if it is one for this option. Only commands may be repeated. -/
def set? (o : Options) (which : ValueOption) (value : String) : Option Options :=
  match which with
  | .command => some { o with commands := o.commands ++ [value] }
  | .dataDir => (once o.dataDir (path? value)).map fun v => { o with dataDir := v }
  | .csv => (once o.csv (path? value)).map fun v => { o with csv := v }
  | .json => (once o.json (path? value)).map fun v => { o with json := v }
  | .delay => (once o.delay (number? value)).map fun v => { o with delay := v }

end Options

/-- Reads the letters behind a single minus sign: the options that go on, the option that waits for its
value, or the end of reading. -/
def readLetters (o : Options) : List Char → Except Reading (Options × Option ValueOption)
  | [] => .ok (o, none)
  | 'h' :: _ => .error .help
  | 'V' :: _ => .error .version
  | ['c'] => .ok (o, some .command)
  | 'c' :: '=' :: value => .ok ({ o with commands := o.commands ++ [String.ofList value] }, none)
  | 'c' :: value => .ok ({ o with commands := o.commands ++ [String.ofList value] }, none)
  | _ :: _ => .error .refused

/-- Reads a long option, with its attached value if it has one. -/
def readLong (o : Options) (name : String) (attached : Option String) :
    Except Reading (Options × Option ValueOption) :=
  match ValueOption.ofName? name, attached with
  | some which, some value =>
    match o.set? which value with
    | some next => .ok (next, none)
    | none => .error .refused
  | some which, none => .ok (o, some which)
  | none, some _ => .error .refused
  | none, none =>
    match name with
    | "clear" => if o.clear then .error .refused else .ok ({ o with clear := true }, none)
    | "help" => .error .help
    | "version" => .error .version
    | _ => .error .refused

/-- Splits at the first equals sign. -/
def splitAttached (s : List Char) : String × Option String :=
  let name := s.takeWhile (· ≠ '=')
  match s.drop name.length with
  | _ :: value => (String.ofList name, some (String.ofList value))
  | [] => (String.ofList name, none)

/-- Reads one argument after which no value is awaited. -/
def readArgument (o : Options) (arg : String) : Except Reading (Options × Option ValueOption) :=
  match arg.toList with
  | '-' :: '-' :: long =>
    let (name, attached) := splitAttached long
    readLong o name attached
  | '-' :: letter :: letters => readLetters o (letter :: letters)
  | _ => .error .refused

/-- Can the argument be a value behind an option? -/
def isValue (arg : String) : Bool :=
  match arg.toList with
  | '-' :: _ :: _ => false
  | _ => true

/-- Reads the arguments that follow; `waiting` is the option whose value is next. Two minus signs end
the options, and nothing may follow them. -/
def readFrom (o : Options) (waiting : Option ValueOption) : List String → Reading
  | [] => if waiting.isSome then .refused else .run o
  | arg :: rest =>
    match waiting with
    | some which =>
      if isValue arg then
        match o.set? which arg with
        | some next => readFrom next none rest
        | none => .refused
      else .refused
    | none =>
      if arg = "--" then (if rest.isEmpty then .run o else .refused)
      else
        match readArgument o arg with
        | .ok (next, waits) => readFrom next waits rest
        | .error reading => reading

/-- Reads the arguments. The environment may name the data directory if they do not. -/
def read (args : List String) (environment : Option String) : Reading :=
  match readFrom {} none args with
  | .run o =>
    match o.dataDir, environment with
    | none, some dir =>
      match path? dir with
      | some dir => .run { o with dataDir := some dir }
      | none => .refused
    | _, _ => .run o
  | reading => reading

end Floorplan.CommandLine
