/-! The commands of a command line and the options that go with them. Options may stand before the
command and after it; each of the two places takes an option once. -/

namespace Relmap.CommandLine

inductive Command where
  | generate
  | inspect
  | ddl
  deriving DecidableEq

def Command.name : Command → String
  | .generate => "generate"
  | .inspect => "inspect"
  | .ddl => "ddl"

def commands : List Command := [.generate, .inspect, .ddl]

inductive Switch where
  | schemaDir
  | snapshot
  | settings
  | output
  | verbose
  | help
  | version
  deriving DecidableEq

namespace Switch

def longName : Switch → String
  | .schemaDir => "schema-dir"
  | .snapshot => "snapshot"
  | .settings => "config"
  | .output => "output"
  | .verbose => "verbose"
  | .help => "help"
  | .version => "version"

def letter? : Switch → Option Char
  | .schemaDir => some 's'
  | .snapshot => none
  | .settings => some 'c'
  | .output => some 'o'
  | .verbose => some 'v'
  | .help => some 'h'
  | .version => some 'V'

def takesValue : Switch → Bool
  | .schemaDir | .snapshot | .settings | .output => true
  | .verbose | .help | .version => false

end Switch

def switches : Option Command → List Switch
  | none => [.schemaDir, .snapshot, .settings, .verbose, .help, .version]
  | some .generate => [.output, .schemaDir, .snapshot, .settings, .verbose, .help]
  | some _ => [.schemaDir, .snapshot, .settings, .verbose, .help]

structure Given where
  schemaDir : Option String := none
  snapshot : Option String := none
  settings : Option String := none
  output : Option String := none
  verbose : Bool := false
  /-- An option whose value was an argument of its own is looked at when the next one comes. -/
  waiting : Option (Switch × String) := none
  deriving DecidableEq, Inhabited

inductive Topic where
  | program
  | command (command : Command)
  | help
  deriving DecidableEq

inductive Stop where
  | misuse
  | help (topic : Topic)
  | version
  deriving DecidableEq

/-- The value of an option must not be empty, and no option is given twice in one place. -/
def Given.set (given : Given) (switch : Switch) (value : String) : Except Stop Given :=
  let once := fun (current : Option String) (changed : Given) =>
    if current.isSome || value.isEmpty then .error .misuse else .ok changed
  match switch with
  | .schemaDir => once given.schemaDir { given with schemaDir := some value }
  | .snapshot => once given.snapshot { given with snapshot := some value }
  | .settings => once given.settings { given with settings := some value }
  | .output => once given.output { given with output := some value }
  | .verbose | .help | .version => .error .misuse

/-- No option is left to be looked at. -/
def Given.settle (given : Given) : Except Stop Given :=
  match given.waiting with
  | some (switch, value) => { given with waiting := none }.set switch value
  | none => .ok given

def Given.wait (given : Given) (switch : Switch) (value : String) : Except Stop Given :=
  .ok { given with waiting := some (switch, value) }

/-- A switch without a value. Asking for help ends the reading, whatever follows. -/
def Given.turn (given : Given) (topic : Topic) (switch : Switch) : Except Stop Given :=
  match switch with
  | .verbose => if given.verbose then .error .misuse else .ok { given with verbose := true }
  | .help => .error (.help topic)
  | .version => .error .version
  | _ => .error .misuse

end Relmap.CommandLine
