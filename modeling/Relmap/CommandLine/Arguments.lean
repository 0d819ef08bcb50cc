import Relmap.CommandLine.Options

/-! The arguments of a command line, read from left to right up to the first that is wrong or asks
for help. -/

namespace Relmap.CommandLine

structure Reading where
  before : Given := {}
  command : Option (Command × Given) := none
  deriving Inhabited

namespace Reading

def place (reading : Reading) : Option Command := reading.command.map (·.1)

def topic (reading : Reading) : Topic := (reading.place.map .command).getD .program

/-- Another option of the place that is read, once those before it are settled. -/
def next (reading : Reading) (change : Given → Except Stop Given) : Except Stop Reading := do
  match reading.command with
  | some (command, behind) => return { reading with command := some (command, ← change (← behind.settle)) }
  | none => return { reading with before := ← change (← reading.before.settle) }

def set (reading : Reading) (switch : Switch) (value : String) : Except Stop Reading :=
  reading.next (·.set switch value)

def turn (reading : Reading) (switch : Switch) : Except Stop Reading :=
  reading.next (·.turn reading.topic switch)

def wait (reading : Reading) (switch : Switch) (value : String) : Except Stop Reading :=
  reading.next (·.wait switch value)

def long? (reading : Reading) (name : String) : Option Switch :=
  (switches reading.place).find? (·.longName == name)

def short? (reading : Reading) (c : Char) : Option Switch :=
  (switches reading.place).find? (·.letter? == some c)

end Reading

/-- An argument as it is written: a switch by its long name, perhaps with a value behind an equals
sign; a group of letters; two dashes, which end the options; or a word. -/
inductive Shape where
  | long (name : String) (value : Option String)
  | letters (group : List Char)
  | dashes
  | word (text : String)

def shape (argument : String) : Shape :=
  match argument.toList with
  | ['-', '-'] => .dashes
  | '-' :: '-' :: name =>
    let value := match name.dropWhile (· != '=') with
      | _ :: value => some (String.ofList value)
      | [] => none
    .long (String.ofList (name.takeWhile (· != '='))) value
  | '-' :: c :: rest => .letters (c :: rest)
  | _ => .word argument

/-- Only a word can be the value of the option before it. -/
def valueOf (argument : String) : Option String :=
  match shape argument with
  | .word text => some text
  | _ => none

/-- A group of letters. The first that takes a value takes what is left of the group, less an equals
sign; if nothing is left, the next argument is its value. -/
def readLetters (reading : Reading) : List Char → Except Stop (Reading × Option Switch)
  | [] => .ok (reading, none)
  | c :: rest =>
    match reading.short? c with
    | none => .error .misuse
    | some switch =>
      if !switch.takesValue then do readLetters (← reading.turn switch) rest
      else
        match rest with
        | [] => .ok (reading, some switch)
        | '=' :: value => do return (← reading.set switch (String.ofList value), none)
        | value => do return (← reading.set switch (String.ofList value), none)

/-- The command that a word names, before there is one. -/
def command? (reading : Reading) (word : String) : Option Command :=
  if reading.command.isSome then none else commands.find? (·.name == word)

def helpWord : String := "help"

def helpTopic : List String → Stop
  | [] => .help .program
  | [name] =>
    match commands.find? (·.name == name) with
    | some command => .help (.command command)
    | none => if name == helpWord then .help .help else .misuse
  | _ => .misuse

mutual

/-- Arguments from left to right; the first that is wrong decides. -/
def read (reading : Reading) : List String → Except Stop Reading
  | [] => .ok reading
  | argument :: rest =>
    match shape argument with
    | .dashes => if rest.isEmpty then .ok reading else .error .misuse
    | .long name value =>
      match reading.long? name, value with
      | none, _ => .error .misuse
      | some switch, some value => do
        if !switch.takesValue then throw .misuse
        read (← reading.set switch value) rest
      | some switch, none =>
        if switch.takesValue then readValue reading switch rest
        else do read (← reading.turn switch) rest
    | .letters group => do
      match ← readLetters reading group with
      | (reading, none) => read reading rest
      | (reading, some switch) => readValue reading switch rest
    | .word text =>
      match command? reading text with
      | some command => read { reading with command := some (command, {}) } rest
      | none =>
        .error (if reading.command.isNone && text == helpWord then helpTopic rest else .misuse)

/-- The value of an option is the next argument. -/
def readValue (reading : Reading) (switch : Switch) : List String → Except Stop Reading
  | [] => .error .misuse
  | argument :: rest =>
    match valueOf argument with
    | some value => do read (← reading.wait switch value) rest
    | none => .error .misuse

end

structure Invocation where
  command : Command
  schemaDir : Option String
  snapshot : Option String
  settings : Option String
  output : Option String
  deriving DecidableEq

/-- The environment fills in for a directory that is not given. In one place a directory and a
snapshot exclude each other, wherever the directory comes from. -/
def checkPlace (environment : Option String) (given : Given) : Except Stop Unit :=
  match given.schemaDir <|> environment with
  | none => .ok ()
  | some directory => if directory.isEmpty || given.snapshot.isSome then .error .misuse else .ok ()

/-- Options behind the command count before those in front of it, and the environment counts last.
-/
def parse (environment : Option String) (arguments : List String) : Except Stop Invocation := do
  let reading ← read {} arguments
  match reading.command with
  | none => throw .misuse
  | some (command, behind) =>
    let behind ← behind.settle
    let before ← reading.before.settle
    checkPlace environment behind
    checkPlace environment before
    return {
      command
      schemaDir := behind.schemaDir <|> before.schemaDir <|> environment
      snapshot := behind.snapshot <|> before.snapshot
      settings := behind.settings <|> before.settings
      output := behind.output }

end Relmap.CommandLine
