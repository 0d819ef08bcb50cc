import Relmap.CommandLine.Arguments

/-! What the command line tells about itself. -/

namespace Relmap.CommandLine

def programName : String := "rowcast-gen"

def versionText : String := programName ++ " 0.1.0\n"

def directoryVariable : String := "ROWCAST_SCHEMA_DIR"

def Command.about : Command → String
  | .generate => "Generate Rust source for the schema"
  | .inspect => "Print the introspected tables as JSON"
  | .ddl => "Print the DDL statements extracted from the schema directory"

namespace Switch

def placeholder? : Switch → Option String
  | .schemaDir => some "SCHEMA_DIR"
  | .snapshot => some "SNAPSHOT"
  | .settings => some "CONFIG"
  | .output => some "OUTPUT"
  | .verbose | .help | .version => none

def about (environment : Option String) : Switch → String
  | .schemaDir =>
    "Directory of schema and migration files [env: " ++ directoryVariable ++ "=" ++ environment.getD "" ++ "]"
  | .snapshot => "Existing database file to introspect instead of a schema directory"
  | .settings => "Generator config (JSON)"
  | .output => "Output file (stdout if not specified)"
  | .verbose => "Enable verbose output"
  | .help => "Print help"
  | .version => "Print version"

def usage (switch : Switch) : String :=
  let letter := match switch.letter? with
    | some c => "-" ++ String.singleton c ++ ", "
    | none => "    "
  let value := match switch.placeholder? with
    | some word => " <" ++ word ++ ">"
    | none => ""
  letter ++ "--" ++ switch.longName ++ value

end Switch

def columns (rows : List (String × String)) : List String :=
  let width := rows.foldl (fun width row => max width row.1.length) 0
  rows.map fun (left, right) =>
    "  " ++ String.ofList (left.toList.rightpad width ' ') ++ "  " ++ right

def switchLines (environment : Option String) (place : Option Command) : List String :=
  ["Options:"] ++ columns ((switches place).map fun switch => (switch.usage, switch.about environment))

def helpAbout : String := "Print this message or the help of the given subcommand(s)"

def helpLines (environment : Option String) : Topic → List String
  | .program =>
    ["Generates typed table metadata and row mappers from SQL schema files",
     "",
     "Usage: " ++ programName ++ " [OPTIONS] <COMMAND>",
     "",
     "Commands:"]
      ++ columns (commands.map (fun command => (command.name, command.about)) ++ [(helpWord, helpAbout)])
      ++ [""] ++ switchLines environment none
  | .command command =>
    [command.about, "", "Usage: " ++ programName ++ " " ++ command.name ++ " [OPTIONS]", ""]
      ++ switchLines environment (some command)
  | .help =>
    [helpAbout, "", "Usage: " ++ programName ++ " " ++ helpWord ++ " [COMMAND]...", "", "Arguments:"]
      ++ columns [("[COMMAND]...", "Print help for the subcommand(s)")]

def helpText (environment : Option String) (topic : Topic) : String :=
  String.join ((helpLines environment topic).map (· ++ "\n"))

end Relmap.CommandLine
