import Companion.CommandLine.Options

/-!
# Command line — how the program is used

A command line that is not run is answered in words: a question with what was asked for, on the
output, and a mistake with what is wrong, among the errors.
-/

namespace Companion.CommandLine

/-- Lines as a text. -/
def text (lines : List String) : String := String.join (lines.map (· ++ "\n"))

namespace Usage

/-- The name of the program. -/
def program : String := "autocollection"

/-- The version of the program. -/
def versionText : String := program ++ " 0.1.0\n"

/-- The form of a command line. -/
def form : String := "Usage: " ++ program ++ " [OPTIONS] <SNAPSHOT>"

/-- The arguments and what they are for. -/
def helpText : String :=
  text
    ["Command-line driver for AutoCollection synthesis over compilation snapshots",
      "",
      form,
      "",
      "Arguments:",
      "  <SNAPSHOT>  Compilation snapshot (JSON, or YAML by extension)",
      "",
      "Options:",
      "  -o, --out <OUT>              Output directory; each contract writes to its own " ++
        "subdirectory [default: generated]",
      "  -c, --config <CONFIG>        TOML configuration file",
      "      --dry-run                Run every pass but write nothing",
      "      --log-level <LOG_LEVEL>  trace, debug, info, warn or error [default: info]",
      "  -h, --help                   Print help",
      "  -V, --version                Print version"]

/-- What is wrong, and how it is put right. -/
def complaint (what : List String) : String :=
  text (what ++ ["", form, "", "For more information, try '--help'."])

/-- What goes to the output. -/
def output : Usage → String
  | .help => helpText
  | .version => versionText
  | _ => ""

/-- What goes to the errors. -/
def errors : Usage → String
  | .help | .version => ""
  | .missingValue v =>
    text
      ["error: a value is required for '" ++ (Parameter.valued v).label ++
          "' but none was supplied",
        "", "For more information, try '--help'."]
  | .repeated p =>
    complaint ["error: the argument '" ++ p.label ++ "' cannot be used multiple times"]
  | .unneededValue f value =>
    complaint
      ["error: unexpected value '" ++ value ++ "' for '" ++ (Parameter.flag f).label ++
        "' found; no more were expected"]
  | .unexpected word => complaint ["error: unexpected argument '" ++ word ++ "' found"]
  | .missingSnapshot =>
    complaint ["error: the following required arguments were not provided:",
      "  " ++ (Parameter.valued .snapshot).label]

/-- The exit status: a question that was answered is no mistake. -/
def status : Usage → Nat
  | .help | .version => 0
  | _ => 2

end Usage

end Companion.CommandLine
