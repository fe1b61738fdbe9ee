import Companion.Text.Lower

/-!
# Command line — what is asked for

The command line names a snapshot, and may set options anywhere among its words.  An option with a
value takes the next word, or what follows an equals sign, or, after its letter, what follows the
letter.  Two hyphens that stand alone end the options; one hyphen is a word like any other.

A value is looked at when the word after it has been read: a word that is not understood is the
fault that is reported, even if the value before it cannot be used.  Each argument can be given
once.

* `CommandLine.parse` reads the words of a command line.
-/

namespace Companion

/-! ### Options -/

/-- How much the log holds. -/
inductive LogLevel where
  /-- Every step. -/
  | trace
  /-- What helps to find a mistake. -/
  | debug
  /-- What was done. -/
  | info
  /-- What was passed over. -/
  | warn
  /-- What went wrong. -/
  | error
  deriving DecidableEq, Repr

namespace LogLevel

/-- The levels, the wordiest first. -/
def all : List LogLevel := [.trace, .debug, .info, .warn, .error]

/-- The name of the level. -/
def name : LogLevel → String
  | .trace => "trace"
  | .debug => "debug"
  | .info => "info"
  | .warn => "warn"
  | .error => "error"

/-- The level of a name, in capital or small letters; any other name stands for `info`. -/
def ofName (s : String) : LogLevel := (all.find? fun l => l.name == Text.lower s).getD .info

end LogLevel

/-- What a command line asks for. -/
structure Options where
  /-- The file of the snapshot. -/
  snapshot : String
  /-- The directory that holds a directory for each contract. -/
  out : String := "generated"
  /-- The file of the settings. -/
  config : Option String := none
  /-- Whether nothing is to be written. -/
  dryRun : Bool := false
  /-- The name of the log's level. -/
  logLevel : String := "info"
  deriving DecidableEq, Repr

namespace Options

/-- The log's level. -/
def level (o : Options) : LogLevel := .ofName o.logLevel

end Options

namespace CommandLine

/-! ### Arguments -/

/-- An argument that holds a value. -/
inductive Valued where
  /-- The snapshot, which has no name. -/
  | snapshot
  /-- The output directory. -/
  | out
  /-- The settings. -/
  | config
  /-- The log's level. -/
  | logLevel
  deriving DecidableEq, Repr

/-- An argument that is given or not. -/
inductive Flag where
  /-- Write nothing. -/
  | dryRun
  /-- Show how the program is used. -/
  | help
  /-- Show the program's version. -/
  | version
  deriving DecidableEq, Repr

/-- An argument. -/
inductive Parameter where
  /-- One that holds a value. -/
  | valued (v : Valued)
  /-- One that is given or not. -/
  | flag (f : Flag)
  deriving DecidableEq, Repr

namespace Valued

/-- Whether the value is a path, which must not be empty. -/
def isPath : Valued → Bool
  | .logLevel => false
  | _ => true

end Valued

namespace Parameter

/-- The argument of a name. -/
def ofName? : String → Option Parameter
  | "out" => some (.valued .out)
  | "config" => some (.valued .config)
  | "log-level" => some (.valued .logLevel)
  | "dry-run" => some (.flag .dryRun)
  | "help" => some (.flag .help)
  | "version" => some (.flag .version)
  | _ => none

/-- The argument of a letter. -/
def ofLetter? : Char → Option Parameter
  | 'o' => some (.valued .out)
  | 'c' => some (.valued .config)
  | 'h' => some (.flag .help)
  | 'V' => some (.flag .version)
  | _ => none

/-- The argument as it is shown. -/
def label : Parameter → String
  | .valued .snapshot => "<SNAPSHOT>"
  | .valued .out => "--out <OUT>"
  | .valued .config => "--config <CONFIG>"
  | .valued .logLevel => "--log-level <LOG_LEVEL>"
  | .flag .dryRun => "--dry-run"
  | .flag .help => "--help"
  | .flag .version => "--version"

end Parameter

/-- Why a command line is not run. -/
inductive Usage where
  /-- It asks how the program is used. -/
  | help
  /-- It asks for the version. -/
  | version
  /-- An argument has no value, or an empty one. -/
  | missingValue (v : Valued)
  /-- An argument is given twice. -/
  | repeated (p : Parameter)
  /-- An argument without a value is given one. -/
  | unneededValue (f : Flag) (value : String)
  /-- A word is not understood. -/
  | unexpected (word : String)
  /-- There is no snapshot. -/
  | missingSnapshot
  deriving DecidableEq, Repr

/-! ### Words -/

/-- What a word looks like. -/
inductive Word where
  /-- Two hyphens. -/
  | escape
  /-- A name after two hyphens, and what follows an equals sign. -/
  | long (name : String) (value : Option String)
  /-- Letters after one hyphen. -/
  | letters (cs : List Char)
  /-- Any other word. -/
  | plain
  deriving DecidableEq, Repr

/-- What the word looks like. -/
def Word.of (word : String) : Word :=
  match word.toList with
  | ['-', '-'] => .escape
  | '-' :: '-' :: cs =>
    .long (String.ofList (cs.takeWhile (· != '=')))
      (match cs.dropWhile (· != '=') with
        | _ :: value => some (String.ofList value)
        | [] => none)
  | '-' :: c :: cs => .letters (c :: cs)
  | _ => .plain

/-! ### Reading -/

/-- What has been read of a command line. -/
structure Given where
  /-- The snapshot. -/
  snapshot : Option String := none
  /-- The output directory. -/
  out : Option String := none
  /-- The settings. -/
  config : Option String := none
  /-- Whether nothing is to be written. -/
  dryRun : Bool := false
  /-- The name of the log's level. -/
  logLevel : Option String := none
  deriving DecidableEq, Repr

namespace Given

/-- The value of an argument. -/
def get? (g : Given) : Valued → Option String
  | .snapshot => g.snapshot
  | .out => g.out
  | .config => g.config
  | .logLevel => g.logLevel

/-- Sets the value of an argument. -/
def set (g : Given) (value : String) : Valued → Given
  | .snapshot => { g with snapshot := some value }
  | .out => { g with out := some value }
  | .config => { g with config := some value }
  | .logLevel => { g with logLevel := some value }

/-- Takes the value of an argument, if there is one and it can be used. -/
def take (g : Given) (v : Valued) : Option String → Except Usage Given
  | none => .error (.missingValue v)
  | some value =>
    if (g.get? v).isSome then .error (.repeated (.valued v))
    else if v.isPath && value.isEmpty then .error (.missingValue v)
    else .ok (g.set value v)

/-- Takes an argument that holds no value. -/
def raise (g : Given) : Flag → Except Usage Given
  | .dryRun =>
    if g.dryRun then .error (.repeated (.flag .dryRun)) else .ok { g with dryRun := true }
  | .help => .error .help
  | .version => .error .version

/-- The options, if a snapshot is given. -/
def options (g : Given) : Except Usage Options :=
  match g.snapshot with
  | none => .error .missingSnapshot
  | some snapshot =>
    let d : Options := { snapshot }
    .ok
      { snapshot
        out := g.out.getD d.out
        config := g.config
        dryRun := g.dryRun
        logLevel := g.logLevel.getD d.logLevel }

end Given

/-- How far a command line has been read. -/
structure Progress where
  /-- What has been taken. -/
  given : Given := {}
  /-- The argument that comes next, and its value if that has been read. -/
  pending : Option (Valued × Option String) := none
  /-- Whether the options have ended. -/
  ended : Bool := false
  deriving DecidableEq, Repr

namespace Progress

/-- Takes the argument that comes next. -/
def settle (p : Progress) : Except Usage Progress :=
  match p.pending with
  | none => .ok p
  | some (v, value) => (p.given.take v value).map fun given => { p with given, pending := none }

/-- Whether there is a snapshot. -/
def hasSnapshot (p : Progress) : Bool :=
  p.given.snapshot.isSome || p.pending.any fun (v, _) => v == .snapshot

/-- A word that can only be the snapshot. -/
def place (p : Progress) (word : String) : Except Usage Progress :=
  if p.hasSnapshot then .error (.unexpected word)
  else p.settle.map fun p => { p with pending := some (.snapshot, some word) }

/-- An argument that holds a value, with the value if it is attached. -/
def valued (p : Progress) (v : Valued) (attached : Option String) : Except Usage Progress := do
  let p ← p.settle
  match attached with
  | none => pure { p with pending := some (v, none) }
  | some value => pure { p with given := ← p.given.take v (some value) }

/-- An argument that holds no value. -/
def flag (p : Progress) (f : Flag) : Except Usage Progress := do
  let p ← p.settle
  pure { p with given := ← p.given.raise f }

/-- A name, with the value if it is attached. -/
def long (p : Progress) (name : String) (attached : Option String) : Except Usage Progress :=
  match Parameter.ofName? name, attached with
  | none, _ => .error (.unexpected ("--" ++ name))
  | some (.valued v), _ => p.valued v attached
  | some (.flag f), none => p.flag f
  | some (.flag f), some value => .error (.unneededValue f value)

/-- The value attached to a letter. -/
def attached? : List Char → Option String
  | [] => none
  | '=' :: cs => some (String.ofList cs)
  | cs => some (String.ofList cs)

/-- Letters; the first that takes a value takes the others for it. -/
def letters (p : Progress) : List Char → Except Usage Progress
  | [] => .ok p
  | c :: cs =>
    match Parameter.ofLetter? c with
    | none => .error (.unexpected (String.ofList ['-', c]))
    | some (.valued v) => p.valued v (attached? cs)
    | some (.flag f) => do (← p.flag f).letters cs

/-- A word that is no option: the value that is waited for, or the snapshot. -/
def plain (p : Progress) (word : String) : Except Usage Progress :=
  match p.pending with
  | some (v, none) => .ok { p with pending := some (v, some word) }
  | _ => p.place word

/-- A word. -/
def step (p : Progress) (word : String) : Except Usage Progress :=
  if p.ended then p.place word
  else match Word.of word with
    | .escape => .ok { p with ended := true }
    | .long name value => p.long name value
    | .letters cs => p.letters cs
    | .plain => p.plain word

/-- The end of the command line. -/
def finish (p : Progress) : Except Usage Options := do
  let p ← p.settle
  p.given.options

end Progress

/-- Reads the words of a command line. -/
def parse (words : List String) : Except Usage Options := do
  let p ← words.foldlM Progress.step {}
  p.finish

end CommandLine

end Companion
