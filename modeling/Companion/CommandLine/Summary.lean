import Companion.CommandLine.Options
import Companion.CommandLine.Style
import Companion.Generator
import Companion.OutputDirectory

/-!
# Command line — what a run did

A run makes one pass for each contract.  Its summary keeps how each of them ended; what was written,
what is reported and what failed are read off from that, contract by contract.

* `Summary.output` and `Summary.errors` are what the program says.
* `Summary.hasErrors` says whether something was not generated.
-/

namespace Companion

/-- One contract's pass into a directory of its own. -/
structure DirectoryRun where
  /-- The contract. -/
  contract : Contract
  /-- The directory after the pass. -/
  directory : OutputDirectory
  /-- The report of the pass, or why it ended early. -/
  outcome : Except Failure Report

namespace DirectoryRun

/-- The files of the units, if the pass ran to its end. -/
def written (r : DirectoryRun) : Option (Contract × List String) :=
  r.outcome.toOption.map fun _ => (r.contract, r.directory.written)

/-- The reports about declarations. -/
def diagnostics (r : DirectoryRun) : List Diagnostic :=
  match r.outcome with
  | .ok report => report.diagnostics
  | .error failure => failure.faults

/-- Why the pass ended early, in words, if it did. -/
def failure (r : DirectoryRun) : Option (Contract × String) :=
  match r.outcome with
  | .ok _ => none
  | .error failure => some (r.contract, failure.message)

end DirectoryRun

/-- What a run did. -/
structure Summary where
  /-- How many declarations the snapshot holds. -/
  declarations : Nat
  /-- The passes, in the order of contracts. -/
  passes : List DirectoryRun

namespace Summary

/-- The files of each contract whose pass ran to its end. -/
def written (s : Summary) : List (Contract × List String) := s.passes.filterMap (·.written)

/-- The reports about declarations, of all contracts. -/
def diagnostics (s : Summary) : List Diagnostic := s.passes.flatMap (·.diagnostics)

/-- The contracts whose passes ended early, and why, in words. -/
def failures (s : Summary) : List (Contract × String) := s.passes.filterMap (·.failure)

/-- Whether something was not generated. -/
def hasErrors (s : Summary) : Bool :=
  !s.failures.isEmpty || s.diagnostics.any (·.isError)

/-! ### In words -/

/-- The lines for a contract's files. -/
def writtenLines (style : Style) (dryRun : Bool) : Contract × List String → List String
  | (contract, paths) =>
    let verb := if dryRun then "would write" else "wrote"
    let head := contract.name ++ ": " ++ verb ++ " " ++ toString paths.length ++ " units"
    style.line .done head :: paths.map ("  " ++ ·)

/-- The lines of the output: the files, then the reports. -/
def output (s : Summary) (style : Style) (dryRun : Bool) : List String :=
  s.written.flatMap (writtenLines style dryRun) ++ s.diagnostics.map style.diagnostic

/-- The line for a contract whose pass ended early. -/
def failureLine (style : Style) : Contract × String → String
  | (contract, reason) => style.line .failure (contract.name ++ ": " ++ reason)

/-- The lines of the errors. -/
def errors (s : Summary) (style : Style) : List String := s.failures.map (failureLine style)

/-- The log: what was read, and which passes ended early. -/
def log (s : Summary) (snapshot : String) : List (LogLevel × String) :=
  (.info, "Loaded " ++ toString s.declarations ++ " declarations from " ++ snapshot) ::
    s.failures.map fun (contract, reason) =>
      (.error, contract.name ++ " pass failed: " ++ reason)

/-- The lines of the log that are of the level or graver. -/
def logLines (s : Summary) (o : Options) : List String :=
  let kept := LogLevel.all.dropWhile (· != o.level)
  ((s.log o.snapshot).filter fun (level, _) => kept.contains level).map fun (level, line) =>
    level.name.toUpper ++ " " ++ line

end Summary

end Companion
