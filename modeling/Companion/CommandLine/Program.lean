import Companion.CommandLine.Run
import Companion.CommandLine.Usage

/-!
# Command line — the program

The program reads its command line, runs, and says what it did: what was written and reported on the
output, and what failed among the errors.  Its status is 0 if everything was generated, 1 if
something was not, and 2 if the command line is not understood.
-/

namespace Companion

/-- What a program leaves behind, besides files. -/
structure Ending where
  /-- The exit status. -/
  status : Nat
  /-- The text of the output. -/
  output : String := ""
  /-- The text of the errors. -/
  errors : String := ""
  deriving DecidableEq, Repr

namespace Ending

/-- The ending of a command line that is not run. -/
def ofUsage (u : CommandLine.Usage) : Ending := ⟨u.status, u.output, u.errors⟩

/-- The ending of a run. -/
def ofRun (style : Style) (o : Options) : Except RunFault Summary → Ending
  | .error fault =>
    { status := 1, errors := CommandLine.text [style.line .failure fault.message] }
  | .ok s =>
    { status := if s.hasErrors then 1 else 0
      output := CommandLine.text (s.output style o.dryRun)
      errors := CommandLine.text (s.logLines o ++ s.errors style) }

end Ending

/-- The program. -/
def program {m : Type → Type} [Monad m] [FileSystem m] (style : Style) (words : List String)
    (env : Environment.Variables) (random : RandomTokens) : m Ending := do
  match CommandLine.parse words with
  | .error usage => return .ofUsage usage
  | .ok o => return .ofRun style o (← o.run env random)

end Companion
