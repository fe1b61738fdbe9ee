import Companion.Diagnostic

/-!
# Command line — the look of a line

A line of a report starts with a mark for its tone.  In colour the mark, and nothing else, is
written in bold and in the colour of the tone.  Colours are for terminals, and the environment can
turn them off.
-/

namespace Companion

/-- What a line is about. -/
inductive Tone where
  /-- Units were produced. -/
  | done
  /-- Something was passed over. -/
  | warning
  /-- Something was not generated. -/
  | failure
  deriving DecidableEq, Repr

namespace Tone

/-- The mark of the tone. -/
def mark : Tone → String
  | .done => "✓"
  | .warning => "⚠"
  | .failure => "✗"

/-- The terminal's number for the colour of the tone. -/
def colour : Tone → String
  | .done => "32"
  | .warning => "33"
  | .failure => "31"

/-- The tone of a report. -/
def ofSeverity : Severity → Tone
  | .warning => .warning
  | .error => .failure

end Tone

/-- How lines look. -/
structure Style where
  /-- Whether marks are coloured. -/
  colours : Bool
  deriving DecidableEq, Repr

namespace Style

/-- How lines look on a terminal, or elsewhere: `NO_COLOR` turns colours off unless `CLICOLOR_FORCE`
is set and not zero, and so does a `CLICOLOR` of zero when neither is set. -/
def ofTerminal (terminal : Bool) (env : List (String × String)) : Style :=
  let allowed :=
    match env.lookup "CLICOLOR_FORCE", env.lookup "NO_COLOR" with
    | some force, some _ => force != "0"
    | some force, none => force != "0" || env.lookup "CLICOLOR" != some "0"
    | none, some _ => false
    | none, none => env.lookup "CLICOLOR" != some "0"
  ⟨terminal && allowed⟩

/-- The mark of a tone, as it is shown. -/
def mark (s : Style) (t : Tone) : String :=
  if s.colours then "\x1b[1;" ++ t.colour ++ "m" ++ t.mark ++ "\x1b[0m" else t.mark

/-- A line of the given tone. -/
def line (s : Style) (t : Tone) (message : String) : String := s.mark t ++ " " ++ message

/-- A report as a line. -/
def diagnostic (s : Style) (d : Diagnostic) : String := s.line (.ofSeverity d.severity) d.text

end Style

end Companion
