/-!
# Text — parsers

A parser takes something off the front of a text, or fails.  A choice between two parsers tries the
second on the same text when the first fails.
-/

namespace Companion.Text

/-- A parser: its result and the text that is left, or nothing. -/
abbrev Parser (α : Type) := StateT (List Char) Option α

namespace Parser

/-- The text that is left. -/
def rest : Parser (List Char) := get

/-- The next character, which stays. -/
def peek? : Parser (Option Char) := return (← get).head?

/-- The next character. -/
def next : Parser Char := fun
  | [] => none
  | c :: r => some (c, r)

/-- The next character, which must be of a class. -/
def one (p : Char → Bool) : Parser Char := fun
  | [] => none
  | c :: r => if p c then some (c, r) else none

/-- Characters that must come next. -/
def exactly : List Char → Parser Unit
  | [] => pure ()
  | c :: cs => do
    let _ ← one (· == c)
    exactly cs

/-- All next characters of a class. -/
def many (p : Char → Bool) : Parser (List Char) := fun cs =>
  some (cs.takeWhile p, cs.dropWhile p)

/-- All next characters of a class, of which there must be one. -/
def many1 (p : Char → Bool) : Parser (List Char) := do
  let c ← one p
  return c :: (← many p)

/-- So many next characters of a class. -/
def exactlyMany (p : Char → Bool) : Nat → Parser (List Char)
  | 0 => pure []
  | n + 1 => do
    let c ← one p
    return c :: (← exactlyMany p n)

/-- What the parser takes, if it takes anything. -/
def optional? {α : Type} (p : Parser α) : Parser (Option α) :=
  (do return some (← p)) <|> pure none

/-- A condition. -/
def ensure (b : Bool) : Parser Unit := if b then pure () else failure

/-- The result on a whole text. -/
def runAll? {α : Type} (p : Parser α) (cs : List Char) : Option α :=
  match p.run cs with
  | some (a, []) => some a
  | _ => none

end Parser

end Companion.Text
