import Companion.Text.Hex
import Companion.Text.Parser

/-!
# Toml — characters and strings

Strings are basic, with escapes, or literal, without; each kind also comes with three quotes on each
side and may then hold line ends.  A line end right after three opening quotes does not count, and
up to two quotes may stand before three closing ones.  In a basic string a backslash at the end of a
line takes away all blanks and line ends up to the next character.

A line ends in a line feed, alone or after a carriage return.  Controls other than the tab are not
allowed anywhere.
-/

namespace Companion.Toml

open Text Parser

/-- A space or a tab. -/
def isBlank (c : Char) : Bool := c == ' ' || c == '\t'

/-- A character that may stand in a line. -/
def isPrintable (c : Char) : Bool := c == '\t' || (0x20 ≤ c.toNat && c.toNat != 0x7F)

/-- Blanks. -/
def blanks : Parser Unit := do
  let _ ← many isBlank

/-- The end of a line. -/
def lineEnd : Parser Unit := exactly ['\n'] <|> exactly ['\r', '\n']

/-- The end of the text. -/
def textEnd : Parser Unit := do ensure (← rest).isEmpty

/-- A comment, if there is one. -/
def comment : Parser Unit := do
  if (← peek?) == some '#' then
    let _ ← many isPrintable

/-- The rest of a line: blanks, a comment, and the end of the line or the text. -/
def restOfLine : Parser Unit := do
  blanks
  comment
  lineEnd <|> textEnd

/-- Blanks, comments and line ends, of at most so many lines. -/
def gap : Nat → Parser Unit
  | 0 => return
  | n + 1 => do
    blanks
    comment
    match ← optional? lineEnd with
    | some _ => gap n
    | none => return

/-! ### Strings -/

/-- The character of so many hexadecimal digits. -/
def codePoint (width : Nat) : Parser Char := do
  let ds ← exactlyMany (fun c => (hexValue? c).isSome) width
  let n := ds.foldl (fun n c => 16 * n + (hexValue? c).getD 0) 0
  ensure (n.isValidChar)
  return Char.ofNat n

/-- The character that an escape stands for; the backslash has been taken. -/
def escape : Parser Char := do
  match ← next with
  | 'b' => return '\x08'
  | 't' => return '\t'
  | 'n' => return '\n'
  | 'f' => return '\x0c'
  | 'r' => return '\r'
  | '"' => return '"'
  | '\\' => return '\\'
  | 'u' => codePoint 4
  | 'U' => codePoint 8
  | _ => failure

/-- The rest of a basic string, of at most so many characters. -/
def basic : Nat → Parser (List Char)
  | 0 => failure
  | n + 1 => do
    match ← next with
    | '"' => return []
    | '\\' =>
      let c ← escape
      return c :: (← basic n)
    | c =>
      ensure (isPrintable c)
      return c :: (← basic n)

/-- The rest of a literal string. -/
def literal : Parser (List Char) := do
  let cs ← many fun c => isPrintable c && c != '\''
  exactly ['\'']
  return cs

/-- Blank lines, and the blanks before what comes next. -/
def blankLines : Nat → Parser Unit
  | 0 => return
  | n + 1 => do
    blanks
    match ← optional? lineEnd with
    | some _ => blankLines n
    | none => return

/-- The end of a line that goes on in the next: blanks up to the line end, and all that is blank
after it. -/
def continuation : Parser Unit := do
  blanks
  lineEnd
  blankLines (← rest).length

/-- A part of a basic string over several lines that is no quote. -/
def basicPart : Parser (List Char) :=
  (do lineEnd; return ['\n'])
    <|> (do exactly ['\\']; continuation; return [])
    <|> (do exactly ['\\']; return [← escape])
    <|> (do return [← one fun c => isPrintable c && c != '\\'])

/-- A part of a literal string over several lines that is no quote. -/
def literalPart : Parser (List Char) :=
  (do lineEnd; return ['\n']) <|> (do return [← one isPrintable])

/-- The rest of a string over several lines, of at most so many parts.  One or two quotes are part
of the string, and so are up to two before three closing ones. -/
def longRest (quote : Char) (part : Parser (List Char)) : Nat → Parser (List Char)
  | 0 => failure
  | n + 1 => do
    let quotes ← many (· == quote)
    if 3 ≤ quotes.length then
      ensure (quotes.length ≤ 5)
      return quotes.drop 3
    else
      let cs ← part
      return quotes ++ cs ++ (← longRest quote part n)

/-- A string in one line. -/
def lineString : Parser String := do
  let size := (← rest).length
  match ← next with
  | '"' => return String.ofList (← basic size)
  | '\'' => return String.ofList (← literal)
  | _ => failure

/-- Three opening quotes, and the line end after them. -/
def opening (quote : Char) : Parser Unit := do
  exactly [quote, quote, quote]
  let _ ← optional? lineEnd

/-- A string over several lines. -/
def longString : Parser String := do
  let size := (← rest).length
  match ← optional? (opening '"') with
  | some () => return String.ofList (← longRest '"' basicPart size)
  | none =>
    opening '\''
    return String.ofList (← longRest '\'' literalPart size)

/-- A string. -/
def string : Parser String := do
  match (← rest).take 3 with
  | ['"', '"', '"'] => longString
  | ['\'', '\'', '\''] => longString
  | _ => lineString

end Companion.Toml
