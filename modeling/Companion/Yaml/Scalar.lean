import Companion.Text.Hex
import Companion.Yaml.Scanner

/-!
# Yaml — scalars

How the text of a scalar is read.  Within quotes, and in a scalar without any mark, a single line
end counts as a space, and of several the first does not count.  In a block scalar the lines are
kept, or joined in the same way where neither line begins with a blank; what is kept of the line
ends after the last line is said at the front.
-/

namespace Companion.Yaml

namespace Scanner

/-- What stands between two words: blanks within a line, or line ends. -/
structure Gap where
  /-- Blanks, as long as the line has not ended. -/
  blanks : String := ""
  /-- The first line end. -/
  first : String := ""
  /-- The other line ends. -/
  others : String := ""
  /-- Whether a line has ended. -/
  broken : Bool := false

/-- What the gap counts for. -/
def Gap.text (g : Gap) : String :=
  if !g.broken then g.blanks
  else if g.first == "\n" then if g.others.isEmpty then " " else g.others
  else g.first ++ g.others

/-- Reads one more blank or line end; blanks at the front of a line do not count. -/
def Gap.step (allowBlank : Gap → Scanner Unit) (g : Gap) : Scanner (Gap × Bool) := do
  let c ← peek
  if isBlank c then
    allowBlank g
    let b ← read
    return (if g.broken then g else { g with blanks := g.blanks ++ b }, true)
  else if isBreak c then
    let b ← readLine
    if g.broken then return ({ g with others := g.others ++ b }, true)
    else return ({ g with first := b, broken := true }, true)
  else return (g, false)

/-- Reads a gap, with so many parts at most. -/
def Gap.read (allowBlank : Gap → Scanner Unit) : Nat → Gap → Scanner Gap
  | 0, g => pure g
  | n + 1, g => do
    let (g, more) ← g.step allowBlank
    if more then Gap.read allowBlank n g else return g

/-! ### Scalars in quotes -/

/-- The text of a one-letter escape. -/
def simpleEscape? : Char → Option String
  | '0' => some "\x00"
  | 'a' => some "\x07"
  | 'b' => some "\x08"
  | 't' => some "\t"
  | '\t' => some "\t"
  | 'n' => some "\n"
  | 'v' => some "\x0b"
  | 'f' => some "\x0c"
  | 'r' => some "\r"
  | 'e' => some "\x1b"
  | ' ' => some " "
  | '"' => some "\""
  | '/' => some "/"
  | '\\' => some "\\"
  | 'N' => some "\u0085"
  | '_' => some "\u00a0"
  | 'L' => some "\u2028"
  | 'P' => some "\u2029"
  | _ => none

/-- The number of digits of an escape by number. -/
def escapeWidth? : Char → Option Nat
  | 'x' => some 2
  | 'u' => some 4
  | 'U' => some 8
  | _ => none

/-- The number that so many hexadecimal digits make. -/
def readHex : Nat → Nat → Scanner Nat
  | 0, n => pure n
  | width + 1, n => do
    match (← peek).bind Text.hexValue? with
    | some d =>
      skip
      readHex width (16 * n + d)
    | none => failure

/-- Reads an escape. -/
def readEscape : Scanner String := do
  skip
  match ← peek with
  | none => failure
  | some c =>
    skip
    match simpleEscape? c, escapeWidth? c with
    | some text, _ => return text
    | none, some width =>
      let n ← readHex width 0
      ensure n.isValidChar
      return (Char.ofNat n).toString
    | none, none => failure

/-- Reads a part of a word in quotes.  The flag says whether the word goes on; a blank, a line end,
also an escaped one, and the closing quote end it. -/
def quotedPart (quote : Char) (text : String) : Scanner (String × Bool) := do
  let c ← peek
  if isSpace c then return (text, false)
  else if quote == '\'' && c == some '\'' && (← ahead 1) == some '\'' then
    skipMany 2
    return (text ++ "'", true)
  else if c == some quote then return (text, false)
  else if quote == '"' && c == some '\\' then
    if isBreak (← ahead 1) then return (text, false)
    else return (text ++ (← readEscape), true)
  else return (text ++ (← read), true)

/-- Reads a word in quotes and the gap after it.  The flag says whether the closing quote has not
come yet. -/
def quotedWord (quote : Char) (text : String) : Scanner (String × Bool) := do
  ensure !(← atDocumentMark)
  ensure (← peek).isSome
  let text := text ++ (← gather (quotedPart quote))
  if (← peek) == some quote then return (text, false)
  let escaped ← at? '\\'
  if escaped then
    skip
    skipLine
  let gap ← Gap.read (fun _ => pure ()) ((← get).size + 1) { broken := escaped }
  return (text ++ gap.text, true)

/-- Reads a scalar in quotes. -/
def readQuoted (quote : Char) : Scanner String := do
  skip
  let text ← gather (quotedWord quote)
  skip
  return text

/-! ### Scalars without any mark -/

/-- The characters that end a plain scalar in a flow collection. -/
def flowMarks : List Char := [',', '[', ']', '\x7b', '\x7d']

/-- Whether a plain scalar ends before the next character. -/
def plainEnds : Scanner Bool := do
  let c ← peek
  let flow := (← get).flow != 0
  return isSpace c || (c == some ':' && isSpace (← ahead 1)) || (flow && c.any flowMarks.contains)

/-- Reads a character of a plain scalar.  The flag says whether its word goes on. -/
def plainPart (text : String) : Scanner (String × Bool) := do
  if (← get).flow != 0 && (← at? ':') then
    ensure !((← ahead 1).any ('?' :: flowMarks).contains)
  if ← plainEnds then return (text, false)
  else return (text ++ (← read), true)

/-- A tab may not stand in the indentation of a plain scalar. -/
def noTab (indent : Int) (g : Gap) : Scanner Unit := do
  if g.broken && (← get).column < indent then ensure !(← at? '\t')

/-- Reads the words of a plain scalar, so many at most, and the gap after the last. -/
def plainWords (indent : Int) : Nat → String → Gap → Scanner (String × Gap)
  | 0, text, gap => pure (text, gap)
  | n + 1, text, gap => do
    if (← atDocumentMark) || (← at? '#') then return (text, gap)
    let word ← gather plainPart
    if word.isEmpty then return (text, gap)
    let text := text ++ gap.text ++ word
    let c ← peek
    if !(isBlank c || isBreak c) then return (text, {})
    let gap ← Gap.read (noTab indent) ((← get).size + 1) {}
    let s ← get
    if s.flow == 0 && s.column < indent then return (text, gap)
    else plainWords indent n text gap

/-- Reads a plain scalar.  A key may begin after it if its line has ended. -/
def readPlain : Scanner String := do
  let s ← get
  let (text, gap) ← plainWords (s.indent + 1) (s.size + 1) "" {}
  if gap.broken then allowKey true
  return text

/-! ### Block scalars -/

/-- What becomes of the line ends after the last line. -/
inductive Chomp where
  /-- The first is kept. -/
  | clip
  /-- None is kept. -/
  | strip
  /-- All are kept. -/
  | keep
  deriving DecidableEq, Repr

/-- A mark for the line ends after the last line. -/
def chompMark? : Option Char → Option Chomp
  | some '+' => some .keep
  | some '-' => some .strip
  | _ => none

/-- A mark for the indentation; zero is none. -/
def indentMark : Scanner (Option Nat) := do
  match ← peek with
  | some c =>
    if c.isDigit then
      ensure (c != '0')
      skip
      return some (c.toNat - '0'.toNat)
    else return none
  | none => return none

/-- Reads a mark for the line ends. -/
def chompMark : Scanner (Option Chomp) := do
  match chompMark? (← peek) with
  | some chomp =>
    skip
    return some chomp
  | none => return none

/-- Reads both marks, in either order. -/
def blockMarks : Scanner (Chomp × Option Nat) := do
  match ← chompMark with
  | some chomp => return (chomp, ← indentMark)
  | none =>
    let indent ← indentMark
    return ((← chompMark).getD .clip, indent)

/-- Passes over one space of an indentation; the indentation is not known yet if it is zero. -/
def indentSpace (indent : Nat) : Scanner Bool := do
  if (indent == 0 || (← get).column < indent) && (← at? ' ') then
    skip
    return true
  else return false

/-- Reads empty lines, so many at most, and the indentation of the next.  Gives the deepest
indentation that was met. -/
def emptyLines (indent : Nat) : Nat → Nat → String → Scanner (Nat × String)
  | 0, deepest, text => pure (deepest, text)
  | n + 1, deepest, text => do
    loop (indentSpace indent)
    let column := (← get).column
    let deepest := max deepest column
    if indent == 0 || column < indent then ensure !(← at? '\t')
    if isBreak (← peek) then emptyLines indent n deepest (text ++ (← readLine))
    else return (deepest, text)

/-- Reads the lines of a block scalar, so many at most; gives the text up to the last line, the end
of that line, and those of the empty lines after it. -/
def blockLines (folds : Bool) (indent : Nat) :
    Nat → Bool → String → String → String → Scanner (String × String × String)
  | 0, _, text, first, others => pure (text, first, others)
  | n + 1, blankBefore, text, first, others => do
    let c ← peek
    if (← get).column != indent || c.isNone then return (text, first, others)
    let joined := folds && first == "\n" && !blankBefore && !isBlank c
    let text := text ++ (if joined then if others.isEmpty then " " else "" else first) ++ others
    let line ← readWhile fun c => !isBreakOrEnd c
    let first ← readLine
    let (_, others) ← emptyLines indent ((← get).size + 1) 0 ""
    blockLines folds indent n (isBlank c) (text ++ line) first others

/-- Reads a block scalar. -/
def readBlock (folds : Bool) : Scanner String := do
  skip
  let (chomp, given) ← blockMarks
  skipBlanks
  skipComment
  ensure (isBreakOrEnd (← peek))
  skipLine
  let s ← get
  let wanted := (given.map fun n => (max s.indent 0).toNat + n).getD 0
  let (deepest, empty) ← emptyLines wanted (s.size + 1) 0 ""
  let indent := if wanted == 0 then max deepest (max (s.indent + 1).toNat 1) else wanted
  let (text, first, others) ← blockLines folds indent (s.size + 1) false "" "" empty
  return text ++ (if chomp == .strip then "" else first) ++ (if chomp == .keep then others else "")

end Scanner

end Companion.Yaml
