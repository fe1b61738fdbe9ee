import Companion.Yaml.Character

/-!
# Yaml — the scanner

The scanner walks through a text and knows its line and column, the tokens found so far, how deep
blocks are indented, and how many flow collections are open.

A key without a question mark is only known as one when its colon comes.  So the scanner remembers,
for each open flow collection and for the block around them, the last place where a key may have
begun.  The colon must follow on the same line and within 1024 characters; a key that stands at the
indentation of its block must have its colon.
-/

namespace Companion.Yaml

/-- How a scalar is written. -/
inductive ScalarStyle where
  /-- Without any mark. -/
  | plain
  /-- In quotes. -/
  | quoted
  /-- As lines that are kept. -/
  | literal
  /-- As lines that are joined. -/
  | folded
  deriving DecidableEq, Repr

/-- A token of a YAML text. -/
inductive Token where
  /-- The version that the text is written for. -/
  | version (major minor : Nat)
  /-- What a tag handle stands for. -/
  | handle (name meaning : String)
  /-- A document begins. -/
  | documentStart
  /-- A document ends. -/
  | documentEnd
  /-- A block list begins. -/
  | listStart
  /-- A block mapping begins. -/
  | mappingStart
  /-- A block ends. -/
  | blockEnd
  /-- A flow list begins. -/
  | openList
  /-- A flow list ends. -/
  | closeList
  /-- A flow mapping begins. -/
  | openMapping
  /-- A flow mapping ends. -/
  | closeMapping
  /-- An item of a block list. -/
  | item
  /-- A comma. -/
  | comma
  /-- A key comes. -/
  | key
  /-- A value comes. -/
  | value
  /-- A reference to an anchor. -/
  | alias (name : String)
  /-- An anchor. -/
  | anchor (name : String)
  /-- A tag: its handle, and what follows it. -/
  | tag (handle suffix : String)
  /-- A scalar. -/
  | scalar (text : String) (style : ScalarStyle)
  deriving DecidableEq, Repr

/-- A place where a key may have begun. -/
structure KeyStart where
  /-- Whether a colon must follow. -/
  required : Bool
  /-- How many tokens stand before it. -/
  tokens : Nat
  /-- Its place in the text. -/
  index : Nat
  /-- Its line. -/
  line : Nat
  /-- Its column. -/
  column : Nat
  deriving Repr

/-- The state of the scanner. -/
structure Scan where
  /-- The text that is left. -/
  rest : List Char
  /-- The length of the whole text. -/
  size : Nat
  /-- The place in the text. -/
  index : Nat := 0
  /-- The line. -/
  line : Nat := 0
  /-- The column. -/
  column : Nat := 0
  /-- The tokens so far. -/
  tokens : Array Token := #[]
  /-- The indentation of the block, below zero outside of all blocks. -/
  indent : Int := -1
  /-- The indentations of the blocks around it. -/
  outer : List Int := []
  /-- How many flow collections are open. -/
  flow : Nat := 0
  /-- Whether a key may begin here. -/
  keyAllowed : Bool := true
  /-- Where a key may have begun: in the innermost flow collection first. -/
  starts : List (Option KeyStart) := [none]

/-- A step of the scanner, which may fail. -/
abbrev Scanner (α : Type) := StateT Scan Option α

namespace Scanner

/-- The character that is so far ahead. -/
def ahead (n : Nat) : Scanner (Option Char) := return (← get).rest[n]?

/-- The next character. -/
def peek : Scanner (Option Char) := ahead 0

/-- Whether the next character is the given one. -/
def at? (c : Char) : Scanner Bool := return (← peek) == some c

/-- A condition. -/
def ensure (b : Bool) : Scanner Unit := if b then pure () else failure

/-- Passes over a character of the line. -/
def skip : Scanner Unit := modify fun s =>
  { s with rest := s.rest.drop 1, index := s.index + 1, column := s.column + 1 }

/-- Passes over so many characters of the line. -/
def skipMany : Nat → Scanner Unit
  | 0 => pure ()
  | n + 1 => do
    skip
    skipMany n

/-- Passes over the end of a line. -/
def skipLine : Scanner Unit := do
  let n := if (← get).rest.take 2 == ['\r', '\n'] then 2 else 1
  if isBreak (← peek) then
    modify fun s =>
      { s with rest := s.rest.drop n, index := s.index + n, line := s.line + 1, column := 0 }

/-- A character of the line. -/
def read : Scanner String := do
  match ← peek with
  | some c =>
    skip
    return c.toString
  | none => failure

/-- The end of a line, as it counts in a scalar: the line and paragraph separators stay, and all
others become a line feed. -/
def readLine : Scanner String := do
  match ← peek with
  | some '\u2028' => skipLine; return "\u2028"
  | some '\u2029' => skipLine; return "\u2029"
  | c =>
    if isBreak c then
      skipLine
      return "\n"
    else return ""

/-- Repeats a step while it says so, so often at most. -/
def repeated (step : Scanner Bool) : Nat → Scanner Unit
  | 0 => pure ()
  | n + 1 => do
    if ← step then repeated step n

/-- Repeats a step while it says so. -/
def loop (step : Scanner Bool) : Scanner Unit := do repeated step ((← get).size + 1)

/-- Collects a text while a step adds to it, so often at most. -/
def gathered (step : String → Scanner (String × Bool)) : Nat → String → Scanner String
  | 0, text => pure text
  | n + 1, text => do
    let (text, more) ← step text
    if more then gathered step n text else return text

/-- Collects a text while a step adds to it. -/
def gather (step : String → Scanner (String × Bool)) : Scanner String := do
  gathered step ((← get).size + 1) ""

/-- The characters of a class that come next. -/
def readWhile (p : Option Char → Bool) : Scanner String :=
  gather fun text => do
    if p (← peek) then return (text ++ (← read), true) else return (text, false)

/-- Passes over blanks. -/
def skipBlanks : Scanner Unit := do let _ ← readWhile isBlank

/-- Passes over a comment, if there is one. -/
def skipComment : Scanner Unit := do
  if ← at? '#' then
    let _ ← readWhile fun c => !isBreakOrEnd c

/-- Whether a line begins here with three such characters and then a space. -/
def atMark (c : Char) : Scanner Bool := do
  let s ← get
  return s.column == 0 && s.rest.take 3 == [c, c, c] && isSpace s.rest[3]?

/-- Whether a line begins here that starts or ends a document. -/
def atDocumentMark : Scanner Bool := do
  if ← atMark '-' then return true
  atMark '.'

/-! ### Tokens and blocks -/

/-- Adds a token. -/
def emit (t : Token) : Scanner Unit := modify fun s => { s with tokens := s.tokens.push t }

/-- Adds a token after so many others. -/
def emitAt (n : Nat) (t : Token) : Scanner Unit := modify fun s =>
  { s with tokens := (s.tokens.extract 0 n).push t ++ s.tokens.extract n s.tokens.size }

/-- Opens a block at a column, unless it is open; its token goes after so many others. -/
def indentTo (column : Nat) (place : Nat) (t : Token) : Scanner Unit := do
  let s ← get
  if s.flow == 0 && s.indent < column then
    set { s with indent := column, outer := s.indent :: s.outer }
    emitAt place t

/-- Closes the innermost block if it is deeper than a column. -/
def closeOne (column : Int) : Scanner Bool := do
  let s ← get
  match s.outer with
  | [] => return false
  | i :: outer =>
    if column < s.indent then
      set { s with indent := i, outer := outer, tokens := s.tokens.push .blockEnd }
      return true
    else return false

/-- Closes all blocks that are deeper than a column. -/
def unindentTo (column : Int) : Scanner Unit := do
  if (← get).flow == 0 then loop (closeOne column)

/-! ### Keys -/

/-- What remains of a possible key when the scanner has come here. -/
def stillOpen (s : Scan) : Option KeyStart → Option (Option KeyStart)
  | none => some none
  | some k =>
    if k.line < s.line || k.index + 1024 < s.index then if k.required then none else some none
    else some (some k)

/-- Gives up the keys whose colon cannot come any more. -/
def dropStale : Scanner Unit := do
  let s ← get
  match s.starts.mapM (stillOpen s) with
  | some starts => set { s with starts }
  | none => failure

/-- Gives up the possible key of the innermost collection. -/
def dropStart : Scanner Unit := do
  let s ← get
  match s.starts with
  | some k :: others =>
    ensure !k.required
    set { s with starts := none :: others }
  | _ => pure ()

/-- A key may begin here. -/
def markStart : Scanner Unit := do
  if (← get).keyAllowed then
    dropStart
    modify fun s =>
      let required := s.flow == 0 && s.indent == s.column
      let start : KeyStart := ⟨required, s.tokens.size, s.index, s.line, s.column⟩
      { s with starts := some start :: s.starts.drop 1 }

/-- Says whether a key may begin next. -/
def allowKey (b : Bool) : Scanner Unit := modify fun s => { s with keyAllowed := b }

/-- Enters a flow collection. -/
def enterFlow : Scanner Unit := modify fun s =>
  { s with flow := s.flow + 1, starts := none :: s.starts }

/-- Leaves a flow collection. -/
def leaveFlow : Scanner Unit := modify fun s =>
  if s.flow == 0 then s else { s with flow := s.flow - 1, starts := s.starts.drop 1 }

end Scanner

end Companion.Yaml
