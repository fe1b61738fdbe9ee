import Companion.Yaml.Scalar
import Companion.Yaml.Tag

/-!
# Yaml — the tokens of a text

What comes next is told by one character, or by two; what it means depends on whether a flow
collection is open and whether a key may begin here.  The indentation of the line decides which
blocks end before it.

* `tokens?` gives all tokens of a text, unless it breaks a rule.
-/

namespace Companion.Yaml

namespace Scanner

/-- Passes over one line end, blanks and a comment.  The flag says whether there was a line end. -/
def skipToLine : Scanner Bool := do
  let s ← get
  let tabs := s.flow != 0 || !s.keyAllowed
  let _ ← readWhile fun c => c == some ' ' || (tabs && c == some '\t')
  skipComment
  if isBreak (← peek) then
    skipLine
    if s.flow == 0 then allowKey true
    return true
  else return false

/-- Passes over all that is between two tokens. -/
def skipToToken : Scanner Unit := loop skipToLine

/-- All blocks end, and no key can be completed. -/
def endBlocks : Scanner Unit := do
  unindentTo (-1)
  dropStart
  allowKey false

/-- A flow collection begins. -/
def openFlow (t : Token) : Scanner Unit := do
  markStart
  enterFlow
  allowKey true
  skip
  emit t

/-- A flow collection ends. -/
def closeFlow (t : Token) : Scanner Unit := do
  dropStart
  leaveFlow
  allowKey false
  skip
  emit t

/-- A token that opens a block at its own column, if it stands in a block. -/
def blockIndicator (block : Token) : Scanner Unit := do
  let s ← get
  if s.flow == 0 then
    ensure s.keyAllowed
    indentTo s.column s.tokens.size block

/-- An item of a block list. -/
def itemToken : Scanner Unit := do
  blockIndicator .listStart
  dropStart
  allowKey true
  skip
  emit .item

/-- A question mark before a key. -/
def keyToken : Scanner Unit := do
  blockIndicator .mappingStart
  dropStart
  allowKey ((← get).flow == 0)
  skip
  emit .key

/-- A colon before a value: it completes the possible key before it, if there is one. -/
def valueToken : Scanner Unit := do
  match (← get).starts.head?.join with
  | some k =>
    emitAt k.tokens .key
    indentTo k.column k.tokens .mappingStart
    modify fun s => { s with starts := none :: s.starts.drop 1 }
    allowKey false
  | none =>
    blockIndicator .mappingStart
    allowKey ((← get).flow == 0)
  skip
  emit .value

/-- A token with which a key may begin. -/
def startToken (read : Scanner Token) : Scanner Unit := do
  markStart
  allowKey false
  emit (← read)

/-- A scalar of lines. -/
def blockToken (folds : Bool) : Scanner Unit := do
  dropStart
  allowKey true
  emit (.scalar (← readBlock folds) (if folds then .folded else .literal))

/-- The characters with which no plain scalar begins. -/
def indicators : List Char :=
  ['-', '?', ':', ',', '[', ']', '\x7b', '\x7d', '#', '&', '*', '!', '|', '>', '\'', '"', '%', '@',
    '\x60']

/-- A plain scalar, if one can begin here. -/
def plainToken (c : Char) (after : Option Char) (flow : Bool) : Scanner Unit := do
  ensure (!(isSpace (some c) || indicators.contains c) || (c == '-' && !isBlank after) ||
    (!flow && (c == '?' || c == ':') && !isSpace after))
  startToken do return .scalar (← readPlain) .plain

/-- The token that begins with a character, another being after it. -/
def tokenFrom (c : Char) (after : Option Char) (flow : Bool) : Scanner Unit := do
  if c == '[' then openFlow .openList
  else if c == '\x7b' then openFlow .openMapping
  else if c == ']' then closeFlow .closeList
  else if c == '\x7d' then closeFlow .closeMapping
  else if c == ',' then
    dropStart
    allowKey true
    skip
    emit .comma
  else if c == '-' && isSpace after then itemToken
  else if c == '?' && (flow || isSpace after) then keyToken
  else if c == ':' && (flow || isSpace after) then valueToken
  else if c == '*' then startToken do return .alias (← readName)
  else if c == '&' then startToken do return .anchor (← readName)
  else if c == '!' then startToken readTag
  else if c == '|' && !flow then blockToken false
  else if c == '>' && !flow then blockToken true
  else if c == '\'' || c == '"' then startToken do return .scalar (← readQuoted c) .quoted
  else plainToken c after flow

/-- A line that starts or ends a document. -/
def documentToken (t : Token) : Scanner Unit := do
  endBlocks
  skipMany 3
  emit t

/-- Reads one token.  The flag says whether the text has not ended. -/
def readToken : Scanner Bool := do
  skipToToken
  dropStale
  unindentTo (← get).column
  let s ← get
  match s.rest with
  | [] =>
    endBlocks
    return false
  | c :: r =>
    if s.column == 0 && c == '%' then
      endBlocks
      emit (← readDirective)
    else if ← atMark '-' then documentToken .documentStart
    else if ← atMark '.' then documentToken .documentEnd
    else tokenFrom c r.head? (s.flow != 0)
    return true

end Scanner

/-- The characters of a text after a byte order mark. -/
def characters (text : String) : List Char :=
  match text.toList with
  | '\uFEFF' :: cs => cs
  | cs => cs

/-- The tokens of a text. -/
def tokens? (text : String) : Option (List Token) :=
  let cs := characters text
  if cs.all isAllowed then
    ((Scanner.loop Scanner.readToken).run { rest := cs, size := 2 * cs.length + 2 }).map
      fun (_, s) => s.tokens.toList
  else none

end Companion.Yaml
