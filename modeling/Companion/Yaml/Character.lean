/-!
# Yaml — characters

The classes of characters that the layout of a YAML text is made of.  A class is asked of what comes
next, which may also be the end of the text.
-/

namespace Companion.Yaml

/-- Whether a YAML text may hold the character. -/
def isAllowed (c : Char) : Bool :=
  let n := c.toNat
  n == 0x09 || n == 0x0A || n == 0x0D || (0x20 ≤ n && n ≤ 0x7E) || n == 0x85 ||
    (0xA0 ≤ n && n ≤ 0xFFFD && n != 0xFEFF) || 0x10000 ≤ n

/-- A space or a tab. -/
def isBlank (c : Option Char) : Bool := c == some ' ' || c == some '\t'

/-- The characters that end a line. -/
def breaks : List Char := ['\n', '\r', '\u0085', '\u2028', '\u2029']

/-- The end of a line. -/
def isBreak (c : Option Char) : Bool := c.any breaks.contains

/-- The end of a line or of the text. -/
def isBreakOrEnd (c : Option Char) : Bool := c.isNone || isBreak c

/-- A blank, the end of a line, or the end of the text. -/
def isSpace (c : Option Char) : Bool := isBlank c || isBreakOrEnd c

/-- A letter, a digit, a hyphen or an underscore. -/
def isWord (c : Char) : Bool := c.isAlphanum || c == '_' || c == '-'

end Companion.Yaml
