/-!
# Text — blank texts

A text is blank when it holds nothing but white space.  White space is the Unicode property of that
name: besides tabs, line ends and the space these are the next-line control, the no-break spaces,
the spaces of fixed width, and the line and paragraph separators.  The zero-width space and the
byte-order mark do not have the property.
-/

namespace Companion.Text

/-- The Unicode property White_Space. -/
def isWhiteSpace (c : Char) : Bool :=
  let n := c.toNat
  (9 ≤ n && n ≤ 13) || n == 0x20 || n == 0x85 || n == 0xA0 || n == 0x1680 ||
    (0x2000 ≤ n && n ≤ 0x200A) || n == 0x2028 || n == 0x2029 || n == 0x202F || n == 0x205F ||
    n == 0x3000

/-- Nothing but white space. -/
def isBlank (s : String) : Bool := s.toList.all isWhiteSpace

end Companion.Text
