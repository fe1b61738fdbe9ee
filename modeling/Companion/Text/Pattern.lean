/-!
# Text — patterns

A pattern is a row of parts, each of which takes some of a text: a character of a class, one or
none, or any number of them.  An anchor takes nothing, but is met only at one end of the text.  A
text matches if the pattern takes some stretch of it.

Characters are code points, and the end of a text is where no character is left: a line end is a
character like others.

* `Pattern.written` is the pattern in the usual notation.
* `Pattern.fits` tries a pattern at one place of a text, `Pattern.isMatch` at one place after the
  other.
-/

namespace Companion.Text

/-- A class of characters: ranges, to which their ends belong. -/
structure CharClass where
  /-- The ranges. -/
  ranges : List (Char × Char)
  deriving DecidableEq, Repr

namespace CharClass

/-- The class of one character. -/
def single (c : Char) : CharClass := ⟨[(c, c)]⟩

/-- Whether the character is of the class. -/
def has (k : CharClass) (c : Char) : Bool :=
  k.ranges.any fun r => decide (r.1 ≤ c) && decide (c ≤ r.2)

/-- The class as it is written. -/
def written (k : CharClass) : String :=
  match k.ranges with
  | [(a, b)] => if a = b then a.toString else "[" ++ range (a, b) ++ "]"
  | ranges => "[" ++ String.join (ranges.map range) ++ "]"
where
  /-- A range as it is written. -/
  range (r : Char × Char) : String :=
    if r.1 = r.2 then r.1.toString else r.1.toString ++ "-" ++ r.2.toString

end CharClass

/-- A part of a pattern. -/
inductive Part where
  /-- The start of the text. -/
  | start
  /-- The end of the text. -/
  | stop
  /-- A character of the class. -/
  | one (k : CharClass)
  /-- A character of the class, or none. -/
  | optional (k : CharClass)
  /-- Any number of characters of the class. -/
  | many (k : CharClass)
  deriving DecidableEq, Repr

/-- The part as it is written. -/
def Part.written : Part → String
  | .start => "^"
  | .stop => "$"
  | .one k => k.written
  | .optional k => k.written ++ "?"
  | .many k => k.written ++ "*"

/-- A pattern: one part after the other. -/
structure Pattern where
  /-- The parts. -/
  parts : List Part
  deriving DecidableEq, Repr

namespace Pattern

/-- The pattern as it is written. -/
def written (p : Pattern) : String := String.join (p.parts.map Part.written)

/-- Takes any number of characters of the class, and goes on with what is left.  `begun` says
whether a character of the text was passed. -/
def takeMany (k : CharClass) (next : Bool → List Char → Bool) (begun : Bool) :
    List Char → Bool
  | [] => next begun []
  | c :: cs => next begun (c :: cs) || (k.has c && takeMany k next true cs)

/-- Whether the parts take some of the characters from the first on. -/
def fits : List Part → Bool → List Char → Bool
  | [], _, _ => true
  | .start :: parts, begun, cs => !begun && fits parts begun cs
  | .stop :: parts, begun, cs => cs.isEmpty && fits parts begun cs
  | .one _ :: _, _, [] => false
  | .one k :: parts, _, c :: cs => k.has c && fits parts true cs
  | .optional _ :: parts, begun, [] => fits parts begun []
  | .optional k :: parts, begun, c :: cs =>
    (k.has c && fits parts true cs) || fits parts begun (c :: cs)
  | .many k :: parts, begun, cs => takeMany k (fits parts) begun cs

/-- Whether the parts take some of the characters from the first on, or from a later one on. -/
def search (parts : List Part) (begun : Bool) : List Char → Bool
  | [] => fits parts begun []
  | c :: cs => fits parts begun (c :: cs) || search parts true cs

/-- Whether a stretch of the text matches the pattern. -/
def isMatch (p : Pattern) (cs : List Char) : Bool := search p.parts false cs

end Pattern

end Companion.Text
