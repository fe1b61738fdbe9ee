import Companion.Json.Basic
import Companion.Text.Hex

/-!
# Json — tokens

A JSON text is cut into tokens: brackets, commas, colons and simple values, with blanks between
them.  Cutting stops at the first character with which no token begins, and at a string or a number
that is not well formed; the last token is then `bad`.

* `next?_length` says that each token takes something away from the text.
-/

namespace Companion.Json

/-! ### Strings -/

/-- A part of a string: a character as it stands, or a code unit given by its number. -/
inductive Piece where
  /-- A character. -/
  | char (c : Char)
  /-- A code unit. -/
  | unit (n : Nat)
  deriving DecidableEq, Repr

/-- The character that a one-letter escape stands for. -/
def escaped? : Char → Option Char
  | '"' => some '"'
  | '\\' => some '\\'
  | '/' => some '/'
  | 'b' => some '\x08'
  | 'f' => some '\x0c'
  | 'n' => some '\n'
  | 'r' => some '\r'
  | 't' => some '\t'
  | _ => none

/-- The code unit of four hexadecimal digits. -/
def codeUnit? (a b c d : Char) : Option Nat :=
  match Text.hexValue? a, Text.hexValue? b, Text.hexValue? c, Text.hexValue? d with
  | some w, some x, some y, some z => some (((w * 16 + x) * 16 + y) * 16 + z)
  | _, _, _, _ => none

/-- The parts of a string up to the closing quote, and what follows it. -/
def readPieces? : List Char → Option (List Piece × List Char)
  | [] => none
  | '"' :: r => some ([], r)
  | '\\' :: 'u' :: a :: b :: c :: d :: r =>
    match codeUnit? a b c d, readPieces? r with
    | some n, some (ps, rest) => some (.unit n :: ps, rest)
    | _, _ => none
  | '\\' :: c :: r =>
    match escaped? c, readPieces? r with
    | some e, some (ps, rest) => some (.char e :: ps, rest)
    | _, _ => none
  | c :: r =>
    if c == '\\' || c.toNat < 0x20 then none
    else match readPieces? r with
      | some (ps, rest) => some (.char c :: ps, rest)
      | none => none

/-- Whether the unit is the first of a pair. -/
def isLeading (n : Nat) : Bool := 0xD800 ≤ n && n < 0xDC00

/-- Whether the unit is the second of a pair. -/
def isTrailing (n : Nat) : Bool := 0xDC00 ≤ n && n < 0xE000

/-- The characters of the parts; none if a unit lacks its partner. -/
def characters? : List Piece → Option (List Char)
  | [] => some []
  | .char c :: ps => (characters? ps).map (c :: ·)
  | .unit m :: .unit n :: ps =>
    if isLeading m then
      if isTrailing n then
        (characters? ps).map (Char.ofNat (0x10000 + (m - 0xD800) * 0x400 + (n - 0xDC00)) :: ·)
      else none
    else if isTrailing m then none
    else (characters? (.unit n :: ps)).map (Char.ofNat m :: ·)
  | .unit m :: ps =>
    if isLeading m || isTrailing m then none else (characters? ps).map (Char.ofNat m :: ·)

/-! ### Tokens -/

/-- A token of a JSON text. -/
inductive Token where
  /-- A list begins. -/
  | openArray
  /-- A list ends. -/
  | closeArray
  /-- An object begins. -/
  | openObject
  /-- An object ends. -/
  | closeObject
  /-- A comma. -/
  | comma
  /-- A colon. -/
  | colon
  /-- A string. -/
  | string (value : Option String)
  /-- A simple value other than a string. -/
  | scalar (value : Json)
  /-- No token. -/
  | bad

/-- The blanks of JSON. -/
def isBlank (c : Char) : Bool := c == ' ' || c == '\t' || c == '\n' || c == '\r'

/-- The token at the front of a text that does not begin with a blank. -/
def token : List Char → Token × List Char
  | '[' :: r => (.openArray, r)
  | ']' :: r => (.closeArray, r)
  | '\x7b' :: r => (.openObject, r)
  | '\x7d' :: r => (.closeObject, r)
  | ',' :: r => (.comma, r)
  | ':' :: r => (.colon, r)
  | 'n' :: 'u' :: 'l' :: 'l' :: r => (.scalar .null, r)
  | 't' :: 'r' :: 'u' :: 'e' :: r => (.scalar (.boolean true), r)
  | 'f' :: 'a' :: 'l' :: 's' :: 'e' :: r => (.scalar (.boolean false), r)
  | '"' :: r =>
    match readPieces? r with
    | some (ps, rest) => (.string ((characters? ps).map String.ofList), rest)
    | none => (.bad, [])
  | cs =>
    match readNumeral? cs with
    | some (n, rest) => (.scalar (.number n.value), rest)
    | none => (.bad, [])

/-- The next token, and what follows it. -/
def next? (cs : List Char) : Option (Token × List Char) :=
  match cs.dropWhile isBlank with
  | [] => none
  | c :: r => some (token (c :: r))

theorem readPieces?_length {cs rest : List Char} {ps : List Piece}
    (h : readPieces? cs = some (ps, rest)) : rest.length < cs.length := by
  fun_induction readPieces? cs generalizing ps with
  | case1 => cases h
  | case2 r => cases h; simp
  | case3 => cases h; rename_i ih hr; have := ih hr; simp; omega
  | case4 => cases h
  | case5 => cases h; rename_i ih hr; have := ih hr; simp; omega
  | case6 => cases h
  | case7 => cases h
  | case8 => cases h; rename_i ih hr; have := ih hr; simp; omega
  | case9 => cases h

theorem token_length {cs : List Char} (h : cs ≠ []) : (token cs).2.length < cs.length := by
  have pos := List.length_pos_iff.mpr h
  fun_cases token cs
  case case10 hp =>
    have := readPieces?_length hp
    simp
    omega
  case case12 hn => exact readNumeral?_length hn
  case case13 => exact pos
  all_goals (simp; try omega)

theorem next?_length {cs rest : List Char} {t : Token} (h : next? cs = some (t, rest)) :
    rest.length < cs.length := by
  have blank := congrArg List.length (List.takeWhile_append_dropWhile (p := isBlank) (l := cs))
  unfold next? at h
  split at h
  · cases h
  · rename_i c r hd
    have shorter := token_length (List.cons_ne_nil c r)
    rw [Option.some.inj h] at shorter
    rw [hd, List.length_append] at blank
    dsimp only at shorter
    omega

/-- The tokens of a text. -/
def tokens (cs : List Char) : List Token :=
  match _h : next? cs with
  | none => []
  | some (t, rest) => t :: tokens rest
  termination_by cs.length
  decreasing_by exact next?_length _h

end Companion.Json
