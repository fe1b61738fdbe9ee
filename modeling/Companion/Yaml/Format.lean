import Companion.Data.Schema
import Companion.Decimal.Numeral
import Companion.Yaml.Document

/-!
# Yaml — values read from YAML

What a scalar stands for depends on what is asked for.  A text is any scalar as it stands.  A truth
value or a number must not be in quotes.  Nothing at all, where a list or a record is asked for, is
an empty one.  A name from a choice is a scalar, or a local tag on nothing.

A tagged value is a mapping.  If its content comes before its tag, the content must stand for a
text, or for null, by itself.

* `decode` reads a value from a text.
-/

namespace Companion.Yaml

/-- A node seen within its document. -/
structure View where
  /-- The nodes with anchors. -/
  anchors : Anchors
  /-- The node. -/
  value : Value

namespace View

/-- The node that is meant: a reference means the one that it leads to. -/
def target (v : View) : Value :=
  match v.value with
  | .link n => (v.anchors.lookup n).getD .nothing
  | value => value

/-- Another node of the same document. -/
def beside (v : View) (value : Value) : View := ⟨v.anchors, value⟩

end View

/-! ### Scalars -/

/-- The words for null. -/
def nullWords : List String := ["null", "Null", "NULL", "~"]

/-- The words for truth values. -/
def flagWords : List (String × Bool) :=
  [("true", true), ("True", true), ("TRUE", true), ("false", false), ("False", false),
    ("FALSE", false)]

/-- A tag of the language. -/
def coreTag (name : String) : String := "tag:yaml.org,2002:" ++ name

/-- Whether the scalar may stand for a value of a type other than text. -/
def Scalar.mayBe (s : Scalar) (type : String) : Bool :=
  s.style == .plain || (s.style == .literal && s.tag == some (coreTag type))

/-- Whether the scalar is nothing at all. -/
def Scalar.isNothing (s : Scalar) : Bool := s.style == .plain && s.text.isEmpty

/-- The number that digits of a base make. -/
def inBase? (base : Nat) (ds : List Char) : Option Nat :=
  if ds.isEmpty then none
  else ds.foldlM (fun n c => (Text.hexValue? c).bind fun d =>
    if d < base then some (base * n + d) else none) 0

/-- Whether digits begin with a zero that does not count. -/
def hasLeadingZero : List Char → Bool
  | '0' :: c :: r => (c :: r).all Char.isDigit
  | _ => false

/-- A natural number without sign, below a bound. -/
def natural? (bound : Nat) (cs : List Char) : Option Nat :=
  let n? := match cs with
    | '0' :: 'x' :: r => inBase? 16 r
    | '0' :: 'o' :: r => inBase? 8 r
    | '0' :: 'b' :: r => inBase? 2 r
    | _ => if hasLeadingZero cs then none else inBase? 10 cs
  n?.filter (· < bound)

/-- The text of a number without its plus sign. -/
def withoutPlus : List Char → List Char
  | '+' :: r => r
  | cs => cs

/-- Whether the text is a whole number of 128 bits. -/
def isWhole (cs : List Char) : Bool :=
  match cs with
  | '-' :: r => (natural? (Nat.pow 2 127 + 1) r).isSome
  | _ => (natural? (Nat.pow 2 128) (withoutPlus cs)).isSome

/-- The words for infinity and for no number. -/
def realWords : List String :=
  [".inf", ".Inf", ".INF", "+.inf", "+.Inf", "+.INF", "-.inf", "-.Inf", "-.INF", ".nan", ".NaN",
    ".NAN"]

/-- Whether the text is a decimal that a double can hold. -/
def isDecimal (cs : List Char) : Bool :=
  let size := match cs with
    | '+' :: r => r
    | '-' :: r => r
    | r => r
  match Decimal.decimal.runAll? size with
  | some d => !(Decimal.nearest d).isInf
  | none => false

/-- Whether the text is a number. -/
def isNumber (text : String) : Bool :=
  let cs := text.toList
  let digits := match cs with
    | '+' :: r => r
    | '-' :: r => r
    | r => r
  isWhole cs || realWords.contains text || (!hasLeadingZero digits && isDecimal cs)

/-- What a scalar stands for when nothing is asked for. -/
inductive Sense where
  /-- Null. -/
  | null
  /-- A text. -/
  | text
  /-- Anything else. -/
  | other
  deriving DecidableEq, Repr

/-- What a scalar without a tag stands for. -/
def plainSense (text : String) : Sense :=
  if text.isEmpty || nullWords.contains text then .null
  else if (flagWords.lookup text).isSome || isNumber text then .other
  else .text

/-- What a scalar stands for when nothing is asked for. -/
def Scalar.sense (s : Scalar) : Sense :=
  match s.tag with
  | none => if s.style == .plain then plainSense s.text else .text
  | some tag =>
    if tag.startsWith "!" || ["bool", "int", "float"].any fun t => tag == coreTag t then .other
    else if tag == coreTag "null" then if nullWords.contains s.text then .null else .other
    else .text

/-! ### Values -/

/-- Reads a text. -/
def readText (v : View) : Reading String :=
  match v.target with
  | .scalar s => .ok s.text
  | _ => .error .malformed

/-- Reads a truth value. -/
def readFlag (v : View) : Reading Bool :=
  match v.target with
  | .scalar s =>
    match flagWords.lookup s.text, s.mayBe "bool" with
    | some b, true => .ok b
    | _, _ => .error .malformed
  | _ => .error .malformed

/-- Reads a natural number. -/
def readNatural (v : View) : Reading UInt64 :=
  match v.target with
  | .scalar s =>
    match natural? UInt64.size (withoutPlus s.text.toList), s.mayBe "int" with
    | some n, true => .ok (UInt64.ofNat n)
    | _, _ => .error .malformed
  | _ => .error .malformed

/-- Reads a value that may be null. -/
def readOptional {α : Type} (read : View → Reading α) (v : View) : Reading (Option α) :=
  match v.target with
  | .nothing => .ok none
  | .scalar s =>
    if s.style != .plain then some <$> read v
    else if s.tag == some (coreTag "null") then
      if nullWords.contains s.text then .ok none else .error .malformed
    else if s.tag.isNone && (s.text.isEmpty || nullWords.contains s.text) then .ok none
    else some <$> read v
  | _ => some <$> read v

/-- Reads a list. -/
def readList {α : Type} (read : View → Reading α) (v : View) : Reading (List α) :=
  match v.target with
  | .list _ items => items.mapM fun item => read (v.beside item)
  | .nothing => .ok []
  | .scalar s => if s.isNothing then .ok [] else .error .malformed
  | _ => .error .malformed

/-- The choice of a name. -/
def pick {α : Type} (options : List (String × α)) (name : String) : Reading α :=
  match options.lookup name with
  | some a => .ok a
  | none => .error .malformed

/-- The name that a local tag gives. -/
def localName? (tag : Option String) : Option String :=
  match tag.map (·.toList) with
  | some ('!' :: r) => some (String.ofList (if r.isEmpty then ['!'] else r))
  | _ => none

/-- Reads one of several names. -/
def readChoice {α : Type} (options : List (String × α)) (v : View) : Reading α :=
  match v.target with
  | .scalar s =>
    match localName? s.tag with
    | none => pick options s.text
    | some name =>
      if s.style == .plain && (s.text.isEmpty || nullWords.contains s.text) then pick options name
      else .error .malformed
  | _ => .error .malformed

/-- The members of a mapping by the texts of their keys. -/
def members? (v : View) : Reading (List (String × View)) :=
  match v.target with
  | .mapping _ members => members.mapM fun (key, value) => do
    return (← readText (v.beside key), v.beside value)
  | .nothing => .ok []
  | .scalar s => if s.isNothing then .ok [] else .error .malformed
  | _ => .error .malformed

/-- Reads a record. -/
def readRecord {α : Type} (r : Record View α) (v : View) : Reading α := do
  let members ← members? v
  let known := (members.map (·.1)).filter r.names.contains
  if known.length != known.eraseDups.length then .error .malformed
  else
    let get? (name : String) := (members.lookup name).map fun value => (0, value)
    match r.read ⟨get?, fun name => ⟨0, .missingField name⟩, true⟩ with
    | .ok a => .ok a
    | .error e => .error e.problem

/-- Reads what an alternative holds; `early` says that it comes before the tag. -/
def readContent {α : Type} (early : Bool) (alternative : Alternative α) (v : View) : Reading α :=
  match v.target, alternative with
  | .scalar s, .bare _ a => if s.sense == .null then .ok a else .error .malformed
  | .scalar s, .holding make =>
    if early && s.sense != .text then .error .malformed else .ok (make s.text)
  | _, _ => .error .malformed

/-- Reads a tagged value. -/
def readTagged {α : Type} (t : Tagged α) (v : View) : Reading α := do
  let members ← members? v
  match members.filter fun m => m.1 == t.tag || m.1 == t.content with
  | [(name, label)] =>
    if name != t.tag then .error .malformed
    else
      match ← readChoice t.alternatives label with
      | .bare _ a => .ok a
      | .holding _ => .error .malformed
  | [(first, a), (second, b)] =>
    if first == second then .error .malformed
    else
      let early := first == t.content
      let alternative ← readChoice t.alternatives (if early then b else a)
      readContent early alternative (if early then a else b)
  | _ => .error .malformed

instance : DataFormat View where
  text := readText
  path := readText
  flag := readFlag
  natural := readNatural
  optional := readOptional
  list := readList
  choice := readChoice
  record _ := readRecord
  tagged := readTagged

/-- Reads a value from a YAML text. -/
def decode {α : Type} (read : View → Reading α) (text : String) : Reading α :=
  match Document.ofText? text with
  | some d => read ⟨d.anchors, d.root⟩
  | none => .error .malformed

end Companion.Yaml
