import Companion.Decimal.Layout
import Companion.Text.Quoted

/-!
# Data — what is wrong with data

Data that comes in as text may be malformed, which has no words here, or be of the wrong form for
what is read from it.  Of several problems the first in the order of the text is the one reported.
-/

namespace Companion

/-- A value that was found. -/
inductive Found where
  /-- The null value. -/
  | null
  /-- A truth value. -/
  | boolean (value : Bool)
  /-- A whole number. -/
  | integer (value : Int)
  /-- A number with a fraction, or one too large to be whole. -/
  | real (value : Float)
  /-- A text. -/
  | string (value : String)
  /-- A list. -/
  | sequence
  /-- An object. -/
  | map

/-- The value in words. -/
def Found.message : Found → String
  | .null => "null"
  | .boolean true => "boolean `true`"
  | .boolean false => "boolean `false`"
  | .integer n => "integer `" ++ toString n ++ "`"
  | .real x => "floating point `" ++ Decimal.Layout.scientific.write x ++ "`"
  | .string s => "string " ++ Text.quoted s
  | .sequence => "sequence"
  | .map => "map"

/-- What was expected. -/
inductive Expected where
  /-- A text. -/
  | text
  /-- A path. -/
  | path
  /-- A truth value. -/
  | flag
  /-- A natural number below 2^64. -/
  | natural
  /-- A list. -/
  | list
  /-- Nothing but null. -/
  | unit
  /-- A record. -/
  | record (name : String)
  /-- A record with so many fields. -/
  | recordOf (name : String) (size : Nat)
  /-- One of several alternatives, told apart by a tag. -/
  | tagged (name : String)
  /-- The alternative that holds nothing. -/
  | bare (name alternative : String)

/-- The expectation in words. -/
def Expected.message : Expected → String
  | .text => "a string"
  | .path => "path string"
  | .flag => "a boolean"
  | .natural => "u64"
  | .list => "a sequence"
  | .unit => "unit"
  | .record name => "struct " ++ name
  | .recordOf name size => "struct " ++ name ++ " with " ++ toString size ++ " elements"
  | .tagged name => "adjacently tagged enum " ++ name
  | .bare name alternative => "unit variant " ++ name ++ "::" ++ alternative

/-- What is wrong with data. -/
inductive Problem where
  /-- It is not well formed. -/
  | malformed
  /-- A field is missing. -/
  | missingField (name : String)
  /-- A field is there twice. -/
  | duplicateField (name : String)
  /-- A choice that is not among the known ones. -/
  | unknownVariant (name : String) (known : List String)
  /-- A value of the wrong type. -/
  | invalidType (found : Found) (expected : Expected)
  /-- A value of the right type that is out of range. -/
  | invalidValue (found : Found) (expected : Expected)
  /-- A list in place of a record that ends too early. -/
  | invalidLength (length : Nat) (expected : Expected)

namespace Problem

/-- A name in backquotes. -/
def ticked (name : String) : String := "`" ++ name ++ "`"

/-- The known choices, joined as in a sentence. -/
def alternatives : List String → String
  | [] => "there are no variants"
  | [a] => "expected " ++ ticked a
  | [a, b] => "expected " ++ ticked a ++ " or " ++ ticked b
  | names => "expected one of " ++ ", ".intercalate (names.map ticked)

/-- The problem in words, if it has words. -/
def message? : Problem → Option String
  | .malformed => none
  | .missingField name => some ("missing field " ++ ticked name)
  | .duplicateField name => some ("duplicate field " ++ ticked name)
  | .unknownVariant name known =>
    some ("unknown variant " ++ ticked name ++ ", " ++ alternatives known)
  | .invalidType found expected =>
    some ("invalid type: " ++ found.message ++ ", expected " ++ expected.message)
  | .invalidValue found expected =>
    some ("invalid value: " ++ found.message ++ ", expected " ++ expected.message)
  | .invalidLength length expected =>
    some ("invalid length " ++ toString length ++ ", expected " ++ expected.message)

end Problem

end Companion
