import Companion.Json.Format

/-!
# Json — values written as JSON

Each type that is read from data is also written, with every field, in the order of its fields.  A
value that is absent is written as null, and an argument that is null has no content.

* `text` writes a JSON value without blanks.
-/

namespace Companion

namespace Json

/-- A string. -/
def ofText (s : String) : Json := .string (some s)

/-- A natural number. -/
def ofNatural (n : UInt64) : Json := .number (.natural n)

/-- A value that may be absent. -/
def ofOption {α : Type} (f : α → Json) : Option α → Json
  | none => .null
  | some a => f a

/-- A list. -/
def ofList {α : Type} (f : α → Json) (xs : List α) : Json := .array (xs.map f)

/-- An object. -/
def ofFields (fields : List (String × Json)) : Json :=
  .object (fields.map fun (name, j) => (some name, j))

end Json

open Json

/-! ### Types -/

/-- An accessibility as JSON. -/
def Accessibility.toJson (a : Accessibility) : Json := ofText a.name

/-- A kind of declaration as JSON. -/
def DeclarationKind.toJson (k : DeclarationKind) : Json := ofText k.name

/-- An argument as JSON. -/
def Argument.toJson : Argument → Json
  | .null => ofFields [("kind", ofText "null")]
  | .type s => ofFields [("kind", ofText "type"), ("value", ofText s)]
  | .string s => ofFields [("kind", ofText "string"), ("value", ofText s)]

/-- An attached annotation as JSON. -/
def Attribute.toJson (a : Attribute) : Json :=
  ofFields [("name", ofText a.name), ("namespace", ofText a.namespace),
    ("parameters", ofList ofText a.parameters), ("arguments", ofList Argument.toJson a.arguments)]

/-- A declaration as JSON. -/
def Declaration.toJson (d : Declaration) : Json :=
  ofFields [("symbol", ofNatural d.symbol), ("kind", d.kind.toJson), ("name", ofText d.name),
    ("namespace", ofOption ofText d.namespace), ("accessibility", d.accessibility.toJson),
    ("is_partial", .boolean d.isPartial), ("attributes", ofList Attribute.toJson d.attributes)]

/-- A snapshot as JSON. -/
def Snapshot.toJson (s : Snapshot) : Json :=
  ofFields [("assembly_name", ofText s.assemblyName),
    ("declarations", ofList Declaration.toJson s.declarations)]

/-- A contract as JSON. -/
def Contract.toJson (c : Contract) : Json := ofText c.name

/-- A shape as JSON. -/
def Shape.toJson (s : Shape) : Json := ofText s.name

/-- A class's parameters as JSON. -/
def Parameters.toJson (p : Parameters) : Json :=
  ofFields [("element_type", ofText p.elementType),
    ("backing_field", ofOption ofText p.backingField)]

/-- A unit as JSON. -/
def SourceUnit.toJson (u : SourceUnit) : Json :=
  ofFields [("identity", ofText u.identity), ("text", ofText u.text)]

/-- A severity as JSON. -/
def Severity.toJson (s : Severity) : Json := ofText s.name

/-- A report as JSON. -/
def Diagnostic.toJson (d : Diagnostic) : Json :=
  ofFields [("id", ofText d.id), ("severity", d.severity.toJson), ("message", ofText d.message),
    ("symbol", ofOption ofNatural d.symbol), ("type_name", ofOption ofText d.typeName)]

/-- A token policy as JSON. -/
def TokenPolicy.toJson (p : TokenPolicy) : Json := ofText p.name

/-- Settings as JSON. -/
def Settings.toJson (s : Settings) : Json :=
  ofFields [("default_backing_field", ofText s.defaultBackingField),
    ("identity_suffix", ofText s.identitySuffix),
    ("annotation_namespace", ofText s.annotationNamespace),
    ("namespace_tokens", s.namespaceTokens.toJson), ("parallel", .boolean s.parallel),
    ("template_dir", ofOption ofText s.templateDir)]

namespace Json

/-! ### Texts -/

/-- A character within a string. -/
def writeChar (c : Char) : List Char :=
  match c with
  | '"' => ['\\', '"']
  | '\\' => ['\\', '\\']
  | '\x08' => ['\\', 'b']
  | '\x0c' => ['\\', 'f']
  | '\n' => ['\\', 'n']
  | '\r' => ['\\', 'r']
  | '\t' => ['\\', 't']
  | c => if c.toNat < 0x20 then '\\' :: 'u' :: Text.hexDigits 4 c.toNat else [c]

/-- A string. -/
def writeString (s : String) : List Char := '"' :: s.toList.flatMap writeChar ++ ['"']

/-- A number. -/
def writeNumber : Number → List Char
  | .natural n => Nat.toDigits 10 n.toNat
  | .negative n => '-' :: Nat.toDigits 10 n
  | .real x => (Decimal.Layout.scientific.write x).toList
  | .tooLarge => "1e999".toList

mutual

/-- A value as characters. -/
def write : Json → List Char
  | .null => "null".toList
  | .boolean true => "true".toList
  | .boolean false => "false".toList
  | .number n => writeNumber n
  | .string s => writeString (s.getD "")
  | .array items => '[' :: writeItems items ++ [']']
  | .object members => '\x7b' :: writeMembers members ++ ['\x7d']
  | .deep inner => inner.write
  | .broken => []

/-- Values with commas between them. -/
def writeItems : List Json → List Char
  | [] => []
  | [j] => j.write
  | j :: js => j.write ++ ',' :: writeItems js

/-- Members with commas between them. -/
def writeMembers : List (Option String × Json) → List Char
  | [] => []
  | [(name, j)] => writeString (name.getD "") ++ ':' :: j.write
  | (name, j) :: ms => writeString (name.getD "") ++ ':' :: j.write ++ ',' :: writeMembers ms

end

/-- A value as a text. -/
def text (j : Json) : String := String.ofList j.write

end Json

end Companion
