import Companion.Scope
import Companion.Text.Pattern
import Companion.Text.Pieces

/-!
# Settings — what can be configured

The settings of a generator, their defaults, and the check that they pass before they are used:

* the default backing field must match the pattern of identifiers;
* the identity suffix must be free of path separators;
* the annotation namespace must not be empty, and its pieces between dots must be identifiers.

The first condition that fails, in this order, is the one reported.
-/

namespace Companion

/-- The letters that an identifier begins with. -/
def Text.CharClass.opening : CharClass := ⟨[('A', 'Z'), ('a', 'z'), ('_', '_')]⟩

/-- The letters and digits that it goes on with. -/
def Text.CharClass.continuing : CharClass := ⟨[('A', 'Z'), ('a', 'z'), ('0', '9'), ('_', '_')]⟩

/-- Identifiers, after an at sign or none, from the start of a text to its end. -/
def Text.Pattern.identifier : Pattern :=
  ⟨[.start, .optional (.single '@'), .one .opening, .many .continuing, .stop]⟩

example : Text.Pattern.identifier.written = "^@?[A-Za-z_][A-Za-z0-9_]*$" := by decide +kernel

/-- Whether the characters are an identifier. -/
def isIdentifier (cs : List Char) : Bool := Text.Pattern.identifier.isMatch cs

/-- Whether the pieces of the characters between dots are identifiers. -/
def isDottedIdentifier (cs : List Char) : Bool := (Text.pieces '.' cs).all isIdentifier

/-- Whether the characters hold a path separator. -/
def hasSeparator (cs : List Char) : Bool := cs.any fun c => c == '/' || c == '\\'

/-- The settings of a generator. -/
structure Settings where
  /-- The name of the owned store. -/
  defaultBackingField : String := Parameters.defaultBackingField
  /-- What the identity of a class's unit ends in. -/
  identitySuffix : String := ".g.cs"
  /-- The namespace that annotations are declared in. -/
  annotationNamespace : String := Annotation.defaultNamespace
  /-- How tokens for global classes are made. -/
  namespaceTokens : TokenPolicy := .random
  /-- Whether classes may be rendered side by side; what is generated does not depend on it. -/
  parallel : Bool := true
  /-- A directory whose templates replace the shipped ones. -/
  templateDir : Option String := none
  deriving DecidableEq, Repr, Inhabited

/-- Why settings cannot be used. -/
inductive SettingsFault where
  /-- A source of settings cannot be read, or holds a value of the wrong sort. -/
  | unreadable
  /-- The default backing field is not an identifier. -/
  | invalidBackingField (value : String)
  /-- The identity suffix holds a path separator. -/
  | separatorInSuffix (value : String)
  /-- The annotation namespace is not made of identifiers. -/
  | invalidNamespace (value : String)
  deriving DecidableEq, Repr

/-- The fault in words. -/
def SettingsFault.message : SettingsFault → String
  | .unreadable => "Parse error"
  | .invalidBackingField value =>
    "Validation error: default_backing_field '" ++ value ++ "' is not a valid identifier"
  | .separatorInSuffix value =>
    "Validation error: identity_suffix '" ++ value ++ "' must not contain path separators"
  | .invalidNamespace value =>
    "Validation error: annotation_namespace '" ++ value ++ "' is not a dotted identifier"

/-- Accepts settings that meet the three conditions. -/
def Settings.validate (s : Settings) : Except SettingsFault Unit :=
  if !isIdentifier s.defaultBackingField.toList then
    .error (.invalidBackingField s.defaultBackingField)
  else if hasSeparator s.identitySuffix.toList then
    .error (.separatorInSuffix s.identitySuffix)
  else if s.annotationNamespace.isEmpty || !isDottedIdentifier s.annotationNamespace.toList then
    .error (.invalidNamespace s.annotationNamespace)
  else .ok ()

end Companion
