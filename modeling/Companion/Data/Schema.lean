import Companion.Candidate
import Companion.Data.Format
import Companion.Settings.Basic
import Companion.SourceUnit

/-!
# Data — how each type is made up

For each type that is read from data, its fields with their names and defaults, or its alternatives.
The descriptions serve every format.
-/

namespace Companion

/-- The values of a type by their names. -/
def named {α : Type} (all : List α) (name : α → String) : List (String × α) :=
  all.map fun a => (name a, a)

section

variable {ν : Type} [DataFormat ν]

/-! ### What the host compiler hands over -/

/-- Reads an accessibility. -/
def Accessibility.read : ν → Reading Accessibility := Format.choice (named all name)

/-- Reads a kind of declaration. -/
def DeclarationKind.read : ν → Reading DeclarationKind := Format.choice (named all name)

/-- The alternatives of an argument. -/
def Argument.tagged : Tagged Argument where
  name := "ArgumentValue"
  tag := "kind"
  content := "value"
  alternatives :=
    [("null", .bare "Null" .null), ("type", .holding .type), ("string", .holding .string)]

/-- Reads an argument. -/
def Argument.read : ν → Reading Argument := DataFormat.tagged Argument.tagged

/-- The fields of an attached annotation. -/
def Attribute.record : Record ν Attribute :=
  Attribute.mk <$> .required "name" Format.text
    <*> .defaulted "namespace" Format.text ""
    <*> .defaulted "parameters" (DataFormat.list Format.text) []
    <*> .defaulted "arguments" (DataFormat.list Argument.read) []

/-- Reads an attached annotation. -/
def Attribute.read : ν → Reading Attribute := Format.record "AttributeInstance" Attribute.record

/-- The fields of a declaration. -/
def Declaration.record : Record ν Declaration :=
  Declaration.mk <$> .required "symbol" DataFormat.natural
    <*> .required "kind" DeclarationKind.read
    <*> .required "name" Format.text
    <*> .defaulted "namespace" (Format.optional Format.text) none
    <*> .required "accessibility" Accessibility.read
    <*> .defaulted "is_partial" Format.flag false
    <*> .defaulted "attributes" (DataFormat.list Attribute.read) []

/-- Reads a declaration. -/
def Declaration.read : ν → Reading Declaration := Format.record "TypeDeclaration" Declaration.record

/-- The fields of a snapshot. -/
def Snapshot.record : Record ν Snapshot :=
  Snapshot.mk <$> .defaulted "assembly_name" Format.text ""
    <*> .defaulted "declarations" (DataFormat.list Declaration.read) []

/-- Reads a snapshot. -/
def Snapshot.read : ν → Reading Snapshot := Format.record "CompilationSnapshot" Snapshot.record

/-! ### What is generated and reported -/

/-- Reads a contract. -/
def Contract.read : ν → Reading Contract := Format.choice (named all name)

/-- Reads a shape. -/
def Shape.read : ν → Reading Shape := Format.choice (named all name)

/-- The fields of a class's parameters. -/
def Parameters.record : Record ν Parameters :=
  Parameters.mk <$> .required "element_type" Format.text
    <*> .optional "backing_field" (Format.optional Format.text)

/-- Reads a class's parameters. -/
def Parameters.read : ν → Reading Parameters :=
  Format.record "GenerationParameters" Parameters.record

/-- The fields of a unit. -/
def SourceUnit.record : Record ν SourceUnit :=
  SourceUnit.mk <$> .required "identity" Format.text <*> .required "text" Format.text

/-- Reads a unit. -/
def SourceUnit.read : ν → Reading SourceUnit := Format.record "RenderedUnit" SourceUnit.record

/-- Reads a severity. -/
def Severity.read : ν → Reading Severity := Format.choice (named all name)

/-- The fields of a report. -/
def Diagnostic.record : Record ν Diagnostic :=
  Diagnostic.mk <$> .required "id" Format.text
    <*> .required "severity" Severity.read
    <*> .required "message" Format.text
    <*> .optional "symbol" (Format.optional DataFormat.natural)
    <*> .optional "type_name" (Format.optional Format.text)

/-- Reads a report. -/
def Diagnostic.read : ν → Reading Diagnostic := Format.record "Diagnostic" Diagnostic.record

end

/-! ### Settings -/

section

variable {ν : Type} [Format ν]

/-- Reads how tokens are made. -/
def TokenPolicy.read : ν → Reading TokenPolicy := Format.choice (named all name)

/-- The fields of the settings. -/
def Settings.record : Record ν Settings :=
  let standard : Settings := {}
  Settings.mk <$> .defaulted "default_backing_field" Format.text standard.defaultBackingField
    <*> .defaulted "identity_suffix" Format.text standard.identitySuffix
    <*> .defaulted "annotation_namespace" Format.text standard.annotationNamespace
    <*> .defaulted "namespace_tokens" TokenPolicy.read standard.namespaceTokens
    <*> .defaulted "parallel" Format.flag standard.parallel
    <*> .defaulted "template_dir" (Format.optional Format.path) standard.templateDir

/-- Reads settings. -/
def Settings.read : ν → Reading Settings := Format.record "GeneratorConfig" Settings.record

end

end Companion
