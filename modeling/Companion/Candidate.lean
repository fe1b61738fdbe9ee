import Companion.Diagnostic
import Companion.Text.Blank

/-!
# Candidate — an annotated class and what it asks for

A candidate is a class declaration that was selected for an annotation.  Its parameters are read
from the first attached annotation of the right name.  That annotation's parameter names are paired
with its arguments from the front; what is left over on either side is dropped, and of two arguments
for one name the later counts.

* `Candidate.attribute?` finds the annotation.
* `Parameters.ofArguments` reads the parameters: the element type must be there, and not blank; a
  backing field that is absent, null or blank is none.  Texts are kept as they are written.
* `Parameters.ofCandidate` does both.
* `Parameters.resolve` decides the shape: a class that names a field delegates to it.
-/

namespace Companion

/-- A class declaration selected for an annotation. -/
structure Candidate where
  /-- The host's handle. -/
  symbol : SymbolId
  /-- The namespace, empty for the global one. -/
  «namespace» : String
  /-- Who may use the class. -/
  accessibility : Accessibility
  /-- The name of the class. -/
  name : String
  /-- Whether the class may be continued elsewhere. -/
  isPartial : Bool
  /-- The annotations, in source order. -/
  attributes : List Attribute
  deriving DecidableEq, Repr

/-- Arguments by the names of their parameters. -/
abbrev Arguments := List (String × Argument)

namespace Arguments

/-- The argument of a name: the last one given. -/
def get? (arguments : Arguments) (name : String) : Option Argument :=
  arguments.reverse.lookup name

/-- The text of a name's argument, unless it is null or blank. -/
def text? (arguments : Arguments) (name : String) : Option String :=
  match (arguments.get? name).bind Argument.text? with
  | some text => if Text.isBlank text then none else some text
  | none => none

end Arguments

/-- The arguments of an attached annotation by the names of their parameters. -/
def Attribute.named (a : Attribute) : Arguments := a.parameters.zip a.arguments

/-- What a class asks for. -/
structure Parameters where
  /-- The text of the element type. -/
  elementType : String
  /-- The field that holds the elements, if the class names one. -/
  backingField : Option String
  deriving DecidableEq, Repr

/-- The shape, field and template that follow from the parameters. -/
structure Resolution where
  /-- The shape. -/
  shape : Shape
  /-- The field that holds the elements. -/
  backingField : String
  /-- The variant to render. -/
  variant : Variant
  deriving DecidableEq, Repr

namespace Candidate

/-- The declaration as a candidate. -/
def ofDeclaration (d : Declaration) : Candidate :=
  ⟨d.symbol, d.namespace.getD "", d.accessibility, d.name, d.isPartial, d.attributes⟩

/-- Whether the class is in the global namespace. -/
def isGlobal (c : Candidate) : Bool := c.namespace.isEmpty

/-- The first attached annotation of the right name. -/
def attribute? (c : Candidate) (a : Annotation) : Except Diagnostic Attribute :=
  match c.attributes.find? fun x => x.name == a.name with
  | some x => .ok x
  | none => .error (.forDeclaration Code.annotationNotMatched.id c.symbol c.name
      ("no '" ++ a.name ++ "' annotation found on '" ++ c.name ++ "'"))

/-- The class cannot be continued. -/
def notPartial (c : Candidate) (contract : Contract) : Diagnostic :=
  .forDeclaration Code.notPartial.id c.symbol c.name
    ("'" ++ c.name ++ "' must be declared partial to receive a generated " ++
      contract.interfaceName ++ " implementation")

end Candidate

namespace Parameters

/-- The parameters that the arguments give. -/
def ofArguments (c : Candidate) (a : Annotation) (arguments : Arguments) :
    Except Diagnostic Parameters :=
  match arguments.text? a.elementParameter with
  | some elementType => .ok ⟨elementType, arguments.text? a.backingParameter⟩
  | none => .error (.forDeclaration Code.missingElementType.id c.symbol c.name
      ("'" ++ a.name ++ "' on '" ++ c.name ++ "' requires a '" ++ a.elementParameter ++
        "' argument"))

/-- The parameters that the candidate's annotation gives. -/
def ofCandidate (c : Candidate) (a : Annotation) : Except Diagnostic Parameters :=
  match c.attribute? a with
  | .ok found => ofArguments c a found.named
  | .error d => .error d

/-- The shape that the parameters imply. -/
def shape (p : Parameters) : Shape :=
  if p.backingField.isSome then .userBacked else .autoBacked

/-- The name of the owned store unless the settings say otherwise. -/
def defaultBackingField : String := "_items"

/-- The shape, the field and the variant; an owned store has the default name. -/
def resolve (p : Parameters) (defaultField : String) (contract : Contract) : Resolution :=
  ⟨p.shape, p.backingField.getD defaultField, ⟨contract, p.shape⟩⟩

end Parameters

end Companion
