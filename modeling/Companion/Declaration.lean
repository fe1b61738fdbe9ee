import Companion.Annotation

/-!
# Declaration — what the host compiler knows

The host compiler reads source text and hands over a `Snapshot`: the type declarations it resolved,
each with the annotations attached to it.  Nothing here is checked; a declaration may have any text
as its name.
-/

namespace Companion

/-- The host's handle of a declared type. -/
abbrev SymbolId := UInt64

/-- Who may use a type. -/
inductive Accessibility where
  /-- Everyone. -/
  | «public»
  /-- The same assembly. -/
  | internal
  /-- Derived types. -/
  | «protected»
  /-- The enclosing type. -/
  | «private»
  /-- Derived types, and the same assembly. -/
  | protectedInternal
  /-- Derived types in the same assembly. -/
  | privateProtected
  deriving DecidableEq, Repr, Inhabited

namespace Accessibility

/-- Every accessibility. -/
def all : List Accessibility :=
  [.public, .internal, .protected, .private, .protectedInternal, .privateProtected]

/-- The name in data. -/
def name : Accessibility → String
  | .public => "public"
  | .internal => "internal"
  | .protected => "protected"
  | .private => "private"
  | .protectedInternal => "protected_internal"
  | .privateProtected => "private_protected"

/-- The keywords in source text. -/
def keyword : Accessibility → String
  | .public => "public"
  | .internal => "internal"
  | .protected => "protected"
  | .private => "private"
  | .protectedInternal => "protected internal"
  | .privateProtected => "private protected"

end Accessibility

/-- What sort of type is declared. -/
inductive DeclarationKind where
  /-- A class. -/
  | «class»
  /-- A value type. -/
  | struct
  /-- A record. -/
  | record
  /-- An interface. -/
  | interface
  /-- An enumeration. -/
  | enum
  deriving DecidableEq, Repr, Inhabited

namespace DeclarationKind

/-- Every kind. -/
def all : List DeclarationKind := [.class, .struct, .record, .interface, .enum]

/-- The name in data. -/
def name : DeclarationKind → String
  | .class => "class"
  | .struct => "struct"
  | .record => "record"
  | .interface => "interface"
  | .enum => "enum"

/-- The name in messages. -/
def label : DeclarationKind → String
  | .class => "Class"
  | .struct => "Struct"
  | .record => "Record"
  | .interface => "Interface"
  | .enum => "Enum"

end DeclarationKind

/-- A resolved argument of an annotation. -/
inductive Argument where
  /-- The null value. -/
  | null
  /-- A type, by its text. -/
  | type (text : String)
  /-- A string. -/
  | string (text : String)
  deriving DecidableEq, Repr, Inhabited

/-- The text of an argument that is not null. -/
def Argument.text? : Argument → Option String
  | .null => none
  | .type text => some text
  | .string text => some text

/-- An annotation as it is attached to a declaration. -/
structure Attribute where
  /-- The name of the annotation class. -/
  name : String
  /-- The namespace of the annotation class, empty for the global one. -/
  «namespace» : String := ""
  /-- The constructor's parameters. -/
  parameters : List String := []
  /-- The constructor's arguments, in the order of the parameters. -/
  arguments : List Argument := []
  deriving DecidableEq, Repr, Inhabited

/-- The full name of the annotation class. -/
def Attribute.metadataName (a : Attribute) : String := qualified a.namespace a.name

/-- A resolved type declaration. -/
structure Declaration where
  /-- The host's handle. -/
  symbol : SymbolId
  /-- What is declared. -/
  kind : DeclarationKind
  /-- The type's name. -/
  name : String
  /-- The namespace, if it is not the global one. -/
  «namespace» : Option String := none
  /-- Who may use the type. -/
  accessibility : Accessibility
  /-- Whether the declaration may be continued elsewhere. -/
  isPartial : Bool := false
  /-- The annotations, in source order. -/
  attributes : List Attribute := []
  deriving DecidableEq, Repr, Inhabited

/-- Whether an annotation of this full name is attached. -/
def Declaration.hasAttribute (d : Declaration) (metadataName : String) : Bool :=
  d.attributes.any fun a => a.metadataName == metadataName

/-- The declarations of a compilation, in the host's order. -/
structure Snapshot where
  /-- The name of the assembly. -/
  assemblyName : String := ""
  /-- The declarations. -/
  declarations : List Declaration := []
  deriving DecidableEq, Repr, Inhabited

end Companion
