import Companion.Contract

/-!
# Annotation — how a class asks for a contract

An annotation asks for one contract.  It is written with two arguments: the element type, and the
name of the field that holds the elements, which may be left out.
-/

namespace Companion

/-- The name of a member of a namespace; the global namespace has the empty name. -/
def qualified (scope name : String) : String :=
  if scope.isEmpty then name else scope ++ "." ++ name

/-- What an annotation is called, what its parameters are called, and what it asks for. -/
structure Annotation where
  /-- The name of the annotation class. -/
  name : String
  /-- The parameter that takes the element type. -/
  elementParameter : String
  /-- The parameter that takes the name of the backing field. -/
  backingParameter : String
  /-- The contract that the annotation asks for. -/
  contract : Contract
  deriving DecidableEq, Repr

namespace Annotation

/-- The namespace that annotations are declared in unless the settings say otherwise. -/
def defaultNamespace : String := "AutoCollection"

/-- The annotation for the read-only collection. -/
def readOnlyList : Annotation :=
  ⟨"GenerateReadOnlyList", "collectionType", "backingField", .readOnlyList⟩

/-- The annotation for the mutable collection. -/
def list : Annotation := ⟨"GenerateList", "collectionType", "backingField", .list⟩

/-- Every annotation, in the order of their contracts. -/
def all : List Annotation := [readOnlyList, list]

/-- The annotation's full name within a namespace. -/
def metadataName (a : Annotation) (scope : String) : String := qualified scope a.name

end Annotation

/-- The annotation that asks for the contract. -/
def Contract.marker : Contract → Annotation
  | .readOnlyList => .readOnlyList
  | .list => .list

end Companion
