/-!
# Contract — what a companion implements

A *contract* is a collection interface that a class can ask to have implemented for it.  A companion
comes in two *shapes*: either it owns its backing store, or it delegates to a field of the class.  A
template is written for one contract and one shape, a *variant*; `Variant.all` fixes the order in
which variants are looked up, loaded and reported.
-/

namespace Companion

/-- A collection interface that can be implemented. -/
inductive Contract where
  /-- The read-only indexed collection. -/
  | readOnlyList
  /-- The mutable indexed collection. -/
  | list
  deriving DecidableEq, Repr, Inhabited

namespace Contract

/-- Every contract, in the order in which they are run. -/
def all : List Contract := [.readOnlyList, .list]

/-- The name in template resources, output directories and reports. -/
def name : Contract → String
  | .readOnlyList => "ReadOnlyList"
  | .list => "List"

/-- The interface that the generated fragment implements. -/
def interfaceName : Contract → String
  | .readOnlyList => "IReadOnlyList"
  | .list => "IList"

end Contract

/-- Who holds the elements of a generated collection. -/
inductive Shape where
  /-- The fragment owns a private store and a constructor. -/
  | autoBacked
  /-- The fragment delegates to a field that the class declares. -/
  | userBacked
  deriving DecidableEq, Repr, Inhabited

namespace Shape

/-- Every shape, the owning one first. -/
def all : List Shape := [.autoBacked, .userBacked]

/-- The name of the shape. -/
def name : Shape → String
  | .autoBacked => "AutoBacked"
  | .userBacked => "UserBacked"

/-- The middle part of a template resource's name. -/
def resourcePart : Shape → String
  | .autoBacked => "Default"
  | .userBacked => "Backed"

end Shape

/-- A pair of contract and shape: what one template is written for. -/
structure Variant where
  /-- The contract. -/
  contract : Contract
  /-- The shape. -/
  shape : Shape
  deriving DecidableEq, Repr, Inhabited

namespace Variant

/-- Every variant, contract by contract, the owning shape first. -/
def all : List Variant := Contract.all.flatMap fun c => Shape.all.map fun s => ⟨c, s⟩

/-- The file name of the variant's template. -/
def resource (v : Variant) : String :=
  v.contract.name ++ "." ++ v.shape.resourcePart ++ ".txt"

theorem mem_all (v : Variant) : v ∈ all := by
  rcases v with ⟨c, s⟩
  cases c <;> cases s <;> decide

end Variant

end Companion
