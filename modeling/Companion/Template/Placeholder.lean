/-!
# Template — placeholders

The five names that a template leaves open.  In a template a placeholder is written as its *token*,
the name between braces.  Names are matched exactly: case, blanks and line ends count.

`PlaceholderSet` is a set of placeholders that is listed in canonical order.
-/

namespace Companion

/-- A name that a template leaves open. -/
inductive Placeholder where
  /-- The text of the element type. -/
  | collectionType
  /-- The name of the field that holds the elements. -/
  | backingField
  /-- The namespace that the fragment is placed in. -/
  | «namespace»
  /-- The name of the class. -/
  | className
  /-- The accessibility of the class, as keywords. -/
  | accessor
  deriving DecidableEq, Repr, Inhabited

namespace Placeholder

/-- Every placeholder, in canonical order. -/
def all : List Placeholder := [.collectionType, .backingField, .namespace, .className, .accessor]

/-- The name between the braces. -/
def name : Placeholder → String
  | .collectionType => "CollectionType"
  | .backingField => "BackingField"
  | .namespace => "Namespace"
  | .className => "ClassName"
  | .accessor => "Accessor"

/-- The name with its braces. -/
def token (p : Placeholder) : String := "\x7b" ++ p.name ++ "\x7d"

/-- The placeholder of a name. -/
def ofName? (s : String) : Option Placeholder := all.find? fun p => p.name == s

theorem mem_all (p : Placeholder) : p ∈ all := by
  cases p <;> decide

theorem ofName?_name (p : Placeholder) : ofName? p.name = some p := by
  cases p <;> decide

theorem name_of_ofName? {s : String} {p : Placeholder} (h : ofName? s = some p) : p.name = s := by
  simpa using List.find?_some h

end Placeholder

/-! ### Sets -/

/-- A set of placeholders. -/
structure PlaceholderSet where
  /-- The placeholders, in canonical order and each once. -/
  toList : List Placeholder
  /-- They are listed so. -/
  ordered : toList.Sublist Placeholder.all
  deriving DecidableEq, Repr

namespace PlaceholderSet

variable {s : PlaceholderSet} {p q : Placeholder}

instance : Membership Placeholder PlaceholderSet := ⟨fun s p => p ∈ s.toList⟩

/-- No placeholders. -/
def empty : PlaceholderSet := ⟨[], List.nil_sublist _⟩

/-- Whether the placeholder is in the set. -/
def contains (s : PlaceholderSet) (p : Placeholder) : Bool := s.toList.contains p

/-- Adds a placeholder; one that is there already changes nothing. -/
def insert (s : PlaceholderSet) (p : Placeholder) : PlaceholderSet where
  toList := Placeholder.all.filter fun q => q == p || s.contains q
  ordered := List.filter_sublist

theorem contains_iff_mem : s.contains p = true ↔ p ∈ s := List.contains_iff_mem

theorem not_mem_empty (p : Placeholder) : p ∉ empty := List.not_mem_nil

theorem mem_insert : q ∈ s.insert p ↔ q = p ∨ q ∈ s := by
  change q ∈ Placeholder.all.filter (fun q => q == p || s.contains q) ↔ _
  rw [List.mem_filter, Bool.or_eq_true, beq_iff_eq, contains_iff_mem]
  exact and_iff_right q.mem_all

end PlaceholderSet

end Companion
