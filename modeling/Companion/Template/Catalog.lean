import Companion.Template.Basic
import Companion.Diagnostic

/-!
# Template — catalogs

A catalog holds at most one template for each variant.  `Catalog.locate` is the look-up of a pass: a
miss is a fault of the whole contract, and says which resource was looked for.
-/

namespace Companion

/-- The templates at hand. -/
structure Catalog where
  /-- The template of a variant. -/
  get? : Variant → Option Template

namespace Catalog

/-- No templates. -/
def empty : Catalog := ⟨fun _ => none⟩

/-- Adds a template under its own variant, in place of the one that was there. -/
def insert (c : Catalog) (t : Template) : Catalog :=
  ⟨fun v => if v = t.variant then some t else c.get? v⟩

/-- Adds templates one after the other. -/
def insertAll (c : Catalog) (ts : List Template) : Catalog := ts.foldl insert c

/-- The variants that have a template. -/
def variants (c : Catalog) : List Variant := Variant.all.filter fun v => (c.get? v).isSome

/-- The number of templates. -/
def size (c : Catalog) : Nat := c.variants.length

/-- The template of a variant, or the diagnostic that it is missing. -/
def locate (c : Catalog) (v : Variant) : Except Diagnostic Template :=
  match c.get? v with
  | some t => .ok t
  | none => .error (Diagnostic.missingTemplate v)

theorem get?_empty (v : Variant) : empty.get? v = none := rfl

theorem get?_insert (c : Catalog) (t : Template) (v : Variant) :
    (c.insert t).get? v = if v = t.variant then some t else c.get? v := rfl

end Catalog

end Companion
