import Companion.Contract
import Companion.Template.Segment

/-!
# Template — templates

A template is a body for one variant that names every placeholder.  A body that leaves one out is
refused when the template is made, so that nothing is found missing when a class is rendered.

* `check` refuses a body in which a placeholder was not found, and names the first one missing.
* `Template.ofContent` reads and checks a body.
-/

namespace Companion

/-- Why a template cannot be used. -/
inductive TemplateFault where
  /-- The body of this resource does not name the placeholder. -/
  | missingPlaceholder (resource : String) (placeholder : Placeholder)
  /-- The body of this resource is empty. -/
  | empty (resource : String)
  /-- The resource cannot be read, for the reason given. -/
  | unreadable (reason : String)
  deriving DecidableEq, Repr

namespace TemplateFault

/-- The fault in words. -/
def message : TemplateFault → String
  | .missingPlaceholder resource p =>
    "Template " ++ resource ++ " is missing placeholder " ++ p.token
  | .empty resource => "Template " ++ resource ++ " is empty"
  | .unreadable reason => "IO error: " ++ reason

end TemplateFault

/-- The first placeholder, in canonical order, that is not in the set. -/
def missing? (found : PlaceholderSet) : Option Placeholder :=
  Placeholder.all.find? fun p => !found.contains p

/-- Accepts a body in which every placeholder was found. -/
def check (resource : String) (body : Body) : Except TemplateFault Unit :=
  if body.segments.isEmpty then .error (.empty resource)
  else match missing? body.placeholders with
    | some p => .error (.missingPlaceholder resource p)
    | none => .ok ()

/-- A body for one variant. -/
structure Template where
  /-- What the body is written for. -/
  variant : Variant
  /-- The body, as it was written. -/
  content : String
  /-- The body, as it was read. -/
  body : Body
  deriving DecidableEq, Repr

/-- Reads and checks a body. -/
def Template.ofContent (variant : Variant) (content : String) : Except TemplateFault Template :=
  let body := parse content
  match check variant.resource body with
  | .ok () => .ok ⟨variant, content, body⟩
  | .error fault => .error fault

end Companion
