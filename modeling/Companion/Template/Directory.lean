import Companion.Files.Path
import Companion.Files.System
import Companion.Template.Catalog
import Companion.Template.Shipped

/-!
# Template — directories of templates

Templates can be kept in a directory, in files named by their resources.  Files that are there
replace what a catalog holds; other files and subdirectories do not count.  A directory that is not
there changes nothing.  The first resource, in the order of variants, that cannot be read or is no
template is the one reported.
-/

namespace Companion.Catalog

variable {m : Type → Type} [Monad m] [FileSystem m]

/-- The catalog with the variant's template from the directory, if there is one. -/
def loadVariant (directory : String) (c : Catalog) (v : Variant) :
    m (Except TemplateFault Catalog) := do
  let path := Path.join directory v.resource
  if ← FileSystem.isFile path then
    match ← FileSystem.readText path with
    | .error reason => pure (.error (.unreadable reason))
    | .ok content =>
      match Template.ofContent v content with
      | .error fault => pure (.error fault)
      | .ok t => pure (.ok (c.insert t))
  else pure (.ok c)

/-- The catalog with the templates of the variants from the directory. -/
def loadVariants (directory : String) : Catalog → List Variant → m (Except TemplateFault Catalog)
  | c, [] => pure (.ok c)
  | c, v :: vs => do
    match ← loadVariant directory c v with
    | .error fault => pure (.error fault)
    | .ok c => loadVariants directory c vs

/-- The catalog with the templates from the directory. -/
def load (c : Catalog) (directory : String) : m (Except TemplateFault Catalog) := do
  if ← FileSystem.isPresent directory then loadVariants directory c Variant.all
  else pure (.ok c)

/-- The shipped templates, with those from the directory in their place. -/
def shippedWith (directory : Option String) : m (Except TemplateFault Catalog) :=
  match directory with
  | some d => shipped.load d
  | none => pure (.ok shipped)

end Companion.Catalog
