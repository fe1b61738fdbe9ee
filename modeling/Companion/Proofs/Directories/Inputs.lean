import Companion.CommandLine.Run
import Companion.Files.Tree
import Companion.Proofs.Passes.Endings

/-!
# Directories — what a run reads

Settings, the snapshot and templates are read from files before anything is written.  What reads
them puts a few questions to the file system, one after the other; so a relation of computations
that holds for these questions, and is kept when computations follow each other, holds for what
reads the inputs.

* `FileSystem.Reads`: relations of that sort, between two file systems.
* `FileSystem.Reads.settings`, `FileSystem.Reads.snapshot`, `FileSystem.Reads.generators`: reading
  the settings and the snapshot, and making generators from templates that are read.
* `FileTree.ReadOnly`: computations that leave a tree as it is; reading is of that sort.
* `SettingsSource.validate_of_load`: settings that were read passed their check.
-/

namespace Companion

/-! ### Questions to file systems -/

namespace FileSystem

variable {m n : Type → Type} [Monad m] [Monad n] [FileSystem m] [FileSystem n]
  {R : (α : Type) → m α → n α → Prop}

/-- A relation between computations in two file systems that reading keeps. -/
structure Reads (R : (α : Type) → m α → n α → Prop) : Prop where
  /-- It holds for computations that do nothing. -/
  pure {α : Type} (a : α) : R α (Pure.pure a) (Pure.pure a)
  /-- It is kept if computations follow each other. -/
  bind {α β : Type} {x : m α} {y : n α} {f : α → m β} {f' : α → n β} :
    R α x y → (∀ a, R β (f a) (f' a)) → R β (x >>= f) (y >>= f')
  /-- It holds for the question whether something is there. -/
  isPresent (path : String) : R Bool (FileSystem.isPresent path) (FileSystem.isPresent path)
  /-- It holds for the question whether there is a file. -/
  isFile (path : String) : R Bool (FileSystem.isFile path) (FileSystem.isFile path)
  /-- It holds for reading a file. -/
  read (path : String) : R (Except String ByteArray) (FileSystem.read path) (FileSystem.read path)

namespace Reads

theorem text (h : Reads R) (path : String) :
    R (Except String String) (readText path) (readText path) := by
  refine h.bind (h.read path) fun answer => ?_
  cases answer with
  | error reason => exact h.pure _
  | ok bytes =>
      dsimp only
      cases String.fromUTF8? bytes <;> exact h.pure _

theorem settingsFile (h : Reads R) (path : String) :
    R _ (SettingsSource.file? path) (SettingsSource.file? path) := by
  refine h.bind (h.isFile path) fun found => ?_
  split
  · exact h.pure _
  · split
    · exact h.pure _
    · refine h.bind (h.isFile _) fun found => ?_
      split <;> exact h.pure _

theorem settingsText (h : Reads R) (source : SettingsSource) : R _ source.text? source.text? := by
  rw [SettingsSource.text?, SettingsSource.text?]
  cases source.path with
  | none => exact h.pure _
  | some path =>
      refine h.bind (h.settingsFile path) fun found => ?_
      cases found with
      | none => exact h.pure _
      | some found =>
          refine h.bind (h.text found) fun answer => ?_
          cases answer <;> exact h.pure _

theorem settings (h : Reads R) (source : SettingsSource) (env : Environment.Variables) :
    R _ (source.load env) (source.load env) := by
  refine h.bind (h.settingsText source) fun text => ?_
  cases text with
  | none => exact h.pure _
  | some text =>
      dsimp only
      cases Toml.read? text <;> exact h.pure _

theorem snapshot (h : Reads R) (path : String) : R _ (Snapshot.load path) (Snapshot.load path) := by
  refine h.bind (h.text path) fun answer => ?_
  cases answer with
  | error reason => exact h.pure _
  | ok text =>
      dsimp only
      cases Snapshot.ofFileText path text <;> exact h.pure _

theorem variant (h : Reads R) (directory : String) (c : Catalog) (v : Variant) :
    R _ (Catalog.loadVariant directory c v) (Catalog.loadVariant directory c v) := by
  refine h.bind (h.isFile _) fun found => ?_
  cases found with
  | false => exact h.pure _
  | true =>
      refine h.bind (h.text _) fun answer => ?_
      cases answer with
      | error reason => exact h.pure _
      | ok content =>
          dsimp only
          cases Template.ofContent v content <;> exact h.pure _

theorem variants (h : Reads R) (directory : String) (c : Catalog) (vs : List Variant) :
    R _ (Catalog.loadVariants directory c vs) (Catalog.loadVariants directory c vs) := by
  induction vs generalizing c with
  | nil => exact h.pure _
  | cons v vs ih =>
      refine h.bind (h.variant directory c v) fun answer => ?_
      cases answer with
      | error fault => exact h.pure _
      | ok c => exact ih c

theorem load (h : Reads R) (c : Catalog) (directory : String) :
    R _ (c.load directory) (c.load directory) := by
  refine h.bind (h.isPresent directory) fun found => ?_
  cases found with
  | false => exact h.pure _
  | true => exact h.variants directory _ _

theorem catalog (h : Reads R) (directory : Option String) :
    R _ (Catalog.shippedWith directory) (Catalog.shippedWith directory) := by
  cases directory with
  | none => exact h.pure _
  | some directory => exact h.load _ directory

theorem generator (h : Reads R) (marker : Annotation) (settings : Settings)
    (random : Nat → String) :
    R _ (Generator.load marker settings random) (Generator.load marker settings random) := by
  refine h.bind (h.catalog settings.templateDir) fun answer => ?_
  cases answer <;> exact h.pure _

theorem generators (h : Reads R) (settings : Settings) (random : RandomTokens)
    (markers : List Annotation) :
    R _ (Generators.loadAll settings random markers)
      (Generators.loadAll settings random markers) := by
  induction markers with
  | nil => exact h.pure _
  | cons marker markers ih =>
      refine h.bind (h.generator marker settings (random marker)) fun answer => ?_
      cases answer with
      | error fault => exact h.pure _
      | ok g =>
          refine h.bind ih fun answer => ?_
          cases answer <;> exact h.pure _

end Reads

end FileSystem

/-! ### Trees -/

namespace FileTree

variable {α β : Type} {x : StateM FileTree α} {f : α → StateM FileTree β}

/-- The computation leaves the tree as it is. -/
def ReadOnly (x : StateM FileTree α) : Prop := ∀ t, (x.run t).2 = t

theorem ReadOnly.bind (hx : ReadOnly x) (hf : ∀ a, ReadOnly (f a)) : ReadOnly (x >>= f) :=
  fun t => (hf _ _).trans (hx t)

/-- Reading leaves a tree as it is. -/
theorem reads_readOnly :
    FileSystem.Reads fun α (x : StateM FileTree α) (_ : StateM FileTree α) => ReadOnly x where
  pure _ _ := rfl
  bind := .bind
  isPresent _ _ := rfl
  isFile _ _ := rfl
  read _ _ := rfl

end FileTree

open FileTree

theorem Snapshot.readOnly_load (path : String) :
    ReadOnly (Snapshot.load path : StateM FileTree _) :=
  reads_readOnly.snapshot path

theorem Catalog.readOnly_shippedWith (directory : Option String) :
    ReadOnly (shippedWith directory : StateM FileTree _) :=
  reads_readOnly.catalog directory

namespace SettingsSource

theorem readOnly_load (source : SettingsSource) (env : Environment.Variables) :
    ReadOnly (source.load env : StateM FileTree _) :=
  reads_readOnly.settings source env

/-- Settings that are used passed the check. -/
theorem validate_of_settings {file given : List (String × SettingValue)} {x : Settings}
    (h : settings file given = .ok x) : x.validate = .ok () := by
  rw [settings] at h
  split at h
  · cases h
  · split at h
    · cases h
    · rename_i hvalid
      cases h
      exact hvalid

theorem validate_of_load {source : SettingsSource} {env : Environment.Variables} {t : FileTree}
    {x : Settings} (h : ((source.load env : StateM FileTree _).run t).1 = .ok x) :
    x.validate = .ok () := by
  rw [load, Sink.run_bind] at h
  generalize ((source.text? : StateM FileTree _).run t).1 = text at h
  cases text with
  | none => exact validate_of_settings h
  | some text =>
      dsimp only at h
      split at h
      · cases h
      · exact validate_of_settings h

end SettingsSource

end Companion
