import Companion.Generator
import Companion.Template.Directory

/-!
# Generators — every contract at once

A set of generators runs each contract over the same snapshot, one after the other.  Each has a
unit store of its own, and a failure of one does not keep the others from running.  The host's
answers are used up in order: a contract goes on asking where the one before it stopped.

The generators of a set have the same settings.  If these name a directory of templates, each
generator reads it for itself; if one of them cannot use what it finds, there is no set.
-/

namespace Companion

/-- How one contract's pass ended, and the units it published. -/
structure ContractRun where
  /-- The contract. -/
  contract : Contract
  /-- The units published. -/
  output : UnitStore
  /-- The report, or why the pass ended early. -/
  outcome : Except Failure Report

/-- The generators that run over a snapshot. -/
abbrev Generators := List Generator

/-- For each annotation, the stream that its generator draws random tokens from. -/
abbrev RandomTokens := Annotation → Nat → String

/-- A generator for the annotation, which reads the templates that the settings name. -/
def Generator.load {m : Type → Type} [Monad m] [FileSystem m] (marker : Annotation)
    (settings : Settings) (random : Nat → String) : m (Except TemplateFault Generator) := do
  match ← (Catalog.shippedWith settings.templateDir : m (Except TemplateFault Catalog)) with
  | .error fault => pure (.error fault)
  | .ok catalog => pure (.ok (.create marker settings catalog random))

namespace Generators

/-- A generator for each annotation, with the same settings and templates; each has tokens of its
own. -/
def create (settings : Settings) (catalog : Catalog) (random : RandomTokens) : Generators :=
  Annotation.all.map fun a => Generator.create a settings catalog (random a)

/-- Generators for annotations, with the same settings; each reads the templates for itself, one
after the other, until one cannot use them. -/
def loadAll {m : Type → Type} [Monad m] [FileSystem m] (settings : Settings)
    (random : RandomTokens) : List Annotation → m (Except TemplateFault Generators)
  | [] => pure (.ok [])
  | a :: as => do
    match ← (Generator.load a settings (random a) : m (Except TemplateFault Generator)) with
    | .error fault => pure (.error fault)
    | .ok g =>
      match ← (loadAll settings random as : m (Except TemplateFault Generators)) with
      | .error fault => pure (.error fault)
      | .ok gs => pure (.ok (g :: gs))

/-- A generator for each annotation. -/
def load {m : Type → Type} [Monad m] [FileSystem m] (settings : Settings)
    (random : RandomTokens) : m (Except TemplateFault Generators) :=
  loadAll settings random Annotation.all

/-- One contract's pass into a fresh unit store. -/
def runOne (g : Generator) (s : Snapshot) (signal : Signal) :
    ContractRun × Generator × Signal :=
  let (pass, output) := (g.pass s UnitStore.sink signal).run UnitStore.empty
  (⟨g.contract, output, pass.outcome⟩, pass.generator, pass.signal)

/-- Every contract's pass. -/
def run (s : Snapshot) : Signal → Generators → List ContractRun × Generators × Signal
  | signal, [] => ([], [], signal)
  | signal, g :: gs =>
    let (one, g, signal) := runOne g s signal
    let (others, gs, signal) := run s signal gs
    (one :: others, g :: gs, signal)

/-- The units of each contract whose pass succeeded. -/
def collect (runs : List ContractRun) : List (Contract × List SourceUnit) :=
  (runs.filter fun r => r.outcome.toOption.isSome).map fun r => (r.contract, r.output.inOrder)

end Generators

end Companion
