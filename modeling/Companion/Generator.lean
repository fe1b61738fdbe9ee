import Companion.Failure
import Companion.Memo
import Companion.Settings.Basic
import Companion.Template.Catalog
import Companion.UnitStore

/-!
# Generator — one contract over changing snapshots

A generator serves one annotation.  A pass over a snapshot

1. publishes the unit that declares the annotation,
2. finds the annotated classes, and reports annotated declarations that are not classes,
3. reads what each class asks for; one that cannot be served is reported,
4. plans each unit: one remembered for an equal request is reused, any other is to be rendered under
   a scope, for which a token is drawn if the class is global,
5. looks for the templates that are needed; a miss ends the pass,
6. renders the units, unless the host asks to stop meanwhile,
7. refuses identities that occur twice,
8. publishes the units in the host's order and remembers each one that is accepted, and
9. forgets what was remembered for requests that no longer occur.

Steps 2 to 7 neither publish nor remember: `Generator.batch` is a function of the generator, the
snapshot and the host's answers.  Only publication meets the sink, which may be in any monad.
-/

namespace Companion

/-! ### Asking whether to stop -/

/-- The host's answers to the question whether to stop, and how often it was asked. -/
structure Signal where
  /-- The answer to the `n`-th question. -/
  answer : Nat → Bool
  /-- How often the host was asked. -/
  asked : Nat := 0

namespace Signal

/-- The host never asks to stop. -/
def never : Signal := ⟨fun _ => false, 0⟩

/-- The host asks to stop from the `n`-th question on. -/
def since (n : Nat) : Signal := ⟨fun i => n ≤ i, 0⟩

/-- The host has asked to stop, or has not, before the first question. -/
def flag (tripped : Bool) : Signal := ⟨fun _ => tripped, 0⟩

end Signal

/-! ### Requests and plans -/

/-- A class that can be served, and what it asks for. -/
structure Request where
  /-- The class. -/
  candidate : Candidate
  /-- What it asks for. -/
  parameters : Parameters
  /-- The shape, field and variant that follow. -/
  resolution : Resolution
  /-- The key under which its unit is remembered. -/
  key : MemoKey
  deriving DecidableEq, Repr

/-- Where a unit comes from. -/
inductive Plan where
  /-- It is remembered. -/
  | reuse (unit : SourceUnit)
  /-- It is rendered under the scope. -/
  | render (scope : Scope)
  deriving DecidableEq, Repr

/-- A unit that is ready to be published. -/
structure Ready where
  /-- The key under which it is remembered. -/
  key : MemoKey
  /-- The unit. -/
  unit : SourceUnit
  /-- Whether it was remembered before. -/
  reused : Bool
  deriving DecidableEq, Repr

namespace Request

/-- The plan for a request's unit. -/
def plan (r : Request) (memo : Memo) (tokens : TokenSource) : Plan × TokenSource :=
  match memo.get? r.key with
  | some unit => (.reuse unit, tokens)
  | none =>
    let (scope, rest) := Scope.ofCandidate r.candidate tokens
    (.render scope, rest)

/-- The plans for requests, tokens being drawn in their order. -/
def planAll (memo : Memo) : TokenSource → List Request → List (Request × Plan) × TokenSource
  | tokens, [] => ([], tokens)
  | tokens, r :: rs =>
    let (plan, tokens) := r.plan memo tokens
    let (plans, tokens) := planAll memo tokens rs
    ((r, plan) :: plans, tokens)

/-- The class as the rendering takes it. -/
def rendering (r : Request) (scope : Scope) : Rendering :=
  ⟨r.candidate.name, scope, r.candidate.accessibility, r.parameters.elementType,
    r.resolution.backingField⟩

/-- The unit of a plan; none if its template is missing. -/
def ready? (r : Request) (catalog : Catalog) (suffix : String) : Plan → Option Ready
  | .reuse unit => some ⟨r.key, unit, true⟩
  | .render scope =>
    (catalog.get? r.resolution.variant).map fun t =>
      ⟨r.key, (r.rendering scope).unit t suffix, false⟩

end Request

/-! ### Generators -/

/-- How often units were reused, rendered and forgotten in a pass. -/
structure CacheStats where
  /-- Units reused. -/
  hits : Nat := 0
  /-- Units rendered. -/
  misses : Nat := 0
  /-- Units forgotten. -/
  evicted : Nat := 0
  deriving DecidableEq, Repr, Inhabited

/-- What a pass that ran to its end reports. -/
structure Report where
  /-- The contract. -/
  contract : Contract
  /-- The identity of the annotation's unit. -/
  definition : String
  /-- The identities of the classes' units, in the host's order. -/
  published : List String
  /-- The reports about candidates. -/
  diagnostics : List Diagnostic
  /-- How often units were reused, rendered and forgotten. -/
  cache : CacheStats
  deriving DecidableEq, Repr

/-- Generates companions for one annotation. -/
structure Generator where
  /-- The annotation. -/
  marker : Annotation
  /-- The settings. -/
  settings : Settings
  /-- The templates. -/
  catalog : Catalog
  /-- The tokens. -/
  tokens : TokenSource
  /-- The units remembered. -/
  memo : Memo := {}

namespace Generator

/-- A generator that remembers nothing yet; `random` is the stream that it draws random tokens
from. -/
def create (marker : Annotation) (settings : Settings) (catalog : Catalog)
    (random : Nat → String) : Generator :=
  { marker, settings, catalog, tokens := settings.namespaceTokens.source random }

/-- Replaces the templates, and forgets what was rendered from the old ones. -/
def withCatalog (g : Generator) (catalog : Catalog) : Generator :=
  { g with catalog, memo := {} }

/-- Replaces the tokens. -/
def withTokens (g : Generator) (tokens : TokenSource) : Generator := { g with tokens }

/-- The contract that is served. -/
def contract (g : Generator) : Contract := g.marker.contract

/-- The unit that declares the annotation. -/
def definition (g : Generator) : SourceUnit :=
  g.marker.definition g.settings.annotationNamespace

/-- Whether the declaration carries the annotation. -/
def isAnnotated (g : Generator) (d : Declaration) : Bool :=
  d.hasAttribute (g.marker.metadataName g.settings.annotationNamespace)

/-- The annotated classes, in the host's order. -/
def discover (g : Generator) (s : Snapshot) : List Candidate :=
  (s.declarations.filter fun d => g.isAnnotated d && d.kind == .class).map Candidate.ofDeclaration

/-- A report for each annotated declaration that is not a class, in the host's order. -/
def skipped (g : Generator) (s : Snapshot) : List Diagnostic :=
  (s.declarations.filter fun d => g.isAnnotated d && d.kind != .class).map
    (Diagnostic.notAClass g.marker)

/-- What a class asks for, or why it cannot be served. -/
def request (g : Generator) (c : Candidate) : Except Diagnostic Request :=
  if !c.isPartial then .error (c.notPartial g.contract)
  else match Parameters.ofCandidate c g.marker with
    | .error d => .error d
    | .ok p => .ok
      { candidate := c
        parameters := p
        resolution := p.resolve g.settings.defaultBackingField g.contract
        key := ⟨g.contract, c.namespace, c.name, c.accessibility, p⟩ }

/-- The classes that can be served. -/
def requests (g : Generator) (s : Snapshot) : List Request :=
  (g.discover s).filterMap fun c => (g.request c).toOption

/-- Why the other classes cannot be served. -/
def rejected (g : Generator) (s : Snapshot) : List Diagnostic :=
  (g.discover s).filterMap fun c =>
    match g.request c with
    | .error d => some d
    | .ok _ => none

/-- The reports about candidates: first those that are no classes. -/
def diagnostics (g : Generator) (s : Snapshot) : List Diagnostic := g.skipped s ++ g.rejected s

/-- The first variant that is needed and has no template. -/
def missing? (g : Generator) (requests : List Request) : Option Variant :=
  Variant.all.find? fun v =>
    (requests.any fun r => r.resolution.variant == v) && (g.catalog.get? v).isNone

/-- The first identity that occurs among those before it. -/
def repeated? : List String → List String → Option String
  | _, [] => none
  | seen, i :: is => if seen.contains i then some i else repeated? (i :: seen) is

/-- What a pass prepares before it publishes the classes' units. -/
structure Batch where
  /-- The units, or why there are none. -/
  units : Except Failure (List Ready)
  /-- The tokens left. -/
  tokens : TokenSource
  /-- The host's answers left. -/
  signal : Signal

/-- Finds, reads, plans and renders.  The host is asked once before the first unit is rendered, once
with each unit, and once after the last; `turn` says which question comes with the `i`-th unit, and
so in which order the units are rendered. -/
def batch (g : Generator) (s : Snapshot) (signal : Signal) (turn : Nat → Nat) : Batch :=
  let requests := g.requests s
  let (plans, tokens) := Request.planAll g.memo g.tokens requests
  match g.missing? requests with
  | some v =>
    { units := .error (.missingTemplate (.missingTemplate v) (g.diagnostics s)), tokens, signal }
  | none =>
    let first := signal.asked
    if signal.answer first then
      { units := .error .cancelled, tokens, signal := { signal with asked := first + 1 } }
    else
      let rendered := plans.mapIdx fun i (r, plan) =>
        if signal.answer (first + 1 + turn i) then none
        else r.ready? g.catalog g.settings.identitySuffix plan
      let last := first + 1 + plans.length
      let signal := { signal with asked := last + 1 }
      match signal.answer last, rendered.mapM id with
      | false, some ready =>
        match repeated? [g.definition.identity] (ready.map (·.unit.identity)) with
        | some identity => { units := .error (.collision identity), tokens, signal }
        | none => { units := .ok ready, tokens, signal }
      | _, _ => { units := .error .cancelled, tokens, signal }

/-- The units accepted so far, and the memo with them. -/
structure Tally where
  /-- The units accepted. -/
  accepted : List Ready := []
  /-- The memo. -/
  memo : Memo

/-- Publishes units until one is refused. -/
def publishAll {m : Type → Type} [Monad m] (sink : Sink m) :
    Tally → List Ready → m (Tally × Option Failure)
  | tally, [] => pure (tally, none)
  | tally, r :: rs => do
    match ← sink r.unit with
    | .error failure => pure (tally, some failure)
    | .ok () => publishAll sink ⟨tally.accepted ++ [r], tally.memo.insert r.key r.unit⟩ rs

/-- How a pass ended, and what it left. -/
structure Pass where
  /-- The report, or why the pass ended early. -/
  outcome : Except Failure Report
  /-- The generator after the pass. -/
  generator : Generator
  /-- The host's answers left. -/
  signal : Signal

/-- The report and the memo of a pass whose units were all accepted. -/
def complete (g : Generator) (s : Snapshot) (tally : Tally) (signal : Signal) : Pass :=
  let memo := tally.memo.retain (tally.accepted.map (·.key))
  { outcome := .ok
      { contract := g.contract
        definition := g.definition.identity
        published := tally.accepted.map (·.unit.identity)
        diagnostics := g.diagnostics s
        cache :=
          { hits := (tally.accepted.filter (·.reused)).length
            misses := (tally.accepted.filter (!·.reused)).length
            evicted := tally.memo.size - memo.size } }
    generator := { g with memo }
    signal }

/-- One pass over a snapshot. -/
def passWith {m : Type → Type} [Monad m] (g : Generator) (s : Snapshot) (sink : Sink m)
    (signal : Signal) (turn : Nat → Nat) : m Pass := do
  match ← sink g.definition with
  | .error failure => pure ⟨.error failure, g, signal⟩
  | .ok () =>
    let b := g.batch s signal turn
    let g := { g with tokens := b.tokens }
    match b.units with
    | .error failure => pure ⟨.error failure, g, b.signal⟩
    | .ok ready =>
      let (tally, refusal) ← publishAll sink { memo := g.memo } ready
      match refusal with
      | some failure => pure ⟨.error failure, { g with memo := tally.memo }, b.signal⟩
      | none => pure (g.complete s tally b.signal)

/-- One pass over a snapshot, units being rendered one after the other. -/
def pass {m : Type → Type} [Monad m] (g : Generator) (s : Snapshot) (sink : Sink m)
    (signal : Signal) : m Pass :=
  g.passWith s sink signal id

end Generator

end Companion
