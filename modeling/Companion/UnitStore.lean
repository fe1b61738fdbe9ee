import Companion.Failure
import Companion.SourceUnit

/-!
# Unit store — units kept in memory

A pass hands its units to a *sink*, which accepts or refuses each.  The unit store is the sink that
keeps them, in the order of publication.  It refuses a unit whose identity it has already.

* `get?_publish` says what publishing does to look-ups.
-/

namespace Companion

/-- A sink: it takes a unit, and accepts it or says why not. -/
abbrev Sink (m : Type → Type) := SourceUnit → m (Except Failure Unit)

/-- Units in the order of their publication. -/
structure UnitStore where
  /-- The units. -/
  units : List SourceUnit := []
  deriving DecidableEq, Repr, Inhabited

namespace UnitStore

/-- Nothing published. -/
def empty : UnitStore := ⟨[]⟩

/-- The identities in the order of their publication. -/
def identities (s : UnitStore) : List String := s.units.map (·.identity)

/-- The text published under an identity. -/
def get? (s : UnitStore) (identity : String) : Option String :=
  (s.units.find? fun u => u.identity == identity).map (·.text)

/-- The number of units. -/
def size (s : UnitStore) : Nat := s.units.length

/-- The units in the order of their publication, each looked up under its identity. -/
def inOrder (s : UnitStore) : List SourceUnit :=
  s.identities.filterMap fun identity => (s.get? identity).map fun text => ⟨identity, text⟩

/-- Adds a unit whose identity is new. -/
def publish (s : UnitStore) (u : SourceUnit) : Except Failure UnitStore :=
  if s.identities.contains u.identity then .error (.collision u.identity)
  else .ok ⟨s.units ++ [u]⟩

/-- The store as a sink. -/
def sink : Sink (StateM UnitStore) := fun u s =>
  match s.publish u with
  | .ok t => (.ok (), t)
  | .error f => (.error f, s)

theorem get?_empty (identity : String) : empty.get? identity = none := rfl

theorem get?_publish {s t : UnitStore} {u : SourceUnit} (h : s.publish u = .ok t)
    (identity : String) :
    t.get? identity = if identity = u.identity then some u.text else s.get? identity := by
  unfold publish at h
  split at h
  · cases h
  · rename_i hu
    cases h
    by_cases hi : identity = u.identity
    · subst hi
      have : s.units.find? (fun v => v.identity == u.identity) = none := by
        simpa [identities] using hu
      simp [get?, this]
    · have : (u.identity == identity) = false := beq_false_of_ne fun e => hi e.symm
      simp [get?, hi, this]

end UnitStore

end Companion
