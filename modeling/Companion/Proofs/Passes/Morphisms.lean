import Companion.Proofs.Passes.MissingTemplates
import Companion.Proofs.Passes.Stores

/-!
# Passes — in one monad and in another

A pass meets the world only through its sink.  So a map of computations that keeps `pure` and `bind`
takes a pass to the pass with the sink that it takes the sink to.  States that are stacked are one
state in pairs, so what is known of passes over a state is known of passes over two.

* `Morphism.map_passWith`: a pass is taken to a pass.
* `Morphism.stack`: stacked states as one state.
* `Generator.Ends.store_cases`: a pass is the pass into a unit store, unless a unit is refused.
-/

namespace Companion

/-! ### Morphisms -/

/-- A map of computations in one monad to computations in another. -/
structure Morphism (m n : Type → Type) [Monad m] [Monad n] where
  /-- The map. -/
  map {α : Type} : m α → n α
  /-- It keeps computations that do nothing. -/
  map_pure {α : Type} (a : α) : map (pure a : m α) = pure a
  /-- It keeps computations one after the other. -/
  map_bind {α β : Type} (x : m α) (f : α → m β) : map (x >>= f) = map x >>= fun a => map (f a)

namespace Morphism

variable {m n : Type → Type} [Monad m] [Monad n] {sink : Sink m}

theorem map_publishAll (φ : Morphism m n) (sink : Sink m) (tally : Generator.Tally)
    (ready : List Ready) :
    φ.map (Generator.publishAll sink tally ready) =
      Generator.publishAll (fun u => φ.map (sink u)) tally ready := by
  induction ready generalizing tally with
  | nil => exact φ.map_pure _
  | cons r ready ih =>
      rw [Generator.publishAll, Generator.publishAll, φ.map_bind]
      congr 1
      funext answer
      cases answer with
      | error failure => exact φ.map_pure _
      | ok _ => exact ih _

/-- A pass is taken to the pass with the sink that the sink is taken to. -/
theorem map_passWith (φ : Morphism m n) (g : Generator) (s : Snapshot) (sink : Sink m)
    (signal : Signal) (turn : Nat → Nat) :
    φ.map (g.passWith s sink signal turn) =
      g.passWith s (fun u => φ.map (sink u)) signal turn := by
  rw [Generator.passWith, Generator.passWith, φ.map_bind]
  congr 1
  funext answer
  cases answer with
  | error failure => exact φ.map_pure _
  | ok _ =>
      dsimp only
      cases (g.batch s signal turn).units with
      | error failure => exact φ.map_pure _
      | ok ready =>
          dsimp only
          rw [φ.map_bind, φ.map_publishAll]
          congr 1
          funext result
          obtain ⟨tally, refusal⟩ := result
          cases refusal with
          | some failure => exact φ.map_pure _
          | none => exact φ.map_pure _

/-- A state upon a state, as one state. -/
def stack (σ τ : Type) : Morphism (StateT σ (StateM τ)) (StateM (σ × τ)) where
  map x := fun y => (((x.run y.1).run y.2).1.1, ((x.run y.1).run y.2).1.2, ((x.run y.1).run y.2).2)
  map_pure _ := rfl
  map_bind _ _ := rfl

theorem stack_run_eq_iff {σ τ α : Type} {x : StateT σ (StateM τ) α} {a : α} {s s' : σ} {t t' : τ} :
    ((stack σ τ).map x).run (s, t) = (a, s', t') ↔ (x.run s).run t = ((a, s'), t') := by
  change (((x.run s).run t).1.1, ((x.run s).run t).1.2, ((x.run s).run t).2) = _ ↔ _
  rcases (x.run s).run t with ⟨⟨b, s''⟩, t''⟩
  constructor <;> (intro h; cases h; rfl)

end Morphism

/-! ### Passes that nothing hinders -/

namespace Generator

variable {g : Generator} {s : Snapshot} {signal : Signal} {turn : Nat → Nat} {calls : Calls}
  {p : Pass} {failure : Failure}

theorem nodup_announced_of_batch_ok {ready : List Ready}
    (h : (g.batch s signal turn).units = .ok ready) :
    ((g.announced s).map (·.identity)).Nodup := by
  simpa [announced, Function.comp_def] using collision?_eq_none_iff.mp (batch_ok h).2.2.1

/-- The identities that a sink is offered differ. -/
theorem Ends.nodup_identity (he : g.Ends s signal turn calls p) :
    (calls.map (·.1.identity)).Nodup := by
  have hsublist := (he.isPrefix.map (·.identity)).sublist
  rw [List.map_map] at hsublist
  cases he with
  | undeclared failure => simp
  | unprepared hu => simp
  | refused failure hu => exact (nodup_announced_of_batch_ok hu).sublist hsublist
  | completed hu => exact (nodup_announced_of_batch_ok hu).sublist hsublist

/-- The units that a sink accepts are those that a unit store holds after the pass, or a pass ends
with the first of these that is refused. -/
theorem Ends.store_cases (he : g.Ends s signal turn calls p) :
    ∃ q units, (g.passWith s UnitStore.sink signal turn).run .empty = (q, ⟨units⟩) ∧
      ((p = q ∧ calls = Calls.accepted units) ∨
        ∃ us u rest failure, units = us ++ u :: rest ∧
          calls = Calls.accepted us ++ [(u, .error failure)] ∧ p.outcome = .error failure) := by
  cases he with
  | undeclared failure =>
      cases hb : (g.batch s signal turn).units with
      | error failure' =>
          exact ⟨_, _, run_store_of_error hb, .inr ⟨[], g.definition, [], failure, rfl, rfl, rfl⟩⟩
      | ok ready =>
          exact ⟨_, _, run_store_of_ok hb, .inr ⟨[], g.definition, _, failure, rfl, rfl, rfl⟩⟩
  | unprepared hu => exact ⟨_, _, run_store_of_error hu, .inl ⟨rfl, rfl⟩⟩
  | @refused done rest r failure hu =>
      refine ⟨_, _, run_store_of_ok hu,
        .inr ⟨g.definition :: done.map (·.unit), r.unit, rest.map (·.unit), failure, ?_, rfl, rfl⟩⟩
      rw [announced, prepared_of_batch_ok hu]
      simp
  | completed hu =>
      refine ⟨_, _, run_store_of_ok hu, .inl ⟨rfl, ?_⟩⟩
      rw [announced, prepared_of_batch_ok hu]

end Generator

end Companion
