import Companion.Proofs.Passes.Endings
import Companion.Proofs.Passes.Keys

/-!
# Passes — faulty declarations do not disturb the others

A pass sees of a snapshot only the requests, apart from what it reports.  A declaration that cannot
be served makes no request, so it may stand anywhere among the others: the units, the tokens, the
questions to the host and the memo are the same with it and without it.

* `Inserted`: a list with elements of some sort inserted anywhere.
* `Generator.Pass.Alike`: two passes that differ at most in the reports about candidates.
* `Generator.Ends.of_requests_eq`: snapshots with the same requests end passes alike.
* `Generator.isolation`: faulty declarations change the reports only.
-/

namespace Companion

/-- The second list is the first with elements of a sort inserted anywhere. -/
inductive Inserted {α : Type} (P : α → Prop) : List α → List α → Prop where
  | nil : Inserted P [] []
  | keep {l l' : List α} (x : α) : Inserted P l l' → Inserted P (x :: l) (x :: l')
  | insert {l l' : List α} {x : α} : P x → Inserted P l l' → Inserted P l (x :: l')

namespace Inserted

variable {α β : Type} {P : α → Prop} {l l' : List α}

theorem sublist (h : Inserted P l l') : l.Sublist l' := by
  induction h with
  | nil => exact .slnil
  | keep x _ ih => exact ih.cons_cons x
  | @insert _ _ x _ _ ih => exact ih.cons x

/-- What is made of the elements is the same if nothing is made of those inserted. -/
theorem filterMap_eq {f : α → Option β} (h : Inserted P l l') (hf : ∀ x, P x → f x = none) :
    l'.filterMap f = l.filterMap f := by
  induction h with
  | nil => rfl
  | keep x _ ih => simp only [List.filterMap_cons, ih]
  | insert hx _ ih => rw [List.filterMap_cons_none (hf _ hx), ih]

end Inserted

/-! ### Endings that are alike -/

/-- Failures that differ at most in the reports about candidates that they carry. -/
inductive Failure.Alike (reports reports' : List Diagnostic) : Failure → Failure → Prop where
  | same (failure : Failure) : Alike reports reports' failure failure
  | missingTemplate (d : Diagnostic) :
      Alike reports reports' (.missingTemplate d reports) (.missingTemplate d reports')

namespace Generator

variable {σ : Type} {g : Generator} {s s' : Snapshot} {sink : Sink (StateM σ)} {signal : Signal}
  {turn : Nat → Nat} {a b : σ} {calls : Calls} {p : Pass} {failure : Failure}
  {ready : List Ready}

/-- How a pass can end: with a report, or early. -/
abbrev Outcome := Except Failure Report

/-- Outcomes that differ at most in the reports about candidates. -/
inductive Outcome.Alike (reports reports' : List Diagnostic) : Outcome → Outcome → Prop where
  | failed {failure failure' : Failure} : failure.Alike reports reports' failure' →
      Alike reports reports' (.error failure) (.error failure')
  | reported {r : Report} : r.diagnostics = reports →
      Alike reports reports' (.ok r) (.ok { r with diagnostics := reports' })

/-- Passes that differ at most in the reports about candidates. -/
structure Pass.Alike (reports reports' : List Diagnostic) (p p' : Pass) : Prop where
  /-- The outcomes are alike. -/
  outcome : Outcome.Alike reports reports' p.outcome p'.outcome
  /-- The same memo and the same tokens are left. -/
  generator : p'.generator = p.generator
  /-- The host was asked as often. -/
  signal : p'.signal = p.signal

/-! ### Snapshots with the same requests -/

theorem keys_of_requests_eq (h : g.requests s' = g.requests s) : g.keys s' = g.keys s := by
  rw [keys, keys, h]

/-- Over the same requests, only the reports with a missing template can differ. -/
theorem batch_of_requests_eq (h : g.requests s' = g.requests s) :
    (g.batch s' signal turn).signal = (g.batch s signal turn).signal ∧
      ((g.batch s' signal turn).units = (g.batch s signal turn).units ∨
        ∃ d, (g.batch s signal turn).units = .error (.missingTemplate d (g.diagnostics s)) ∧
          (g.batch s' signal turn).units = .error (.missingTemplate d (g.diagnostics s'))) := by
  refine ⟨?_, batch_of_keys_eq turn (keys_of_requests_eq h) (Signal.Agrees.refl signal)⟩
  cases hm : g.missing? (g.requests s) with
  | some v => rw [batch_of_missing hm, batch_of_missing (h ▸ hm)]
  | none =>
      have hafter : g.signalAfter s' signal = g.signalAfter s signal := by
        rw [signalAfter, signalAfter, h]
      rw [batch_of_complete hm, batch_of_complete (h ▸ hm), hafter]

theorem batch_ok_of_requests_eq (h : g.requests s' = g.requests s)
    (hu : (g.batch s signal turn).units = .ok ready) :
    (g.batch s' signal turn).units = .ok ready := by
  rcases (batch_of_requests_eq h).2 with he | ⟨d, hd, -⟩
  · exact he.trans hu
  · cases hu.symm.trans hd

theorem batch_error_of_requests_eq (h : g.requests s' = g.requests s)
    (hu : (g.batch s signal turn).units = .error failure) :
    ∃ failure', (g.batch s' signal turn).units = .error failure' ∧
      failure.Alike (g.diagnostics s) (g.diagnostics s') failure' := by
  rcases (batch_of_requests_eq h).2 with he | ⟨d, hd, hd'⟩
  · exact ⟨failure, he.trans hu, .same failure⟩
  · cases hu.symm.trans hd
    exact ⟨_, hd', .missingTemplate d⟩

/-- Passes over snapshots with the same requests end alike, with the same calls. -/
theorem Ends.of_requests_eq (h : g.requests s' = g.requests s)
    (he : g.Ends s signal turn calls p) :
    ∃ p', g.Ends s' signal turn calls p' ∧ p.Alike (g.diagnostics s) (g.diagnostics s') p' := by
  have hsignal : (g.batch s' signal turn).signal = (g.batch s signal turn).signal :=
    (batch_of_requests_eq h).1
  have htokens := tokensAfter_of_keys_eq (keys_of_requests_eq h)
  -- of the two snapshots only the requests and the reports enter an ending
  cases he with
  | undeclared failure => exact ⟨_, .undeclared failure, .failed (.same failure), rfl, rfl⟩
  | unprepared hu =>
      obtain ⟨failure', hu', ha⟩ := batch_error_of_requests_eq h hu
      exact ⟨_, .unprepared hu', .failed ha, by simp only [htokens], hsignal⟩
  | refused failure hu =>
      exact ⟨_, .refused failure (batch_ok_of_requests_eq h hu), .failed (.same failure),
        by simp only [htokens], hsignal⟩
  | completed hu =>
      refine ⟨_, .completed (batch_ok_of_requests_eq h hu), .reported rfl, ?_, hsignal⟩
      simp only [complete, htokens]

/-! ### Faulty declarations -/

/-- Faulty declarations make no request. -/
theorem requests_of_inserted (h : Inserted g.Faulty s.declarations s'.declarations) :
    g.requests s' = g.requests s := by
  rw [requests_eq, requests_eq]
  exact h.filterMap_eq fun d hd => hd.requestOf?_eq_none

/-- No report gets lost when declarations are inserted. -/
theorem diagnostics_of_inserted (h : Inserted g.Faulty s.declarations s'.declarations) :
    (g.diagnostics s).Sublist (g.diagnostics s') := by
  simp only [diagnostics, skipped_eq, rejected_eq]
  exact (h.sublist.filterMap _).append (h.sublist.filterMap _)

/-- **Faulty declarations do not disturb the others.**  Let a snapshot have, anywhere among its
declarations, further ones that are faulty.  Whatever the sink answers and the host asks, a pass
makes the same calls with them and without them, leaves the sink in the same state and the same
memo and tokens, has asked the host as often, and has the same outcome; only the reports about
candidates differ, and those made without the faulty declarations are made with them too. -/
theorem isolation {σ : Type} (g : Generator) {s s' : Snapshot}
    (h : Inserted g.Faulty s.declarations s'.declarations) (sink : Sink (StateM σ)) (a : σ)
    (signal : Signal) (turn : Nat → Nat) :
    ∃ p p' b calls,
      (g.passWith s sink signal turn).run a = (p, b) ∧
      (g.passWith s' sink signal turn).run a = (p', b) ∧
      (g.passWith s sink.recorded signal turn).run (a, []) = (p, b, calls) ∧
      (g.passWith s' sink.recorded signal turn).run (a, []) = (p', b, calls) ∧
      p.Alike (g.diagnostics s) (g.diagnostics s') p' ∧
      (g.diagnostics s).Sublist (g.diagnostics s') := by
  obtain ⟨calls, p, b, he, ha⟩ := g.exists_ends s sink signal turn a
  obtain ⟨p', he', halike⟩ := he.of_requests_eq (requests_of_inserted h)
  exact ⟨p, p', b, calls, passWith_of_ends he ha, passWith_of_ends he' ha,
    passWith_recorded_eq_iff.mpr ⟨he, ha⟩, passWith_recorded_eq_iff.mpr ⟨he', ha⟩, halike,
    diagnostics_of_inserted h⟩

/-- The theorem at a class between one that is not partial and one whose element type is blank. -/
theorem isolation_carts :
    let cart := Declaration.cart (some "Shop") [.listOf "AutoCollection" "int"]
    let closed : Declaration := { cart with isPartial := false }
    let blank := Declaration.cart (some "Depot") [.listOf "AutoCollection" " "]
    let s : Snapshot := { declarations := [cart] }
    let s' : Snapshot := { declarations := [closed, cart, blank] }
    let x := (ofRows.passWith s UnitStore.sink .never id).run .empty
    let x' := (ofRows.passWith s' UnitStore.sink .never id).run .empty
    Inserted ofRows.Faulty s.declarations s'.declarations ∧
      x.1.Alike (ofRows.diagnostics s) (ofRows.diagnostics s') x'.1 ∧ x'.2 = x.2 := by
  intro cart closed blank s s' x x'
  have hfirst : FirstOf Attribute.name ofRows.marker.name blank.attributes []
      (.listOf "AutoCollection" " ") [] := ⟨rfl, rfl, nofun⟩
  have hblank : (Attribute.listOf "AutoCollection" " ").named.Lacks
      ofRows.marker.elementParameter := .blank ⟨[], [], rfl, nofun⟩ rfl (by decide)
  have h : Inserted ofRows.Faulty s.declarations s'.declarations :=
    .insert (.notPartial rfl) (.keep cart (.insert (.missing hfirst hblank) .nil))
  obtain ⟨p, p', b, -, hrun, hrun', -, -, halike, -⟩ :=
    isolation ofRows h UnitStore.sink .empty .never id
  have hx : x = (p, b) := hrun
  have hx' : x' = (p', b) := hrun'
  rw [hx, hx']
  exact ⟨h, halike, rfl⟩

end Generator

end Companion
