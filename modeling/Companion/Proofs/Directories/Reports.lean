import Companion.Proofs.Directories.Listings
import Companion.Proofs.Directories.Statuses

/-!
# Directories — what a run reports of declarations

A pass finds out about all annotated declarations before anything else can end it, save the
annotation's unit.  Its report tells of them, and so does a missing template.  If the pass ends
because an identity occurs twice, or because a unit is refused or cannot be written, what was found
is dropped.

* `DirectoryRun.Keeps`: the endings that tell of declarations.
* `Options.Ran.tellsOf`: what a pass tells of declarations.
* `Options.run_diagnostics`: what a run does, and when nothing is dropped.
-/

namespace Companion

variable {σ : Type} [FileSystem (StateM σ)] {o : Options} {s : Snapshot} {g : Generator}
  {gs : Generators} {x : DirectoryRun} {xs : List DirectoryRun}

/-! ### Endings that tell of declarations -/

/-- The pass ran to its end, or a template is missing. -/
def DirectoryRun.Keeps (x : DirectoryRun) : Prop :=
  x.Succeeded ∨ ∃ d faults, x.outcome = .error (.missingTemplate d faults)

/-- The pass tells of all that the generator finds out about declarations, or of nothing. -/
structure DirectoryRun.TellsOf (x : DirectoryRun) (s : Snapshot) (g : Generator) : Prop where
  /-- It is the pass for the generator's contract. -/
  contract : x.contract = g.contract
  /-- What was found is told. -/
  kept : x.Keeps → x.diagnostics = g.diagnostics s
  /-- What was found is dropped. -/
  dropped : ¬x.Keeps → x.diagnostics = []

theorem Options.Ran.tellsOf (h : o.Ran s g x) : x.TellsOf s g := by
  obtain ⟨k, hk, -⟩ := h.leaves
  refine ⟨h.contract, fun hkeeps => ?_, fun hkeeps => ?_⟩
  all_goals
    unfold DirectoryRun.Keeps DirectoryRun.Succeeded at hkeeps
    unfold DirectoryRun.diagnostics
    generalize x.outcome = outcome at hk hkeeps ⊢
  · cases hk with
    | completed _ _ _ hdiagnostics => exact hdiagnostics
    | missingTemplate _ => rfl
    | collision _ | refused _ _ | unwritten _ => simp at hkeeps
  · cases hk with
    | completed _ _ _ _ | missingTemplate _ => simp at hkeeps
    | collision _ | refused _ _ | unwritten _ => rfl

/-! ### What is told altogether -/

namespace DirectoryRun

theorem length_diagnostics_le (h : List.Forall₂ (fun g x => x.TellsOf s g) gs xs) :
    (xs.flatMap (·.diagnostics)).length ≤ (gs.flatMap (·.diagnostics s)).length := by
  induction h with
  | nil => exact Nat.le_refl _
  | @cons g x _ _ hx _ ih =>
      rw [List.flatMap_cons, List.flatMap_cons, List.length_append, List.length_append]
      by_cases hk : x.Keeps
      · rw [hx.kept hk]
        omega
      · rw [hx.dropped hk, List.length_nil]
        omega

/-- What is told altogether is what was found if and only if each pass tells of it, or found
nothing. -/
theorem diagnostics_eq_iff (h : List.Forall₂ (fun g x => x.TellsOf s g) gs xs) :
    xs.flatMap (·.diagnostics) = gs.flatMap (·.diagnostics s) ↔
      List.Forall₂ (fun g x => x.Keeps ∨ g.diagnostics s = []) gs xs := by
  induction h with
  | nil => exact iff_of_true rfl .nil
  | @cons g x gs xs hx ht ih =>
      rw [List.flatMap_cons, List.flatMap_cons, List.forall₂_cons]
      by_cases hk : x.Keeps
      · rw [hx.kept hk, List.append_cancel_left_eq, ih]
        exact (and_iff_right (.inl hk)).symm
      · rw [hx.dropped hk, List.nil_append, ← ih]
        constructor
        · intro heq
          -- what is dropped here is not made up for by the other passes
          have hlength := congrArg List.length heq
          rw [List.length_append] at hlength
          have hle := length_diagnostics_le ht
          have hnone : g.diagnostics s = [] := List.length_eq_zero_iff.mp (by omega)
          rw [hnone, List.nil_append] at heq
          exact ⟨.inr hnone, heq⟩
        · rintro ⟨hkeeps | hnone, heq⟩
          · exact absurd hkeeps hk
          · rw [hnone, List.nil_append, heq]

end DirectoryRun

namespace Options

/-- **What a run reports of declarations.**  Let a run give a summary, in any file system.

* The pass of each contract tells of all that is found out about declarations if it ran to its end
  or a template is missing; otherwise it tells of nothing.
* So all reports are in the summary, contract by contract, if and only if each pass has such an
  ending, or found nothing to report.
* What a contract finds is a warning for each annotated declaration that is not a class, and then an
  error for each annotated class that fails a check, in the order of the snapshot. -/
theorem run_diagnostics {a c : σ} (o : Options) (env : Environment.Variables)
    (random : RandomTokens) {summary : Summary}
    (h : (o.run env random : StateM σ _).run a = (.ok summary, c)) :
    ∃ settings s gs b, o.Loads env random a settings s gs b ∧
      gs.map (·.marker) = Annotation.all ∧
      List.Forall₂ (fun g x => x.TellsOf s g) gs summary.passes ∧
      (summary.diagnostics = gs.flatMap (·.diagnostics s) ↔
        List.Forall₂ (fun g x => x.Keeps ∨ g.diagnostics s = []) gs summary.passes) ∧
      ∀ g ∈ gs,
        g.diagnostics s =
          s.declarations.filterMap g.warningOf? ++ s.declarations.filterMap g.errorOf? ∧
        ∀ d ∈ s.declarations, g.Fate d (g.requestOf? d) (g.warningOf? d) (g.errorOf? d) := by
  obtain ⟨settings, s, gs, b, hloads, xs, hall, rfl⟩ := run_ok_iff.mp h
  have htells := (runAll_ran hall).imp fun _ _ hran => hran.tellsOf
  refine ⟨settings, s, gs, b, hloads, hloads.fresh.map_marker, htells,
    DirectoryRun.diagnostics_eq_iff htells, fun g _ => ⟨?_, fun d _ => g.fate d⟩⟩
  rw [Generator.diagnostics, Generator.skipped_eq, Generator.rejected_eq]

/-- The theorem at a struct, and a class whose unit has the identity of the annotation's: nothing is
told of the struct. -/
theorem run_diagnostics_attribute :
    let o : Options := { snapshot := "snapshot.json" }
    let env := [("AUTOCOLLECTION_TEMPLATE_DIR", "templates")]
    let random := (⟨0⟩ : Seed).tokens
    ∃ (summary : Summary) (t : FileTree) (s : Snapshot) (gs : Generators),
      (o.run env random : StateM FileTree _).run .ofAttribute = (.ok summary, t) ∧
      summary.failures = [(.list, "Identity collision: GenerateList.Attribute.g.cs")] ∧
      summary.diagnostics = [] ∧
      gs.map (·.marker) = Annotation.all ∧
      List.Forall₂ (fun g x => x.TellsOf s g) gs summary.passes := by
  intro o env random
  obtain ⟨summary, t, hrun, hfailures, -, hdiagnostics, -⟩ := exists_run_ofAttribute
  obtain ⟨-, s, gs, -, -, hmarkers, htells, -, -⟩ := o.run_diagnostics env random hrun
  exact ⟨summary, t, s, gs, hrun, hfailures, hdiagnostics, hmarkers, htells⟩

end Options

end Companion
