import Companion.Proofs.Candidates.Faults
import Companion.Proofs.Memo.Soundness
import Companion.Proofs.Passes.Publication
import Mathlib.Data.List.Forall2

/-!
# Passes — every annotated declaration is accounted for

A complete pass gives three lists: what was published, what was warned of, and what was reported as
an error.  Each annotated declaration has one place in one of them, and the lists keep the host's
order.

* `Generator.Names`: the identities that the unit of a declaration can have.
* `Generator.Accounts`: the three lists, run through along with the declarations.
* `Generator.accounts_of_gives`: units for the requests make the lists account for the declarations.
* `Generator.Reached.accounting`: those of a complete pass do.
-/

namespace Companion.Generator

variable {g : Generator} {s : Snapshot} {signal : Signal} {turn : Nat → Nat} {calls : Calls}
  {p : Pass} {drawn : List String} {d : Declaration} {u : SourceUnit}

/-! ### Names -/

/-- The declaration's unit can have the identity. -/
inductive Names (g : Generator) (drawn : List String) (d : Declaration) : String → Prop where
  /-- In the declaration's own namespace. -/
  | own {scope : String} : d.namespace = some scope → scope ≠ "" →
      Names g drawn d (SourceUnit.identityOf (.own scope) d.name g.settings.identitySuffix)
  /-- In a namespace made from a token that was drawn, if the declaration is global. -/
  | global {token : String} : d.namespace.getD "" = "" → token ∈ drawn →
      Names g drawn d (SourceUnit.identityOf (.global (Scope.globalMark ++ token)) d.name
        g.settings.identitySuffix)

/-- A unit that is right for what the declaration asks for has one of its identities. -/
theorem Gives.names {q : Parameters} (h : g.Gives drawn (g.asked (.ofDeclaration d) q).key u) :
    g.Names drawn d u.identity := by
  obtain ⟨-, scope, t, hscope, -, rfl⟩ := h
  by_cases hn : d.namespace.getD "" = ""
  · obtain ⟨token, ht, rfl⟩ := (if_pos hn).mp hscope
    exact .global hn ht
  · obtain rfl : scope = d.namespace.getD "" := (if_neg hn).mp hscope
    cases hd : d.namespace with
    | none => simp [hd] at hn
    | some scope =>
        rw [hd] at hn
        exact .own hd hn

/-! ### Accounts -/

/-- The declarations, in the host's order, with the identities that are published, the warnings and
the errors. -/
inductive Accounts (g : Generator) (drawn : List String) :
    List Declaration → List String → List Diagnostic → List Diagnostic → Prop where
  | nil : Accounts g drawn [] [] [] []
  /-- A declaration without the annotation leaves no trace. -/
  | other {d : Declaration} {ds : List Declaration} {identities : List String}
      {warnings errors : List Diagnostic} : g.isAnnotated d = false →
      Accounts g drawn ds identities warnings errors →
      Accounts g drawn (d :: ds) identities warnings errors
  /-- One that is not a class is warned of. -/
  | notAClass {d : Declaration} {ds : List Declaration} {identities : List String}
      {warnings errors : List Diagnostic} {x : Diagnostic} : g.isAnnotated d = true →
      d.kind ≠ .class → x.About d .notAClass .warning →
      Accounts g drawn ds identities warnings errors →
      Accounts g drawn (d :: ds) identities (x :: warnings) errors
  /-- A class that fails the checks is reported for the first that it fails. -/
  | rejected {d : Declaration} {ds : List Declaration} {identities : List String}
      {warnings errors : List Diagnostic} {x : Diagnostic} {code : Code} :
      g.isAnnotated d = true → d.kind = .class → ¬g.Serves d → g.Fails d code →
      x.About d code .error → Accounts g drawn ds identities warnings errors →
      Accounts g drawn (d :: ds) identities warnings (x :: errors)
  /-- A class that passes the checks has a unit. -/
  | served {d : Declaration} {ds : List Declaration} {identities : List String}
      {warnings errors : List Diagnostic} {identity : String} : g.isAnnotated d = true →
      d.kind = .class → g.Serves d → g.Names drawn d identity →
      Accounts g drawn ds identities warnings errors →
      Accounts g drawn (d :: ds) (identity :: identities) warnings errors

/-- There is one entry for each annotated declaration. -/
theorem Accounts.length {ds : List Declaration} {identities : List String}
    {warnings errors : List Diagnostic} (h : g.Accounts drawn ds identities warnings errors) :
    identities.length + (warnings.length + errors.length) = (ds.filter g.isAnnotated).length := by
  induction h with
  | nil => rfl
  | other ha _ ih => rw [List.filter_cons_of_neg (by simp [ha]), ih]
  | notAClass ha _ _ _ ih | rejected ha _ _ _ _ _ ih | served ha _ _ _ _ ih =>
      rw [List.filter_cons_of_pos ha, List.length_cons, List.length_cons]
      omega

/-- If there are units for the requests, their identities account for the declarations together with
the warnings and the errors. -/
theorem accounts_of_gives (ds : List Declaration) {identities : List String}
    (h : List.Forall₂ (fun r identity => ∃ u, g.Gives drawn r.key u ∧ u.identity = identity)
      (ds.filterMap g.requestOf?) identities) :
    g.Accounts drawn ds identities (ds.filterMap g.warningOf?) (ds.filterMap g.errorOf?) := by
  -- along the declarations: what becomes of the first one says which list it adds to
  induction ds generalizing identities with
  | nil =>
      cases h
      exact .nil
  | cons d ds ih =>
      have hfate := g.fate d
      simp only [List.filterMap_cons] at h ⊢
      generalize g.requestOf? d = request, g.warningOf? d = warning, g.errorOf? d = error
        at h hfate ⊢
      cases hfate with
      | other ha => exact .other ha (ih h)
      | notAClass ha hk hx => exact .notAClass ha hk hx (ih h)
      | rejected ha hk hf hx => exact .rejected ha hk hf.not_serves hf hx (ih h)
      | served q ha hk hs =>
          cases h with
          | cons hu h =>
              obtain ⟨u, hu, rfl⟩ := hu
              exact .served ha hk hs hu.names (ih h)

/-- The units of a pass without missing templates account for the declarations. -/
theorem Sound.accounts (h : g.Sound drawn) (hm : g.missing? (g.requests s) = none) :
    g.Accounts (drawn ++ g.tokens.drawnUntil (g.tokensAfter s)) s.declarations
      ((g.prepared s).map (·.unit.identity)) (g.skipped s) (g.rejected s) := by
  have hkeys : List.Forall₂
      (fun k identity => ∃ u, g.Gives (drawn ++ g.tokens.drawnUntil (g.tokensAfter s)) k u ∧
        u.identity = identity)
      ((g.prepared s).map (·.key)) ((g.prepared s).map (·.unit.identity)) := by
    -- the keys and the identities are those of one list of units
    rw [List.forall₂_map_left_iff, List.forall₂_map_right_iff, List.forall₂_same]
    exact fun r hr => ⟨r.unit, h.gives_prepared hr, rfl⟩
  rw [map_key_prepared hm, List.forall₂_map_left_iff, requests_eq] at hkeys
  rw [skipped_eq, rejected_eq]
  exact accounts_of_gives _ hkeys

/-! ### Complete passes -/

/-- **Every annotated declaration is accounted for.**  After every history, in what a complete pass
published and reported, each annotated declaration has one place, and others have none: a class that
passes the checks has the identity of its unit, one that fails a check has an error with the code of
the first check that it fails, and what is not a class has a warning.  Each of the three lists is in
the host's order, and the warnings come before the errors. -/
theorem Reached.accounting {σ : Type} {sink : Sink (StateM σ)} {a b : σ} {report : Report}
    (h : Reached g drawn) (hrun : (g.passWith s sink signal turn).run a = (p, b))
    (ho : p.outcome = .ok report) :
    (∃ warnings errors, report.diagnostics = warnings ++ errors ∧
      g.Accounts (drawn ++ g.tokens.drawnUntil p.generator.tokens) s.declarations
        report.published warnings errors) ∧
    report.published.length + report.diagnostics.length =
      (s.declarations.filter g.isAnnotated).length := by
  obtain ⟨calls, he, -⟩ := passWith_eq_iff.mp hrun
  obtain ⟨hm, htokens, hpublished, hdiagnostics⟩ := he.report ho
  have haccounts := h.sound.accounts hm
  rw [htokens, hpublished, hdiagnostics]
  refine ⟨⟨g.skipped s, g.rejected s, rfl, haccounts⟩, ?_⟩
  rw [diagnostics, List.length_append]
  exact haccounts.length

/-- The theorem at a class that is served, a struct, a class that is not partial, one in the global
namespace, and one without the annotation. -/
theorem accounting_carts :
    let int := Attribute.listOf "AutoCollection" "int"
    let cart := Declaration.cart (some "Shop") [int]
    let struct : Declaration := { cart with kind := .struct }
    let closed : Declaration := { cart with isPartial := false }
    let s : Snapshot := { declarations :=
      [cart, struct, closed, .cart none [int], .cart (some "Depot") []] }
    let x := (ofRows.passWith s UnitStore.sink .never id).run .empty
    let published := ["Shop.Cart.g.cs", "Global_00000000000000000000000000000000.Cart.g.cs"]
    let diagnostics := [.notAClass .list struct, (Candidate.ofDeclaration closed).notPartial .list]
    x.1.outcome =
        .ok ⟨.list, "GenerateList.Attribute.g.cs", published, diagnostics, ⟨0, 2, 0⟩⟩ ∧
      (∃ warnings errors, diagnostics = warnings ++ errors ∧
        ofRows.Accounts (ofRows.tokens.drawnUntil x.1.generator.tokens) s.declarations published
          warnings errors) ∧
      published.length + diagnostics.length = (s.declarations.filter ofRows.isAnnotated).length := by
  intro int cart struct closed s x published diagnostics
  have hreached : Reached ofRows [] := .create _ _ _ _
  have hrun : (ofRows.passWith s UnitStore.sink .never id).run .empty = (x.1, x.2) :=
    (Prod.eta x).symm
  have ho : x.1.outcome =
      .ok ⟨.list, "GenerateList.Attribute.g.cs", published, diagnostics, ⟨0, 2, 0⟩⟩ := by
    decide +kernel
  have haccounted := hreached.accounting hrun ho
  rw [List.nil_append] at haccounted
  exact ⟨ho, haccounted⟩

end Companion.Generator
