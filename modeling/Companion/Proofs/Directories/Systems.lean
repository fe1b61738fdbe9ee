import Companion.Proofs.Directories.Inputs
import Companion.Proofs.Directories.Offers
import Companion.Proofs.Passes.Contracts
import Mathlib.Data.List.Forall2

/-!
# Directories — a run in any file system

A run reads its inputs, and makes one pass for each contract into a directory that is new to it.  A
file system with states may answer as it likes; it settles which inputs there are, and which units
can be written.

* `Generators.fresh_of_load`: the generators that a run makes.
* `Options.Loads`: the inputs that a run reads, and these generators.
* `Options.Ran` and `Options.runAll_ran`: what the passes of a run leave.
* `Options.run_ok_iff`: a run with a summary reads its inputs and makes a pass for each contract.
-/

namespace Companion

/-! ### Lists of the same length -/

section Lists

variable {α β γ : Type} {R : α → β → Prop} {l : List α} {l' : List β}

theorem exists_of_mem_right {y : β} (h : List.Forall₂ R l l') (hy : y ∈ l') : ∃ x ∈ l, R x y := by
  obtain ⟨i, hi, rfl⟩ := List.mem_iff_getElem.mp hy
  have hi' : i < l.length := h.length_eq ▸ hi
  exact ⟨l[i], List.getElem_mem hi', h.get hi' hi⟩

theorem exists_of_mem_left {x : α} (h : List.Forall₂ R l l') (hx : x ∈ l) : ∃ y ∈ l', R x y :=
  exists_of_mem_right (R := flip R) h.flip hx

theorem map_eq_of_forall₂ {f : α → γ} {f' : β → γ} (h : List.Forall₂ R l l')
    (hf : ∀ x y, R x y → f x = f' y) : l.map f = l'.map f' := by
  induction h with
  | nil => rfl
  | cons hx _ ih => rw [List.map_cons, List.map_cons, hf _ _ hx, ih]

end Lists

variable {σ : Type} [FileSystem (StateM σ)] {a b : σ} {o : Options} {env : Environment.Variables}
  {random : RandomTokens} {settings : Settings} {s : Snapshot} {g : Generator}
  {gs : Generators} {x : DirectoryRun} {xs : List DirectoryRun} {summary : Summary}

/-! ### The inputs -/

theorem Generator.load_ok_iff {marker : Annotation} {stream : Nat → String} :
    (Generator.load marker settings stream : StateM σ _).run a = (.ok g, b) ↔
      ∃ catalog, (Catalog.shippedWith settings.templateDir : StateM σ _).run a = (.ok catalog, b) ∧
        g = Generator.create marker settings catalog stream := by
  rw [Generator.load, Sink.run_bind]
  rcases (Catalog.shippedWith settings.templateDir : StateM σ _).run a with ⟨fault | catalog, c⟩
  · exact iff_of_false nofun fun ⟨_, h, _⟩ => by cases h
  · constructor
    · intro h
      cases h
      exact ⟨catalog, rfl, rfl⟩
    · rintro ⟨_, h, rfl⟩
      cases h
      rfl

theorem Generators.loadAll_cons_ok_iff {marker : Annotation} {markers : List Annotation} :
    (Generators.loadAll settings random (marker :: markers) : StateM σ _).run a = (.ok gs, b) ↔
      ∃ g c others, (Generator.load marker settings (random marker) : StateM σ _).run a =
          (.ok g, c) ∧
        (Generators.loadAll settings random markers : StateM σ _).run c = (.ok others, b) ∧
        gs = g :: others := by
  rw [Generators.loadAll, Sink.run_bind]
  rcases (Generator.load marker settings (random marker) : StateM σ _).run a with ⟨fault | g, c⟩
  · exact iff_of_false nofun fun ⟨_, _, _, h, _⟩ => by cases h
  · dsimp only
    rw [Sink.run_bind]
    rcases hothers : (Generators.loadAll settings random markers : StateM σ _).run c with
      ⟨fault | others, e⟩
    · refine iff_of_false nofun ?_
      rintro ⟨_, _, _, h, h', _⟩
      cases h
      rw [hothers] at h'
      cases h'
    · constructor
      · intro h
        cases h
        exact ⟨g, c, others, rfl, hothers, rfl⟩
      · rintro ⟨_, _, _, h, h', rfl⟩
        cases h
        rw [hothers] at h'
        cases h'
        rfl

/-- The generators that were made remember nothing; each has its annotation, the settings, templates
that it has read, and its random tokens. -/
theorem Generators.fresh_of_load
    (h : (Generators.load settings random : StateM σ _).run a = (.ok gs, b)) :
    Fresh settings random gs := by
  rw [Generators.load] at h
  rw [Fresh]
  generalize Annotation.all = markers at h
  induction markers generalizing a gs with
  | nil =>
      cases h
      exact .nil
  | cons marker markers ih =>
      obtain ⟨g, c, others, hg, hothers, rfl⟩ := loadAll_cons_ok_iff.mp h
      obtain ⟨catalog, -, rfl⟩ := Generator.load_ok_iff.mp hg
      exact .cons ⟨catalog, rfl⟩ (ih hothers)

namespace Options

/-- The settings and the snapshot can be read, and the generators made, one after the other, and the
file system goes from the one state to the other meanwhile. -/
def Loads (o : Options) (env : Environment.Variables) (random : RandomTokens) (a : σ)
    (settings : Settings) (s : Snapshot) (gs : Generators) (b : σ) : Prop :=
  ∃ c d, (o.settingsSource.load env : StateM σ _).run a = (.ok settings, c) ∧
    (Snapshot.load o.snapshot : StateM σ _).run c = (.ok s, d) ∧
    (Generators.load settings random : StateM σ _).run d = (.ok gs, b)

theorem Loads.fresh (h : o.Loads env random a settings s gs b) : gs.Fresh settings random := by
  obtain ⟨_, _, _, _, hload⟩ := h
  exact Generators.fresh_of_load hload

/-- A run that can read its inputs makes a pass for each contract. -/
theorem run_of_loads {c : σ} (h : o.Loads env random a settings s gs b)
    (hall : (o.runAll s gs : StateM σ _).run b = (xs, c)) :
    (o.run env random : StateM σ _).run a = (.ok ⟨s.declarations.length, xs⟩, c) := by
  obtain ⟨c₁, c₂, hsettings, hsnapshot, hload⟩ := h
  rw [run, Sink.run_bind, hsettings]
  dsimp only
  rw [Sink.run_bind, hsnapshot]
  dsimp only
  rw [Sink.run_bind, hload]
  dsimp only
  rw [Sink.run_bind, hall]
  rfl

/-- A run that gives a summary could read its inputs. -/
theorem loads_of_run {c : σ} (h : (o.run env random : StateM σ _).run a = (.ok summary, c)) :
    ∃ settings s gs b, o.Loads env random a settings s gs b := by
  rw [run, Sink.run_bind] at h
  rcases hsettings : (o.settingsSource.load env : StateM σ _).run a with ⟨fault | settings, c₁⟩
  · rw [hsettings] at h
    cases h
  · rw [hsettings] at h
    dsimp only at h
    rw [Sink.run_bind] at h
    rcases hsnapshot : (Snapshot.load o.snapshot : StateM σ _).run c₁ with ⟨fault | s, c₂⟩
    · rw [hsnapshot] at h
      cases h
    · rw [hsnapshot] at h
      dsimp only at h
      rw [Sink.run_bind] at h
      rcases hload : (Generators.load settings random : StateM σ _).run c₂ with ⟨fault | gs, b⟩
      · rw [hload] at h
        cases h
      · exact ⟨settings, s, gs, b, c₁, c₂, hsettings, hsnapshot, hload⟩

/-- A run gives a summary if and only if its inputs can be read; the summary is that of the passes
over these inputs. -/
theorem run_ok_iff {c : σ} :
    (o.run env random : StateM σ _).run a = (.ok summary, c) ↔
      ∃ settings s gs b, o.Loads env random a settings s gs b ∧ ∃ xs,
        (o.runAll s gs : StateM σ _).run b = (xs, c) ∧
          summary = ⟨s.declarations.length, xs⟩ := by
  constructor
  · intro h
    obtain ⟨settings, s, gs, b, hloads⟩ := loads_of_run h
    rcases hall : (o.runAll s gs : StateM σ _).run b with ⟨xs, c'⟩
    rw [run_of_loads hloads hall] at h
    cases h
    exact ⟨settings, s, gs, b, hloads, xs, hall, rfl⟩
  · rintro ⟨settings, s, gs, b, hloads, xs, hall, rfl⟩
    exact run_of_loads hloads hall

/-- A run of which something of a summary can be told gives that summary. -/
theorem exists_run_of_map {α : Type} {f : Summary → α} {y : α}
    (h : ((o.run env random : StateM σ _).run a).1.toOption.map f = some y) :
    ∃ summary c, (o.run env random : StateM σ _).run a = (.ok summary, c) ∧ f summary = y := by
  rcases hrun : (o.run env random : StateM σ _).run a with ⟨fault | summary, c⟩
  · rw [hrun] at h
    cases h
  · rw [hrun] at h
    exact ⟨summary, c, rfl, Option.some.inj h⟩

/-! ### The passes -/

/-- The path of the unit's file in the directory of the generator's contract. -/
def pathOf (o : Options) (g : Generator) (u : SourceUnit) : String :=
  Path.join (Path.join o.out g.contract.name) u.identity

/-- What a generator's pass into a directory of its contract leaves. -/
structure Ran (o : Options) (s : Snapshot) (g : Generator) (x : DirectoryRun) : Prop where
  /-- The contract is the generator's. -/
  contract : x.contract = g.contract
  /-- The directory tells of the units that have been accepted when the pass ends. -/
  leaves : ∃ k, g.Leaves s x.outcome k ∧
    x.directory.written = ((g.announced s).take k).map (o.pathOf g)

theorem runOne_run {p : Generator.Pass} {d : OutputDirectory}
    (h : ((g.pass s OutputDirectory.sink .never).run (o.directory g.contract) :
      StateM σ _).run a = ((p, d), b)) :
    (o.runOne s g : StateM σ _).run a = (⟨g.contract, d, p.outcome⟩, b) := by
  rw [runOne, Sink.run_bind, h]
  rfl

/-- A pass has one of the endings, with calls that the new directory answers. -/
theorem exists_ends_of_runOne (h : (o.runOne s g : StateM σ _).run a = (x, b)) :
    ∃ calls p, g.Ends s .never id calls p ∧ x = ⟨g.contract, x.directory, p.outcome⟩ ∧
      OutputDirectory.inState.Answers (o.directory g.contract, a) calls (x.directory, b) := by
  rcases hpass : ((g.pass s OutputDirectory.sink .never).run (o.directory g.contract) :
    StateM σ _).run a with ⟨⟨p, d⟩, c⟩
  rw [runOne_run hpass] at h
  cases h
  obtain ⟨calls, he, ha⟩ :=
    Generator.passWith_eq_iff.mp (Generator.passWith_inState_eq_iff.mpr hpass)
  exact ⟨calls, p, he, rfl, ha⟩

theorem runOne_ran (h : (o.runOne s g : StateM σ _).run a = (x, b)) : o.Ran s g x := by
  obtain ⟨calls, p, he, hx, ha⟩ := exists_ends_of_runOne h
  obtain ⟨k, hk, hkept⟩ := he.leaves (Generator.stops_of_never fun _ => rfl) rfl ha
  refine ⟨by rw [hx], k, by rw [hx]; exact hk, ?_⟩
  rw [(OutputDirectory.follows_of_answers ha).written, hkept]
  rfl

/-- Each generator makes its pass, whatever becomes of the others. -/
theorem runAll_runOne (h : (o.runAll s gs : StateM σ _).run a = (xs, b)) :
    List.Forall₂ (fun g x => ∃ c e : σ, (o.runOne s g : StateM σ _).run c = (x, e)) gs xs := by
  induction gs generalizing a xs with
  | nil =>
      cases h
      exact .nil
  | cons g gs ih =>
      rcases hone : (o.runOne s g : StateM σ _).run a with ⟨y, c⟩
      rcases hothers : (o.runAll s gs : StateM σ _).run c with ⟨ys, e⟩
      rw [runAll, Sink.run_bind, hone, Sink.run_bind, hothers] at h
      cases h
      exact .cons ⟨a, c, hone⟩ (ih hothers)

theorem runAll_ran (h : (o.runAll s gs : StateM σ _).run a = (xs, b)) :
    List.Forall₂ (o.Ran s) gs xs :=
  (runAll_runOne h).imp fun _ _ ⟨_, _, hone⟩ => runOne_ran hone

end Options

end Companion
