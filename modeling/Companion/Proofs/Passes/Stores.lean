import Companion.Proofs.Passes.Publication
import Mathlib.Data.List.Nodup

/-!
# Passes — into an empty unit store

A unit store refuses a unit whose identity it has.  A pass makes sure by itself that its identities
differ before it publishes any class's unit, so an empty unit store accepts all it is offered, and
how the pass ends is settled by what it prepares.

* `UnitStore.answers_accepted_iff`: when a unit store accepts units one after the other.
* `UnitStore.get?_eq_some_iff`: what is found in a unit store.
* `Generator.run_store_of_ok` and `Generator.run_store_of_error`: the pass, if the batch has units
  and if it has none.
* `Generator.run_store_collision_iff`: when such a pass ends in a collision.
-/

namespace Companion

/-! ### Unit stores -/

namespace UnitStore

variable {a b : UnitStore} {u : SourceUnit} {us : List SourceUnit}

theorem sink_run_ok_iff :
    (sink u).run a = (.ok (), b) ↔ u.identity ∉ a.identities ∧ b = ⟨a.units ++ [u]⟩ := by
  by_cases hu : u.identity ∈ a.identities
  · have hrun : (sink u).run a = (.error (.collision u.identity), a) := by
      simp [sink, StateT.run, publish, hu]
    rw [hrun]
    constructor
    · intro h
      cases h
    · rintro ⟨hn, -⟩
      exact absurd hu hn
  · have hrun : (sink u).run a = (.ok (), ⟨a.units ++ [u]⟩) := by
      simp [sink, StateT.run, publish, hu]
    rw [hrun]
    constructor
    · intro h
      cases h
      exact ⟨hu, rfl⟩
    · rintro ⟨-, rfl⟩
      rfl

/-- A unit store accepts units whose identities differ from each other and from those it has. -/
theorem answers_accepted_iff (ha : a.identities.Nodup) :
    sink.Answers a (Calls.accepted us) b ↔
      (a.identities ++ us.map (·.identity)).Nodup ∧ b = ⟨a.units ++ us⟩ := by
  induction us generalizing a with
  | nil =>
      simp only [List.map_nil, List.append_nil]
      constructor
      · intro h
        cases h
        exact ⟨ha, rfl⟩
      · rintro ⟨-, rfl⟩
        exact .nil a
  | cons u us ih =>
      have hids : (⟨a.units ++ [u]⟩ : UnitStore).identities = a.identities ++ [u.identity] := by
        simp [identities]
      rw [Calls.accepted_cons, Sink.answers_cons_iff, List.map_cons]
      constructor
      · rintro ⟨c, hu, hc⟩
        obtain ⟨hn, rfl⟩ := sink_run_ok_iff.mp hu
        have hc' : (a.identities ++ [u.identity]).Nodup := by
          simpa [List.nodup_append] using ⟨ha, fun i hi e => hn (e ▸ hi)⟩
        obtain ⟨hnodup, rfl⟩ := (ih (hids ▸ hc')).mp hc
        rw [hids, List.append_assoc] at hnodup
        exact ⟨hnodup, by simp⟩
      · rintro ⟨hnodup, rfl⟩
        have hc' : ((a.identities ++ [u.identity]) ++ us.map (·.identity)).Nodup := by
          rwa [List.append_assoc]
        have hn : u.identity ∉ a.identities := fun hm =>
          (List.nodup_append.mp hnodup).2.2 _ hm _ List.mem_cons_self rfl
        refine ⟨_, sink_run_ok_iff.mpr ⟨hn, rfl⟩, (ih ?_).mpr ⟨hids ▸ hc', by simp⟩⟩
        exact hids ▸ (List.nodup_append.mp hc').1

/-- An empty unit store accepts units whose identities differ, and has them then. -/
theorem answers_empty_iff :
    sink.Answers .empty (Calls.accepted us) b ↔ (us.map (·.identity)).Nodup ∧ b = ⟨us⟩ :=
  answers_accepted_iff List.nodup_nil

/-- Of units whose identities differ, each is found under its own. -/
theorem get?_eq_some_iff {identity text : String} (h : (us.map (·.identity)).Nodup) :
    (⟨us⟩ : UnitStore).get? identity = some text ↔ ⟨identity, text⟩ ∈ us := by
  simp only [get?, Option.map_eq_some_iff]
  constructor
  · rintro ⟨u, hu, rfl⟩
    obtain rfl : u.identity = identity := by simpa using List.find?_some hu
    exact List.mem_of_find?_eq_some hu
  · intro hu
    obtain ⟨v, hv⟩ : ∃ v, us.find? (fun v => v.identity == identity) = some v :=
      Option.isSome_iff_exists.mp (List.find?_isSome.mpr ⟨_, hu, beq_self_eq_true identity⟩)
    have hidentity : v.identity = identity := by simpa using List.find?_some hv
    obtain rfl : v = ⟨identity, text⟩ :=
      List.inj_on_of_nodup_map h (List.mem_of_find?_eq_some hv) hu hidentity
    exact ⟨_, hv, rfl⟩

/-- Looking up units whose identities differ gives them back. -/
theorem inOrder_eq (h : (us.map (·.identity)).Nodup) : (⟨us⟩ : UnitStore).inOrder = us := by
  rw [inOrder, identities, List.filterMap_map]
  have hfound : ∀ u ∈ us, (⟨us⟩ : UnitStore).get? u.identity = some u.text := fun _ hu =>
    (get?_eq_some_iff h).mpr hu
  calc us.filterMap _
      = us.filterMap some := List.filterMap_congr fun u hu => by
          rw [Function.comp_apply, hfound u hu, Option.map_some]
    _ = us := List.filterMap_some

/-- The order in which units were published does not count for what is found. -/
theorem get?_of_perm {us' : List SourceUnit} (hp : us'.Perm us)
    (h : (us.map (·.identity)).Nodup) (identity : String) :
    (⟨us'⟩ : UnitStore).get? identity = (⟨us⟩ : UnitStore).get? identity := by
  have h' : (us'.map (·.identity)).Nodup := (hp.map _).nodup_iff.mpr h
  refine Option.ext fun text => ?_
  rw [get?_eq_some_iff h', get?_eq_some_iff h, hp.mem_iff]

end UnitStore

/-! ### Passes -/

namespace Generator

variable {g : Generator} {s : Snapshot} {signal : Signal} {turn : Nat → Nat} {failure : Failure}
  {p : Pass} {out : UnitStore} {identity : String}

theorem run_store_of_ok {ready : List Ready} (h : (g.batch s signal turn).units = .ok ready) :
    (g.passWith s UnitStore.sink signal turn).run .empty =
      ({ g with tokens := g.tokensAfter s }.complete s ⟨ready, g.memo.overlay ready⟩
        (g.batch s signal turn).signal, ⟨g.announced s⟩) := by
  obtain ⟨-, -, hc, rfl⟩ := batch_ok h
  refine passWith_of_ends (.completed h) (UnitStore.answers_empty_iff.mpr ⟨?_, rfl⟩)
  simpa [Function.comp_def] using collision?_eq_none_iff.mp hc

theorem run_store_of_error (h : (g.batch s signal turn).units = .error failure) :
    (g.passWith s UnitStore.sink signal turn).run .empty =
      (⟨.error failure, { g with tokens := g.tokensAfter s }, (g.batch s signal turn).signal⟩,
        ⟨[g.definition]⟩) := by
  have ha : UnitStore.sink.Answers .empty (Calls.accepted [g.definition]) ⟨[g.definition]⟩ :=
    UnitStore.answers_empty_iff.mpr ⟨List.pairwise_singleton _ _, rfl⟩
  exact passWith_of_ends (.unprepared h) ha

/-- A pass into an empty unit store fails for the reason for which there are no units. -/
theorem run_store_error_iff
    (h : (g.passWith s UnitStore.sink signal turn).run .empty = (p, out)) :
    p.outcome = .error failure ↔ (g.batch s signal turn).units = .error failure := by
  cases hb : (g.batch s signal turn).units with
  | ok ready =>
      obtain ⟨rfl, -⟩ := Prod.mk.inj ((run_store_of_ok hb).symm.trans h)
      exact ⟨nofun, nofun⟩
  | error failure' =>
      obtain ⟨rfl, -⟩ := Prod.mk.inj ((run_store_of_error hb).symm.trans h)
      simp

/-- A pass into an empty unit store ends in a collision if all templates are there, the host does
not ask to stop, and an identity occurs twice. -/
theorem run_store_collision_iff
    (h : (g.passWith s UnitStore.sink signal turn).run .empty = (p, out)) :
    p.outcome = .error (.collision identity) ↔
      g.missing? (g.requests s) = none ∧ g.stops s signal turn = false ∧
        g.collision? s = some identity := by
  rw [run_store_error_iff h, batch_collision_iff]

end Generator

end Companion
