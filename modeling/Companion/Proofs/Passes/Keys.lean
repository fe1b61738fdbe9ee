import Companion.Proofs.Candidates.Faults
import Companion.Proofs.Passes.Batches
import Mathlib.Data.List.Basic

/-!
# Passes — what a pass uses of a snapshot

Apart from what it reports about candidates, a pass uses of a snapshot only the keys of the requests
in it, in the host's order.  The key of a request says all that is planned and rendered for it; the
class that makes the request may have any handle and any other annotations.

* `Generator.keys`: the keys of a snapshot's requests.
* `Generator.prepared_eq` and `Generator.tokensAfter_eq`: the units of a pass and the tokens it
  leaves, from the keys.
* `Signal.Agrees`: two hosts give the same answers from now on.
* `Generator.batch_of_keys_eq`: over snapshots with the same keys, passes prepare the same.
-/

namespace Companion

namespace MemoKey

/-- What a unit of the key is rendered from. -/
def variant (k : MemoKey) : Variant := ⟨k.contract, k.parameters.shape⟩

/-- A request of the key; which class makes it is left open. -/
def request (k : MemoKey) (defaultField : String) : Request where
  candidate := ⟨0, k.namespace, k.accessibility, k.name, true, []⟩
  parameters := k.parameters
  resolution := k.parameters.resolve defaultField k.contract
  key := k

end MemoKey

namespace Signal

variable {signal signal' : Signal}

/-- The two hosts give the same answers from now on, however often they were asked before. -/
def Agrees (signal signal' : Signal) : Prop :=
  ∀ i, signal'.answer (signal'.asked + i) = signal.answer (signal.asked + i)

theorem Agrees.refl (signal : Signal) : signal.Agrees signal := fun _ => rfl

/-- Hosts that give one and the same answer to every question agree. -/
theorem agrees_of_constant {b : Bool} (h : ∀ i, signal.answer i = b)
    (h' : ∀ i, signal'.answer i = b) : signal.Agrees signal' := fun _ => by rw [h, h']

end Signal

namespace Generator

variable {g : Generator} {s s' : Snapshot} {signal signal' : Signal} {turn : Nat → Nat}
  {d : Declaration} {r : Request} {k : MemoKey}

/-! ### Keys -/

/-- The key under which the declaration's unit is remembered, if the declaration is served. -/
def keyOf? (g : Generator) (d : Declaration) : Option MemoKey := (g.requestOf? d).map (·.key)

/-- The keys of the requests, in the host's order. -/
def keys (g : Generator) (s : Snapshot) : List MemoKey := (g.requests s).map (·.key)

theorem keys_eq (g : Generator) (s : Snapshot) :
    g.keys s = s.declarations.filterMap g.keyOf? := by
  rw [keys, requests_eq, List.map_filterMap]
  rfl

/-- The key that the first annotation of the right simple name gives; there is none unless the
declaration is an annotated and partial class and that annotation gives an element type. -/
theorem keyOf?_eq (g : Generator) (d : Declaration) :
    g.keyOf? d =
      if g.isAnnotated d && d.kind == .class && d.isPartial then
        (d.attributes.find? fun a => a.name == g.marker.name).bind fun a =>
          (a.named.text? g.marker.elementParameter).map fun elementType =>
            ⟨g.contract, d.namespace.getD "", d.name, d.accessibility,
              ⟨elementType, a.named.text? g.marker.backingParameter⟩⟩
      else none := by
  unfold keyOf? requestOf?
  cases g.isAnnotated d && d.kind == .class with
  | false => rfl
  | true =>
      rw [if_pos rfl, Bool.true_and]
      cases hp : (Candidate.ofDeclaration d).isPartial with
      | false =>
          have hd : d.isPartial = false := hp
          rw [request_of_not_partial hp, hd]
          rfl
      | true =>
          have hd : d.isPartial = true := hp
          rw [request_of_attribute? hp, hd, if_pos rfl]
          simp only [Candidate.attribute?, Candidate.ofDeclaration]
          cases d.attributes.find? fun a => a.name == g.marker.name with
          | none => rfl
          | some a =>
              simp only [Except.bind, Option.bind_some, requestFrom, Parameters.ofArguments]
              cases a.named.text? g.marker.elementParameter <;> rfl

theorem length_keys (g : Generator) (s : Snapshot) : (g.keys s).length = (g.requests s).length :=
  List.length_map ..

/-- The request without the class that makes it. -/
def bare (g : Generator) (r : Request) : Request := r.key.request g.settings.defaultBackingField

theorem map_bare (g : Generator) (s : Snapshot) :
    (g.requests s).map g.bare =
      (g.keys s).map (·.request g.settings.defaultBackingField) := by
  rw [keys, List.map_map]
  rfl

theorem plan_bare (h : r ∈ g.requests s) (memo : Memo) (tokens : TokenSource) :
    (g.bare r).plan memo tokens = r.plan memo tokens := by
  rw [(eq_asked_of_mem_requests h).2]
  rfl

theorem readyOf?_bare (h : r ∈ g.requests s) (plan : Plan) :
    g.readyOf? (g.bare r, plan) = g.readyOf? (r, plan) := by
  rw [(eq_asked_of_mem_requests h).2]
  cases plan <;> rfl

theorem variant_of_mem_requests (h : r ∈ g.requests s) :
    r.resolution.variant = r.key.variant := by
  rw [(eq_asked_of_mem_requests h).2]
  rfl

theorem planAll_map_bare (memo : Memo) (tokens : TokenSource) {rs : List Request}
    (h : ∀ r ∈ rs, r ∈ g.requests s) :
    Request.planAll memo tokens (rs.map g.bare) =
      ((Request.planAll memo tokens rs).1.map fun x => (g.bare x.1, x.2),
        (Request.planAll memo tokens rs).2) := by
  induction rs generalizing tokens with
  | nil => rfl
  | cons r rs ih =>
      obtain ⟨hr, hrs⟩ := List.forall_mem_cons.mp h
      simp only [List.map_cons, Request.planAll, plan_bare hr, ih _ hrs]

/-! ### What is prepared -/

/-- The tokens that a pass leaves, from the keys. -/
theorem tokensAfter_eq (g : Generator) (s : Snapshot) :
    g.tokensAfter s = (Request.planAll g.memo g.tokens
      ((g.keys s).map (·.request g.settings.defaultBackingField))).2 := by
  rw [← map_bare, planAll_map_bare _ _ fun _ hr => hr, tokensAfter]

/-- The units of a pass, from the keys. -/
theorem prepared_eq (g : Generator) (s : Snapshot) :
    g.prepared s = (Request.planAll g.memo g.tokens
      ((g.keys s).map (·.request g.settings.defaultBackingField))).1.filterMap g.readyOf? := by
  rw [← map_bare, planAll_map_bare _ _ fun _ hr => hr, List.filterMap_map, prepared]
  refine List.filterMap_congr fun x hx => ?_
  exact (readyOf?_bare (mem_requests_of_mem_plans hx) x.2).symm

theorem any_variant_iff {v : Variant} :
    (g.requests s).any (fun r => r.resolution.variant == v) = true ↔
      ∃ k ∈ g.keys s, k.variant = v := by
  simp only [List.any_eq_true, beq_iff_eq, keys, List.mem_map, exists_exists_and_eq_and]
  exact exists_congr fun r => and_congr_right fun hr => by rw [variant_of_mem_requests hr]

/-- The template that is missed depends on which keys there are. -/
theorem missing?_congr (h : ∀ k, k ∈ g.keys s' ↔ k ∈ g.keys s) :
    g.missing? (g.requests s') = g.missing? (g.requests s) := by
  have hany : ∀ v, (g.requests s').any (fun r => r.resolution.variant == v) =
      (g.requests s).any fun r => r.resolution.variant == v := fun v => by
    rw [Bool.eq_iff_iff, any_variant_iff, any_variant_iff]
    simp only [h]
  simp only [missing?, hany]

/-! ### Snapshots with the same keys -/

theorem prepared_of_keys_eq (h : g.keys s' = g.keys s) : g.prepared s' = g.prepared s := by
  rw [prepared_eq, prepared_eq, h]

theorem tokensAfter_of_keys_eq (h : g.keys s' = g.keys s) :
    g.tokensAfter s' = g.tokensAfter s := by
  rw [tokensAfter_eq, tokensAfter_eq, h]

theorem length_requests_of_keys_eq (h : g.keys s' = g.keys s) :
    (g.requests s').length = (g.requests s).length := by
  rw [← length_keys, h, length_keys]

/-- Whether the host asks to stop depends on its answers and on the number of requests. -/
theorem stops_congr (h : (g.requests s').length = (g.requests s).length)
    (ha : signal.Agrees signal') : g.stops s' signal' turn = g.stops s signal turn := by
  have hanswer : ∀ i, signal'.answer (signal'.asked + 1 + i) =
      signal.answer (signal.asked + 1 + i) := fun i => by
    rw [Nat.add_assoc, Nat.add_assoc, ha]
  have hfirst : signal'.answer signal'.asked = signal.answer signal.asked := ha 0
  simp only [stops, h, hanswer, hfirst]

/-- Over the same keys and for hosts that agree, passes prepare the same; only the reports that go
with a missing template can differ. -/
theorem batch_of_keys_eq (turn : Nat → Nat) (h : g.keys s' = g.keys s)
    (ha : signal.Agrees signal') :
    (g.batch s' signal' turn).units = (g.batch s signal turn).units ∨
      ∃ d, (g.batch s signal turn).units = .error (.missingTemplate d (g.diagnostics s)) ∧
        (g.batch s' signal' turn).units = .error (.missingTemplate d (g.diagnostics s')) := by
  have hmissing : g.missing? (g.requests s') = g.missing? (g.requests s) :=
    missing?_congr fun k => by rw [h]
  cases hm : g.missing? (g.requests s) with
  | some v =>
      rw [batch_of_missing hm, batch_of_missing (hmissing.trans hm)]
      exact .inr ⟨_, rfl, rfl⟩
  | none =>
      have hcollision : g.collision? s' = g.collision? s := by
        rw [collision?, collision?, prepared_of_keys_eq h]
      rw [batch_of_complete hm, batch_of_complete (hmissing.trans hm), hcollision,
        stops_congr (length_requests_of_keys_eq h) ha, prepared_of_keys_eq h]
      exact .inl rfl

end Generator

end Companion
