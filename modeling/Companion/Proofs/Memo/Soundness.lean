import Companion.Proofs.Passes.Histories

/-!
# Memo — what is remembered is what would be rendered

A unit is remembered across passes, and nobody looks at it before it is published again.  So it must
be the unit that the templates at hand give for its key.

* `MemoKey.unit`: the unit of a key, in a given namespace and from a given template.
* `Generator.Sound`: every unit that is remembered is `MemoKey.unit` of its key, from the template
  that is at hand now.
* `Generator.Sound.ends`: a pass keeps this, however it ends.
* `Generator.Reached.sound`: so it holds after every history.
-/

namespace Companion

namespace MemoKey

/-- The namespaces that a unit of the key can be in: the class's own; for a global class, those made
from the tokens drawn. -/
def IsScope (k : MemoKey) (drawn : List String) (scope : String) : Prop :=
  if k.namespace = "" then ∃ token ∈ drawn, scope = Scope.globalMark ++ token
  else scope = k.namespace

/-- The values of the placeholders in a unit of the key. -/
def values (k : MemoKey) (scope defaultField : String) : Bindings
  | .collectionType => k.parameters.elementType
  | .backingField => k.parameters.backingField.getD defaultField
  | .namespace => scope
  | .className => k.name
  | .accessor => k.accessibility.keyword

/-- The unit of the key in a namespace. -/
def unit (k : MemoKey) (scope : String) (settings : Settings) (t : Template) : SourceUnit where
  identity := scope ++ "." ++ k.name ++ settings.identitySuffix
  text := SourceUnit.header ++ fill (k.values scope settings.defaultBackingField) t.body.segments

theorem IsScope.mono {k : MemoKey} {drawn drawn' : List String} {scope : String}
    (h : k.IsScope drawn scope) (hd : ∀ token ∈ drawn, token ∈ drawn') :
    k.IsScope drawn' scope := by
  unfold IsScope at h ⊢
  by_cases hk : k.namespace = ""
  · rw [if_pos hk] at h ⊢
    obtain ⟨token, ht, rfl⟩ := h
    exact ⟨token, hd token ht, rfl⟩
  · rw [if_neg hk] at h ⊢
    exact h

end MemoKey

namespace Generator

variable {g : Generator} {s : Snapshot} {signal : Signal} {turn : Nat → Nat} {calls : Calls}
  {p : Pass} {drawn drawn' : List String} {k : MemoKey} {u : SourceUnit}

/-- The unit is what the templates at hand give for the key, in a namespace that the key can have
when these tokens are drawn. -/
def Gives (g : Generator) (drawn : List String) (k : MemoKey) (u : SourceUnit) : Prop :=
  k.contract = g.contract ∧ ∃ scope t, k.IsScope drawn scope ∧
    g.catalog.get? ⟨k.contract, k.parameters.shape⟩ = some t ∧ u = k.unit scope g.settings t

/-- Every unit that is remembered is what the templates at hand give for its key. -/
def Sound (g : Generator) (drawn : List String) : Prop :=
  ∀ k u, g.memo.get? k = some u → g.Gives drawn k u

theorem Gives.mono (h : g.Gives drawn k u) (hd : ∀ token ∈ drawn, token ∈ drawn') :
    g.Gives drawn' k u := by
  obtain ⟨hc, scope, t, hs, ht, hu⟩ := h
  exact ⟨hc, scope, t, hs.mono hd, ht, hu⟩

/-! ### The units of a pass -/

/-- What is rendered for a request depends on its key only. -/
theorem rendering_asked (g : Generator) (c : Candidate) (q : Parameters) (scope : Scope)
    (t : Template) :
    ((g.asked c q).rendering scope).unit t g.settings.identitySuffix =
      (g.asked c q).key.unit scope.text g.settings t := by
  have hv : ((g.asked c q).rendering scope).values =
      (g.asked c q).key.values scope.text g.settings.defaultBackingField := by
    funext hole
    cases hole <;> rfl
  simp only [Rendering.unit, Rendering.text, hv]
  rfl

/-- The unit that the templates at hand give for a key in the key's own namespace. -/
def unitOf? (g : Generator) (k : MemoKey) : Option SourceUnit :=
  (g.catalog.get? ⟨k.contract, k.parameters.shape⟩).map (k.unit k.namespace g.settings)

/-- What is ready for a key that is not global: the unit that is remembered, or the one that the
templates give. -/
def localReady? (g : Generator) (k : MemoKey) : Option Ready :=
  match g.memo.get? k with
  | some u => some ⟨k, u, true⟩
  | none => (g.unitOf? k).map fun u => ⟨k, u, false⟩

theorem readyOf?_of_local {r : Request} {plan : Plan} (hx : (r, plan) ∈ g.plans s)
    (hr : r.candidate.isGlobal = false) : g.readyOf? (r, plan) = g.localReady? r.key := by
  have hq : r = g.asked r.candidate r.parameters :=
    (eq_asked_of_mem_requests (mem_requests_of_mem_plans hx)).2
  cases Request.planned_of_mem_planAll hx with
  | reuse hu =>
      rw [localReady?, hu]
      rfl
  | own hn hg =>
      rw [localReady?, hn, unitOf?, Option.map_map]
      dsimp only [readyOf?, Request.ready?]
      rw [hq]
      refine Option.map_congr fun t _ => ?_
      rw [rendering_asked]
      rfl
  | global hn hg hd => rw [hr] at hg; cases hg

/-- Every unit that a pass prepares is what the templates at hand give for its key. -/
theorem Sound.gives_prepared (h : g.Sound drawn) {r : Ready} (hr : r ∈ g.prepared s) :
    g.Gives (drawn ++ g.tokens.drawnUntil (g.tokensAfter s)) r.key r.unit := by
  obtain ⟨⟨q, plan⟩, hx, hr⟩ := List.mem_filterMap.mp hr
  have hm : q ∈ g.requests s := mem_requests_of_mem_plans hx
  have hq := (eq_asked_of_mem_requests hm).2
  cases Request.planned_of_mem_planAll hx with
  | @reuse u hu =>
      -- the unit is as old as the memo
      cases hr
      exact (h _ _ hu).mono fun _ ht => List.mem_append_left _ ht
  | own hn hg =>
      obtain ⟨t, ht, rfl⟩ := Option.map_eq_some_iff.mp hr
      -- the class's own namespace, which the key has
      have hk : ¬q.key.namespace = "" := by
        rw [namespace_eq_empty_iff hm, hg]
        decide
      rw [hq] at ht hk ⊢
      exact ⟨rfl, _, t, (if_neg hk).mpr rfl, ht, rendering_asked _ _ _ _ _⟩
  | @global token hn hg hd =>
      obtain ⟨t, ht, rfl⟩ := Option.map_eq_some_iff.mp hr
      -- a namespace made from a token of this pass
      have hk := (namespace_eq_empty_iff hm).mpr hg
      rw [hq] at ht hk ⊢
      refine ⟨rfl, _, t, (if_pos hk).mpr ?_, ht, rendering_asked _ _ _ _ _⟩
      exact ⟨token, List.mem_append_right _ hd, rfl⟩

/-! ### Passes and histories -/

/-- A pass keeps the memo sound, however it ends. -/
theorem Sound.ends (h : g.Sound drawn) (he : g.Ends s signal turn calls p) :
    p.generator.Sound (drawn ++ g.tokens.drawnUntil p.generator.tokens) := by
  intro k u hk
  obtain ⟨hmarker, hsettings, hcatalog⟩ := he.frame
  have hg : g.Gives (drawn ++ g.tokens.drawnUntil p.generator.tokens) k u := by
    rcases he.get?_memo hk with hk | ⟨ht, r, hr, rfl, rfl⟩
    · exact (h k u hk).mono fun _ hd => List.mem_append_left _ hd
    · rw [ht]
      exact h.gives_prepared hr
  simpa only [Gives, contract, hmarker, hsettings, hcatalog] using hg

/-- A generator that remembers nothing is sound. -/
theorem sound_of_memo_eq (h : g.memo = {}) : g.Sound drawn := by
  intro k u hk
  rw [h] at hk
  cases hk

/-- After every history, the units remembered are what the templates at hand give. -/
theorem Reached.sound (h : Reached g drawn) : g.Sound drawn := by
  induction h with
  | create marker settings catalog random => exact sound_of_memo_eq rfl
  | withCatalog catalog _ _ => exact sound_of_memo_eq rfl
  | withTokens tokens _ ih => exact ih
  | pass _ hrun ih =>
      obtain ⟨calls, he, -⟩ := passWith_eq_iff.mp hrun
      exact ih.ends he

end Generator

end Companion
