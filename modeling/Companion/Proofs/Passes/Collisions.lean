import Companion.Proofs.Candidates.Reading
import Companion.Proofs.Memo.Soundness
import Companion.Proofs.Passes.Stores

/-!
# Passes — when identities collide

A class's unit is identified by namespace, name and suffix, and the annotation's by a name of fixed
form.  If each annotated class is in a namespace, and no two have the same namespace and name, then
the classes' units do not get in each other's way, whatever is remembered of earlier passes.  But
nothing keeps a class from having the identity of the annotation's unit.

* `SourceUnit.identityOf_tells`: what an identity tells of the namespace and the name, and of the
  token of a global class.
* `Generator.Sound.map_identity_prepared`: the identities of a pass in which no class is global.
* `Generator.Reached.collision_of_named`: such a pass ends in a collision just if a class that is
  served has the identity of the annotation's unit; under the suffix that is set by default, that is
  the class `Attribute` in the namespace called as the annotation.
-/

namespace Companion

/-! ### Identities -/

namespace SourceUnit

variable {scope scope' : Scope} {name name' suffix : String}

theorem toList_identityOf (scope : Scope) (name suffix : String) :
    (identityOf scope name suffix).toList =
      (scope.text.toList ++ '.' :: name.toList) ++ suffix.toList := by
  simp [identityOf]

/-- The front of a dotted name is moved to the end of the namespace. -/
def Moves (scope name scope' name' : String) : Prop :=
  ∃ front, name = front ++ "." ++ name' ∧ scope' = scope ++ "." ++ front

theorem moves_iff {scope name scope' name' : String} : Moves scope name scope' name' ↔
    ∃ front, name.toList = front ++ '.' :: name'.toList ∧
      scope'.toList = scope.toList ++ '.' :: front := by
  constructor
  · rintro ⟨front, rfl, rfl⟩
    exact ⟨front.toList, by simp, by simp⟩
  · rintro ⟨front, hname, hscope⟩
    refine ⟨.ofList front, String.toList_injective ?_, String.toList_injective ?_⟩
    · simp [hname]
    · simp [hscope]

/-- Under one suffix, an identity leaves open where a dotted name begins, and nothing else. -/
theorem identityOf_eq_iff : identityOf scope name suffix = identityOf scope' name' suffix ↔
    scope.text = scope'.text ∧ name = name' ∨
      Moves scope.text name scope'.text name' ∨ Moves scope'.text name' scope.text name := by
  rw [← String.toList_inj, toList_identityOf, toList_identityOf, List.append_left_inj,
    append_cons_eq_append_cons_iff, String.toList_inj, String.toList_inj, moves_iff, moves_iff]

theorem Moves.not_dotless {scope name scope' name' : String} (h : Moves scope name scope' name') :
    ¬Dotless name := by
  obtain ⟨front, rfl, -⟩ := h
  exact fun hn => hn (by simp)

/-- Under one suffix, an identity determines the namespace and the name, if names hold no dot. -/
theorem identityOf_inj (hn : Dotless name) (hn' : Dotless name')
    (h : identityOf scope name suffix = identityOf scope' name' suffix) :
    scope.text = scope'.text ∧ name = name' := by
  rcases identityOf_eq_iff.mp h with h | h | h
  · exact h
  · exact absurd hn h.not_dotless
  · exact absurd hn' h.not_dotless

/-- The namespace that is made up for a global class tells the token that is drawn. -/
theorem text_ofCandidate {c : Candidate} (h : c.isGlobal = true) (tokens : TokenSource) :
    (Scope.ofCandidate c tokens).1.text = Scope.globalMark ++ tokens.draw.1 := by
  rw [Scope.ofCandidate, if_pos h]
  rfl

/-- **What an identity tells.**  Under one suffix, and whatever the namespaces and names hold, two
units have one identity just if they have one namespace and one name, or if the front of the dotted
name of one ends the namespace of the other.  So if names hold no dot, an identity tells the
namespace and the name, and that of a global class tells the token that was drawn for it. -/
theorem identityOf_tells (scope scope' : Scope) (name name' suffix : String) :
    (identityOf scope name suffix = identityOf scope' name' suffix ↔
      scope.text = scope'.text ∧ name = name' ∨
        Moves scope.text name scope'.text name' ∨ Moves scope'.text name' scope.text name) ∧
    (Dotless name → Dotless name' →
      (identityOf scope name suffix = identityOf scope' name' suffix ↔
        scope.text = scope'.text ∧ name = name') ∧
      ∀ (c c' : Candidate) (tokens tokens' : TokenSource),
        c.isGlobal = true → c'.isGlobal = true →
        (identityOf (Scope.ofCandidate c tokens).1 name suffix =
            identityOf (Scope.ofCandidate c' tokens').1 name' suffix ↔
          tokens.draw.1 = tokens'.draw.1 ∧ name = name')) := by
  refine ⟨identityOf_eq_iff, fun hn hn' => ?_⟩
  have htells : ∀ scope scope' : Scope,
      identityOf scope name suffix = identityOf scope' name' suffix ↔
        scope.text = scope'.text ∧ name = name' := fun scope scope' =>
    ⟨identityOf_inj hn hn', fun h => identityOf_eq_iff.mpr (.inl h)⟩
  refine ⟨htells scope scope', fun c c' tokens tokens' hc hc' => ?_⟩
  rw [htells, text_ofCandidate hc, text_ofCandidate hc', String.append_right_inj]

/-- The theorem at a global class for which two tokens are drawn, and at a dotted name. -/
theorem identityOf_tells_carts :
    let c := Candidate.ofDeclaration (.cart none [])
    let tokens := TokenSource.cycle ["a", "b"]
    Dotless "Cart" ∧ c.isGlobal = true ∧
      identityOf (Scope.ofCandidate c tokens).1 "Cart" ".g.cs" ≠
        identityOf (Scope.ofCandidate c tokens.draw.2).1 "Cart" ".g.cs" ∧
      identityOf (.own "Shop") "Cart.Row" ".g.cs" =
        identityOf (.own "Shop.Cart") "Row" ".g.cs" := by
  intro c tokens
  have hn : Dotless "Cart" := by
    unfold Dotless
    decide
  have hc : c.isGlobal = true := by decide +kernel
  have htokens : ¬(tokens.draw.1 = tokens.draw.2.draw.1 ∧ "Cart" = "Cart") := by decide +kernel
  have htells := (identityOf_tells (.own "") (.own "") "Cart" "Cart" ".g.cs").2 hn hn
  have hdotted := (identityOf_tells (.own "Shop") (.own "Shop.Cart") "Cart.Row" "Row" ".g.cs").1
  exact ⟨hn, hc, (htells.2 c c tokens tokens.draw.2 hc hc).not.mpr htokens,
    hdotted.mpr (.inr (.inl ⟨"Cart", by decide, by decide⟩))⟩

/-- An annotation's unit is identified as a class's would be. -/
theorem definitionIdentity_eq (name : String) :
    definitionIdentity name = identityOf (.own name) "Attribute" ".g.cs" := by
  refine String.toList_injective ?_
  simp [definitionIdentity, identityOf, Scope.text]

end SourceUnit

namespace Generator

variable {g : Generator} {s : Snapshot} {drawn : List String} {signal : Signal}
  {turn : Nat → Nat} {p : Pass} {out : UnitStore} {identity : String}

/-! ### Repeated identities -/

/-- Where identities differ from each other, one can only occur among those before. -/
theorem mem_of_repeated?_eq_some {seen is : List String} (hn : is.Nodup)
    (h : repeated? seen is = some identity) : identity ∈ seen ∧ identity ∈ is := by
  induction is generalizing seen with
  | nil => cases h
  | cons i is ih =>
      obtain ⟨hi, hn⟩ := List.nodup_cons.mp hn
      by_cases hs : i ∈ seen
      · rw [repeated?, if_pos (List.contains_iff_mem.mpr hs)] at h
        cases h
        exact ⟨hs, List.mem_cons_self⟩
      · rw [repeated?, if_neg fun hc => hs (List.contains_iff_mem.mp hc)] at h
        obtain ⟨hseen, hmem⟩ := ih hn h
        have hne : identity ≠ i := fun e => hi (e ▸ hmem)
        exact ⟨(List.mem_cons.mp hseen).resolve_left hne, List.mem_cons_of_mem _ hmem⟩

/-- If the identities of the classes' units differ, only the annotation's can occur twice. -/
theorem collision?_eq_some_iff (hn : ((g.prepared s).map (·.unit.identity)).Nodup) :
    g.collision? s = some identity ↔
      identity = g.definition.identity ∧
        g.definition.identity ∈ (g.prepared s).map (·.unit.identity) := by
  constructor
  · intro h
    obtain ⟨hd, hmem⟩ := mem_of_repeated?_eq_some hn h
    obtain rfl := List.mem_singleton.mp hd
    exact ⟨rfl, hmem⟩
  · rintro ⟨rfl, hmem⟩
    cases hc : g.collision? s with
    | none => exact absurd hmem (List.nodup_cons.mp (collision?_eq_none_iff.mp hc)).1
    | some identity =>
        obtain ⟨hd, -⟩ := mem_of_repeated?_eq_some hn hc
        rw [List.mem_singleton.mp hd]

/-! ### Classes with namespaces of their own -/

/-- Each annotated class is in a namespace, names hold no dot, and no two classes have the same
namespace and name. -/
structure Named (g : Generator) (s : Snapshot) : Prop where
  /-- No class is global. -/
  located : ∀ c ∈ g.discover s, c.namespace ≠ ""
  /-- Names are simple. -/
  dotless : ∀ c ∈ g.discover s, Dotless c.name
  /-- Namespace and name tell classes apart. -/
  distinct : ((g.discover s).map fun c => (c.namespace, c.name)).Nodup

/-- The identity of a class's unit in the class's own namespace. -/
def ownIdentity (g : Generator) (c : Candidate) : String :=
  SourceUnit.identityOf (.own c.namespace) c.name g.settings.identitySuffix

/-- The classes that are served are among the annotated ones, in the same order. -/
theorem candidates_sublist (g : Generator) (s : Snapshot) :
    ((g.requests s).map (·.candidate)).Sublist (g.discover s) := by
  unfold requests
  induction g.discover s with
  | nil => exact .slnil
  | cons c cs ih =>
      cases hr : g.request c with
      | error d =>
          rw [List.filterMap_cons_none (by rw [hr]; rfl)]
          exact ih.cons c
      | ok r =>
          obtain ⟨-, p, -, rfl⟩ := request_ok_iff.mp hr
          rw [List.filterMap_cons_some (by rw [hr]; rfl), List.map_cons]
          exact ih.cons_cons c

/-- Off the global namespace, what is published has the class's own identity, whether it is
remembered or rendered. -/
theorem Sound.map_identity_prepared (h : g.Sound drawn) (hs : g.Named s)
    (hm : g.missing? (g.requests s) = none) :
    (g.prepared s).map (·.unit.identity) =
      (g.requests s).map fun r => g.ownIdentity r.candidate := by
  let identityOf (k : MemoKey) : String :=
    SourceUnit.identityOf (.own k.namespace) k.name g.settings.identitySuffix
  have hk : ∀ r ∈ g.requests s, r.key.namespace = r.candidate.namespace ∧
      r.key.name = r.candidate.name := by
    intro r hr
    rw [(eq_asked_of_mem_requests hr).2]
    exact ⟨rfl, rfl⟩
  have hu : ∀ r ∈ g.prepared s, r.unit.identity = identityOf r.key := by
    intro r hr
    obtain ⟨-, scope, t, hscope, -, hu⟩ := h.gives_prepared hr
    have hmem : r.key ∈ (g.requests s).map (·.key) := by
      rw [← map_key_prepared hm]
      exact List.mem_map_of_mem hr
    obtain ⟨q, hq, hqk⟩ := List.mem_map.mp hmem
    have hne : r.key.namespace ≠ "" := by
      rw [← hqk, (hk q hq).1]
      exact hs.located _ (eq_asked_of_mem_requests hq).1
    obtain rfl : scope = r.key.namespace := (if_neg hne).mp hscope
    rw [hu]
    rfl
  calc (g.prepared s).map (·.unit.identity)
      = ((g.prepared s).map (·.key)).map identityOf := by
        rw [List.map_map]
        exact List.map_congr_left hu
    _ = ((g.requests s).map (·.key)).map identityOf := by rw [map_key_prepared hm]
    _ = (g.requests s).map fun r => g.ownIdentity r.candidate := by
        rw [List.map_map]
        refine List.map_congr_left fun r hr => ?_
        simp only [Function.comp_apply, identityOf, hk r hr, ownIdentity]

theorem Named.nodup_ownIdentity (hs : g.Named s) :
    ((g.requests s).map fun r => g.ownIdentity r.candidate).Nodup := by
  have hsub := candidates_sublist g s
  have hpairs := hs.distinct.sublist (hsub.map fun c => (c.namespace, c.name))
  rw [List.map_map] at hpairs
  refine List.pairwise_map.mpr ((List.pairwise_map.mp hpairs).imp_of_mem ?_)
  intro q r hq hr hne hid
  have hq' := hs.dotless _ (eq_asked_of_mem_requests hq).1
  have hr' := hs.dotless _ (eq_asked_of_mem_requests hr).1
  obtain ⟨hnamespace, hname⟩ := SourceUnit.identityOf_inj hq' hr' hid
  exact hne (Prod.ext hnamespace hname)

/-- **When identities collide.**  Let each annotated class be in a namespace, let names hold no dot,
and let no two classes have the same namespace and name.  Then, after every history, a pass into an
empty unit store ends in a collision just if it gets as far as to compare identities and a class
that is served has the identity of the annotation's unit; the collision is over that identity.  With
the suffix that is set by default, that class is `Attribute` in the namespace that is called as the
annotation. -/
theorem Reached.collision_of_named (h : Reached g drawn) (hs : g.Named s)
    (hrun : (g.passWith s UnitStore.sink signal turn).run .empty = (p, out)) :
    (∀ identity, p.outcome = .error (.collision identity) ↔
      g.missing? (g.requests s) = none ∧ g.stops s signal turn = false ∧
        identity = g.definition.identity ∧
        ∃ r ∈ g.requests s, g.ownIdentity r.candidate = g.definition.identity) ∧
    (g.settings.identitySuffix = ".g.cs" → ∀ c : Candidate, Dotless c.name →
      (g.ownIdentity c = g.definition.identity ↔
        c.namespace = g.marker.name ∧ c.name = "Attribute")) := by
  refine ⟨fun identity => ?_, fun hsuffix c hc => ?_⟩
  · rw [run_store_collision_iff hrun]
    refine and_congr_right fun hm => and_congr_right fun _ => ?_
    have hids := h.sound.map_identity_prepared hs hm
    rw [collision?_eq_some_iff (hids ▸ hs.nodup_ownIdentity), hids, List.mem_map]
  · have hdefinition : g.definition.identity =
        SourceUnit.identityOf (.own g.marker.name) "Attribute" ".g.cs" :=
      SourceUnit.definitionIdentity_eq g.marker.name
    rw [hdefinition, ownIdentity, hsuffix]
    constructor
    · exact SourceUnit.identityOf_inj hc (by unfold Dotless; decide)
    · rintro ⟨hnamespace, hname⟩
      rw [hnamespace, hname]

/-- The theorem at the class `GenerateList.Attribute`. -/
theorem collision_attribute :
    let d : Declaration :=
      ⟨1, .class, "Attribute", some "GenerateList", .public, true,
        [.listOf "AutoCollection" "int"]⟩
    let s : Snapshot := { declarations := [d] }
    let x := (ofRows.passWith s UnitStore.sink .never id).run .empty
    ofRows.Named s ∧ x.1.outcome = .error (.collision "GenerateList.Attribute.g.cs") := by
  intro d s x
  have hrun : (ofRows.passWith s UnitStore.sink .never id).run .empty = (x.1, x.2) := rfl
  have hs : ofRows.Named s :=
    ⟨by decide +kernel, by unfold Dotless; decide +kernel, by decide +kernel⟩
  have hreached : Reached ofRows [] := .create _ _ _ _
  refine ⟨hs, ((Reached.collision_of_named hreached hs hrun).1 _).mpr ?_⟩
  decide +kernel

end Generator

end Companion
