import Companion.Proofs.Passes.Plans
import Mathlib.Data.List.Basic

/-!
# Candidates — which annotation is found and which is read

A class is discovered by the full name of the annotation: its namespace, a dot and its name.  What
the class asks for is read from the first attached annotation of the right simple name, and its
namespace is not looked at.  The two are the same attached annotation unless a name holds a dot, or
an annotation of the same name in another namespace is attached too.

* `qualified_inj`: a full name determines namespace and name, if names hold no dots.
* `Generator.exists_first`: a discovered class has a first annotation of the full name.
* `Generator.request_of_first`: it asks for what the first annotation of the simple name says.
* `Generator.unmatched_reported_iff`: when a class is reported for want of an annotation.
* `Generator.reading`: when the annotation that is read is the one that was found.
-/

namespace Companion

/-! ### First occurrences -/

/-- In `l` the element `a`, between `before` and `after`, is the first at which `f` is `y`. -/
structure FirstOf {α : Type} (f : α → String) (y : String) (l before : List α) (a : α)
    (after : List α) : Prop where
  /-- Where the element stands. -/
  split : l = before ++ a :: after
  /-- Its value. -/
  value : f a = y
  /-- Those before it have other values. -/
  first : ∀ x ∈ before, f x ≠ y

namespace FirstOf

variable {α : Type} {f : α → String} {y : String} {l p p' q q' : List α} {a a' : α}

theorem mem (h : FirstOf f y l p a q) : a ∈ l := by simp [h.split]

theorem exists_or_none (f : α → String) (y : String) (l : List α) :
    (∃ p a q, FirstOf f y l p a q) ∨ ∀ a ∈ l, f a ≠ y := by
  cases hf : l.find? fun x => f x == y with
  | none => exact .inr fun a ha => by simpa using List.find?_eq_none.mp hf a ha
  | some a =>
      obtain ⟨ha, p, q, hsplit, hfirst⟩ := List.find?_eq_some_iff_append.mp hf
      exact .inl ⟨p, a, q, hsplit, by simpa using ha, fun x hx => by simpa using hfirst x hx⟩

theorem find?_eq_some (h : FirstOf f y l p a q) : l.find? (fun x => f x == y) = some a := by
  refine List.find?_eq_some_iff_append.mpr ⟨by simpa using h.value, p, q, h.split, fun x hx => ?_⟩
  simpa using h.first x hx

theorem unique (h : FirstOf f y l p a q) (h' : FirstOf f y l p' a' q') : p = p' ∧ a = a' := by
  -- if the two stood apart, the one behind would not be the first
  rcases List.append_eq_append_iff.mp (h.split.symm.trans h'.split) with ⟨t, rfl, ht⟩ | ⟨t, rfl, ht⟩
  · cases t with
    | nil => exact ⟨by simp, (List.cons.inj ht).1⟩
    | cons x t =>
        obtain ⟨rfl, -⟩ := List.cons.inj ht
        exact absurd h.value (h'.first a (by simp))
  · cases t with
    | nil => exact ⟨by simp, (List.cons.inj ht).1.symm⟩
    | cons x t =>
        obtain ⟨rfl, -⟩ := List.cons.inj ht
        exact absurd h'.value (h.first a' (by simp))

end FirstOf

/-! ### Full names -/

/-- The name holds no dot. -/
def Dotless (name : String) : Prop := '.' ∉ name.toList

/-- A list is cut at a thing in two ways just if these are one, or if what is between the two cuts
stands behind the one and before the other. -/
theorem append_cons_eq_append_cons_iff {α : Type} {x : α} {l l' r r' : List α} :
    l ++ x :: r = l' ++ x :: r' ↔ l = l' ∧ r = r' ∨
      (∃ t, r = t ++ x :: r' ∧ l' = l ++ x :: t) ∨ ∃ t, r' = t ++ x :: r ∧ l = l' ++ x :: t := by
  constructor
  · intro h
    rcases List.append_eq_append_iff.mp h with ⟨t, rfl, ht⟩ | ⟨t, rfl, ht⟩
    · cases t with
      | nil => exact .inl ⟨by simp, (List.cons.inj ht).2⟩
      | cons y t =>
          obtain ⟨rfl, rfl⟩ := List.cons.inj ht
          exact .inr (.inl ⟨t, rfl, rfl⟩)
    · cases t with
      | nil => exact .inl ⟨by simp, (List.cons.inj ht).2.symm⟩
      | cons y t =>
          obtain ⟨rfl, rfl⟩ := List.cons.inj ht
          exact .inr (.inr ⟨t, rfl, rfl⟩)
  · rintro (⟨rfl, rfl⟩ | ⟨t, rfl, rfl⟩ | ⟨t, rfl, rfl⟩) <;> simp

/-- What stands before the last occurrence of a thing, and what stands behind it. -/
theorem append_cons_inj_of_last {α : Type} {x : α} {l l' r r' : List α} (hr : x ∉ r) (hr' : x ∉ r')
    (h : l ++ x :: r = l' ++ x :: r') : l = l' ∧ r = r' := by
  rcases append_cons_eq_append_cons_iff.mp h with h | ⟨t, rfl, -⟩ | ⟨t, rfl, -⟩
  · exact h
  · exact absurd (by simp) hr
  · exact absurd (by simp) hr'

theorem toList_qualified {scope name : String} (h : scope ≠ "") :
    (qualified scope name).toList = scope.toList ++ '.' :: name.toList := by
  rw [qualified, if_neg (by simpa using h)]
  simp

theorem qualified_empty (name : String) : qualified "" name = name := rfl

/-- A full name determines the namespace and the name, if the name holds no dot. -/
theorem qualified_inj {scope scope' name name' : String} (hn : Dotless name) (hn' : Dotless name')
    (h : qualified scope name = qualified scope' name') : scope = scope' ∧ name = name' := by
  by_cases hs : scope = "" <;> by_cases hs' : scope' = ""
  · subst hs hs'
    exact ⟨rfl, h⟩
  · subst hs
    refine absurd ?_ hn
    rw [← qualified_empty name, h, toList_qualified hs']
    simp
  · subst hs'
    refine absurd ?_ hn'
    rw [← qualified_empty name', ← h, toList_qualified hs]
    simp
  · have hl := congrArg String.toList h
    rw [toList_qualified hs, toList_qualified hs'] at hl
    obtain ⟨h₁, h₂⟩ := append_cons_inj_of_last hn hn' hl
    exact ⟨String.toList_injective h₁, String.toList_injective h₂⟩

namespace Generator

variable {g : Generator} {s : Snapshot} {c : Candidate} {a b : Attribute}
  {before after : List Attribute} {d : Diagnostic}

/-! ### The annotation that is found -/

/-- The full name by which classes are discovered. -/
def fullName (g : Generator) : String := g.marker.metadataName g.settings.annotationNamespace

/-- A discovered class has a first annotation of the full name. -/
theorem exists_first (h : c ∈ g.discover s) :
    ∃ before b after, FirstOf Attribute.metadataName g.fullName c.attributes before b after := by
  obtain ⟨d, hd, rfl⟩ := List.mem_map.mp h
  have ha : g.isAnnotated d = true := (Bool.and_eq_true_iff.mp (List.mem_filter.mp hd).2).1
  rcases FirstOf.exists_or_none Attribute.metadataName g.fullName d.attributes with hf | hn
  · exact hf
  · obtain ⟨b, hb, hbn⟩ := List.any_eq_true.mp ha
    exact absurd (beq_iff_eq.mp hbn) (hn b hb)

/-! ### The annotation that is read -/

/-- What a class that may be continued asks for, if it is read from the annotation. -/
def requestFrom (g : Generator) (c : Candidate) (a : Attribute) : Except Diagnostic Request :=
  (Parameters.ofArguments c g.marker a.named).map (g.asked c)

/-- The report that no annotation of the right simple name is attached. -/
def unmatched (g : Generator) (c : Candidate) : Diagnostic :=
  .forDeclaration Code.annotationNotMatched.id c.symbol c.name
    ("no '" ++ g.marker.name ++ "' annotation found on '" ++ c.name ++ "'")

theorem request_of_attribute? (hp : c.isPartial = true) :
    g.request c = (c.attribute? g.marker).bind (g.requestFrom c) := by
  cases ha : c.attribute? g.marker with
  | error d => simp [request, Parameters.ofCandidate, hp, ha, Except.bind]
  | ok a =>
      cases hq : Parameters.ofArguments c g.marker a.named <;>
        simp [request, Parameters.ofCandidate, hp, ha, hq, requestFrom, asked, Except.bind,
          Except.map]

/-- A class asks for what its first annotation of the right simple name says. -/
theorem request_of_first (hp : c.isPartial = true)
    (h : FirstOf Attribute.name g.marker.name c.attributes before a after) :
    g.request c = g.requestFrom c a := by
  rw [request_of_attribute? hp, Candidate.attribute?, h.find?_eq_some]
  rfl

theorem request_of_none (hp : c.isPartial = true)
    (h : ∀ a ∈ c.attributes, a.name ≠ g.marker.name) :
    g.request c = .error (g.unmatched c) := by
  have hfind : c.attributes.find? (fun x => x.name == g.marker.name) = none :=
    List.find?_eq_none.mpr fun x hx => by simpa using h x hx
  rw [request_of_attribute? hp, Candidate.attribute?, hfind]
  rfl

/-! ### Reports of a missing annotation -/

theorem id_of_requestFrom_error (h : g.requestFrom c a = .error d) :
    d.id = Code.missingElementType.id := by
  unfold requestFrom Parameters.ofArguments at h
  split at h <;> cases h
  rfl

/-- A class is reported for want of an annotation only if it may be continued and none of the right
simple name is attached. -/
theorem id_of_request_error (h : g.request c = .error d) :
    d.id = Code.annotationNotMatched.id ↔
      c.isPartial = true ∧ ∀ a ∈ c.attributes, a.name ≠ g.marker.name := by
  cases hp : c.isPartial with
  | false =>
      simp only [request, hp, Bool.not_false, if_true] at h
      cases h
      simp [Candidate.notPartial, Diagnostic.forDeclaration, Code.id]
  | true =>
      rcases FirstOf.exists_or_none Attribute.name g.marker.name c.attributes with
        ⟨before, a, after, hf⟩ | hn
      · rw [request_of_first hp hf] at h
        rw [id_of_requestFrom_error h]
        constructor
        · exact fun hid => absurd hid (by decide)
        · rintro ⟨-, hn⟩
          exact absurd hf.value (hn a hf.mem)
      · rw [request_of_none hp hn] at h
        cases h
        exact ⟨fun _ => ⟨rfl, hn⟩, fun _ => rfl⟩

theorem mem_rejected_iff : d ∈ g.rejected s ↔ ∃ c ∈ g.discover s, g.request c = .error d := by
  simp only [rejected, List.mem_filterMap]
  refine exists_congr fun c => and_congr_right fun _ => ?_
  cases g.request c <;> simp

/-- When a pass reports a class for want of an annotation. -/
theorem unmatched_reported_iff :
    (∃ d ∈ g.diagnostics s, d.id = Code.annotationNotMatched.id) ↔
      ∃ c ∈ g.discover s, c.isPartial = true ∧ ∀ a ∈ c.attributes, a.name ≠ g.marker.name := by
  constructor
  · rintro ⟨d, hd, hid⟩
    rcases List.mem_append.mp hd with hd | hd
    · obtain ⟨x, -, rfl⟩ := List.mem_map.mp hd
      have hx : (Diagnostic.notAClass g.marker x).id = Code.notAClass.id := rfl
      rw [hx] at hid
      exact absurd hid (by decide)
    · obtain ⟨c, hc, hr⟩ := mem_rejected_iff.mp hd
      exact ⟨c, hc, (id_of_request_error hr).mp hid⟩
  · rintro ⟨c, hc, hp, hn⟩
    have hr := request_of_none hp hn
    exact ⟨_, List.mem_append_right _ (mem_rejected_iff.mpr ⟨c, hc, hr⟩), rfl⟩

/-! ### The two searches -/

/-- The annotation that is found is the one that is read just if it has the right simple name and
none before it has. -/
theorem eq_iff_of_first {pre post : List Attribute}
    (hb : FirstOf Attribute.metadataName g.fullName c.attributes before b after)
    (ha : FirstOf Attribute.name g.marker.name c.attributes pre a post) :
    pre = before ↔ b.name = g.marker.name ∧ ∀ x ∈ before, x.name ≠ g.marker.name := by
  constructor
  · rintro rfl
    have hsplit := List.append_cancel_left (ha.split.symm.trans hb.split)
    obtain ⟨rfl, -⟩ := List.cons.inj hsplit
    exact ⟨ha.value, ha.first⟩
  · rintro ⟨hn, hfirst⟩
    exact (ha.unique ⟨hb.split, hn, hfirst⟩).1

/-- In names without dots, the annotation that is found has the right simple name. -/
theorem name_of_first (hm : Dotless g.marker.name) (hd : ∀ a ∈ c.attributes, Dotless a.name)
    (hb : FirstOf Attribute.metadataName g.fullName c.attributes before b after) :
    b.name = g.marker.name :=
  (qualified_inj (hd b hb.mem) hm hb.value).2

/-- **Which annotation is found and which is read.**  A discovered class has a first annotation `b`
of the full name.  If the class may be continued, then it is read from its first annotation of the
right simple name, in whatever namespace; that one is `b` just if `b` has the simple name and none
before `b` has.  Without any it is reported, and a pass reports a missing annotation in no other
case.

If no name holds a dot, a missing annotation is never reported, and the class is read from `b`
unless an annotation of the same name in another namespace stands before it. -/
theorem reading (g : Generator) (s : Snapshot) :
    (∀ c ∈ g.discover s, c.isPartial = true → ∃ before b after,
      FirstOf Attribute.metadataName g.fullName c.attributes before b after ∧
      (∀ pre a post, FirstOf Attribute.name g.marker.name c.attributes pre a post →
        g.request c = g.requestFrom c a ∧
        (pre = before ↔ b.name = g.marker.name ∧ ∀ x ∈ before, x.name ≠ g.marker.name)) ∧
      ((∀ a ∈ c.attributes, a.name ≠ g.marker.name) → g.request c = .error (g.unmatched c))) ∧
    ((∃ d ∈ g.diagnostics s, d.id = Code.annotationNotMatched.id) ↔
      ∃ c ∈ g.discover s, c.isPartial = true ∧ ∀ a ∈ c.attributes, a.name ≠ g.marker.name) ∧
    (Dotless g.marker.name → (∀ c ∈ g.discover s, ∀ a ∈ c.attributes, Dotless a.name) →
      (∀ d ∈ g.diagnostics s, d.id ≠ Code.annotationNotMatched.id) ∧
      ∀ c ∈ g.discover s, c.isPartial = true → ∀ before b after,
        FirstOf Attribute.metadataName g.fullName c.attributes before b after →
        (∀ x ∈ before, x.name ≠ g.marker.name) → g.request c = g.requestFrom c b) := by
  refine ⟨fun c hc hp => ?_, unmatched_reported_iff, fun hm hd => ⟨fun d hmem hid => ?_, ?_⟩⟩
  · obtain ⟨before, b, after, hb⟩ := exists_first hc
    exact ⟨before, b, after, hb,
      fun _ _ _ ha => ⟨request_of_first hp ha, eq_iff_of_first hb ha⟩, request_of_none hp⟩
  · obtain ⟨c, hc, -, hn⟩ := unmatched_reported_iff.mp ⟨d, hmem, hid⟩
    obtain ⟨before, b, after, hb⟩ := exists_first hc
    exact hn b hb.mem (name_of_first hm (hd c hc) hb)
  · intro c hc hp before b after hb hfirst
    exact request_of_first hp ⟨hb.split, name_of_first hm (hd c hc) hb, hfirst⟩

/-- The two searches may part.  If an annotation of the same name in another namespace stands first,
the class is not read from the annotation that was found.  If a name with a dot makes up the full
name, the annotation that was found is reported missing. -/
theorem not_reading_of_full_name :
    (¬∀ (g : Generator) (s : Snapshot), ∀ c ∈ g.discover s, c.isPartial = true →
      ∀ before b after,
        FirstOf Attribute.metadataName g.fullName c.attributes before b after →
        g.request c = g.requestFrom c b) ∧
    ¬∀ (g : Generator) (s : Snapshot), ∀ d ∈ g.diagnostics s,
      d.id ≠ Code.annotationNotMatched.id := by
  constructor
  · intro h
    let d := Declaration.cart (some "Shop")
      [.listOf "Other" "int", .listOf "AutoCollection" "string"]
    have hread := h ofRows { declarations := [d] } (.ofDeclaration d) (by decide +kernel) rfl
      [.listOf "Other" "int"] (.listOf "AutoCollection" "string") []
      ⟨rfl, by decide +kernel, by decide +kernel⟩
    revert hread
    decide +kernel
  · intro h
    let d := Declaration.cart (some "Shop") [⟨"AutoCollection.GenerateList", "", [], []⟩]
    have hnone := h ofRows { declarations := [d] }
    revert hnone
    decide +kernel

/-- The theorem at a class on which an annotation of the same name in another namespace stands
first: that one is read. -/
theorem reading_cart :
    let d := Declaration.cart (some "Shop")
      [.listOf "Other" "int", .listOf "AutoCollection" "string"]
    let c := Candidate.ofDeclaration d
    c ∈ ofRows.discover { declarations := [d] } ∧
      ofRows.request c = ofRows.requestFrom c (.listOf "Other" "int") := by
  intro d c
  have hc : c ∈ ofRows.discover { declarations := [d] } := by decide +kernel
  obtain ⟨before, b, after, -, hread, -⟩ := (reading ofRows { declarations := [d] }).1 c hc rfl
  have hfirst : FirstOf Attribute.name ofRows.marker.name c.attributes []
      (.listOf "Other" "int") [.listOf "AutoCollection" "string"] :=
    ⟨rfl, by decide, by simp⟩
  exact ⟨hc, (hread _ _ _ hfirst).1⟩

end Generator

end Companion
