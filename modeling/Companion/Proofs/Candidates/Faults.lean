import Companion.Proofs.Candidates.Reading

/-!
# Candidates — what becomes of a declaration

A declaration without the annotation is passed over.  One that is not a class is warned of.  A class
is checked: it must be partial, an annotation of the right simple name must be attached, and that
annotation must give an element type.  The first check that fails is reported; a class that passes
is served.

* `Arguments.text?_eq_none_iff`: a name has no text if no argument, a null argument or a blank one
  is given under it.
* `Arguments.text?_eq_some_iff`: otherwise it has the text of the last argument.
* `Generator.Fails` and `Generator.Serves`: the checks, said of the declaration.
* `Generator.requests_eq`, `Generator.skipped_eq` and `Generator.rejected_eq`: what a pass serves
  and reports, declaration by declaration.
* `Generator.fate`: the four things that can become of a declaration.
* `Generator.Faulty`: the ways in which a declaration can ask for nothing.
-/

namespace Companion

/-! ### Arguments -/

namespace Arguments

variable {arguments : Arguments} {name text : String} {a : Argument}

/-- The argument is the last one given under the name. -/
def Given (arguments : Arguments) (name : String) (a : Argument) : Prop :=
  ∃ before after, arguments = before ++ (name, a) :: after ∧ ∀ x ∈ after, x.1 ≠ name

/-- No text is given under the name. -/
inductive Lacks (arguments : Arguments) (name : String) : Prop where
  /-- There is no argument. -/
  | absent : (∀ x ∈ arguments, x.1 ≠ name) → Lacks arguments name
  /-- The argument is null. -/
  | null : arguments.Given name .null → Lacks arguments name
  /-- The argument's text is blank. -/
  | blank {a : Argument} {text : String} : arguments.Given name a → a.text? = some text →
      Text.isBlank text = true → Lacks arguments name

/-- The text is given under the name, and is not blank. -/
def Gives (arguments : Arguments) (name text : String) : Prop :=
  ∃ a, arguments.Given name a ∧ a.text? = some text ∧ Text.isBlank text = false

theorem get?_eq_none_iff : arguments.get? name = none ↔ ∀ x ∈ arguments, x.1 ≠ name := by
  simp only [get?, List.lookup_eq_none_iff, List.mem_reverse, bne_iff_ne]
  exact forall₂_congr fun x _ => ne_comm

theorem get?_eq_some_iff : arguments.get? name = some a ↔ arguments.Given name a := by
  simp only [get?, List.lookup_eq_some_iff, bne_iff_ne, Given]
  -- the arguments are searched from the last to the first
  constructor
  · rintro ⟨after, before, hsplit, hafter⟩
    refine ⟨before.reverse, after.reverse, ?_, fun x hx => (hafter x (by simpa using hx)).symm⟩
    simpa using congrArg List.reverse hsplit
  · rintro ⟨before, after, rfl, hafter⟩
    exact ⟨after.reverse, before.reverse, by simp,
      fun x hx => (hafter x (by simpa using hx)).symm⟩

theorem text?_null_iff {a : Argument} : a.text? = none ↔ a = .null := by
  cases a <;> simp [Argument.text?]

/-- When a name has no text. -/
theorem text?_eq_none_iff : arguments.text? name = none ↔ arguments.Lacks name := by
  constructor
  · intro h
    cases hget : arguments.get? name with
    | none => exact .absent (get?_eq_none_iff.mp hget)
    | some a =>
        cases htext : a.text? with
        | none => exact .null (text?_null_iff.mp htext ▸ get?_eq_some_iff.mp hget)
        | some text =>
            refine .blank (get?_eq_some_iff.mp hget) htext ?_
            simpa [text?, hget, htext] using h
  · intro h
    cases h with
    | absent hn => simp [text?, get?_eq_none_iff.mpr hn]
    | null hg => simp [text?, get?_eq_some_iff.mpr hg, Argument.text?]
    | blank hg htext hblank => simp [text?, get?_eq_some_iff.mpr hg, htext, hblank]

/-- When a name has a text. -/
theorem text?_eq_some_iff : arguments.text? name = some text ↔ arguments.Gives name text := by
  constructor
  · intro h
    cases hget : arguments.get? name with
    | none => simp [text?, hget] at h
    | some a =>
        cases htext : a.text? with
        | none => simp [text?, hget, htext] at h
        | some t =>
            simp only [text?, hget, Option.bind_some, htext, Option.ite_none_left_eq_some,
              Option.some.injEq, Bool.not_eq_true] at h
            obtain ⟨hblank, rfl⟩ := h
            exact ⟨a, get?_eq_some_iff.mp hget, htext, hblank⟩
  · rintro ⟨a, hgiven, htext, hblank⟩
    simp [text?, get?_eq_some_iff.mpr hgiven, htext, hblank]

end Arguments

/-! ### Reports -/

/-- The report has the code, is as bad as said, and is about the declaration. -/
structure Diagnostic.About (x : Diagnostic) (d : Declaration) (code : Code)
    (severity : Severity) : Prop where
  /-- The number of the cause. -/
  id : x.id = code.id
  /-- How bad it is. -/
  severity : x.severity = severity
  /-- The handle. -/
  symbol : x.symbol = some d.symbol
  /-- The name. -/
  typeName : x.typeName = some d.name

namespace Generator

variable {g : Generator} {s : Snapshot} {d : Declaration} {x : Diagnostic} {r : Request}
  {code : Code}

/-! ### The checks -/

/-- The class fails the checks, and the code is that of the first one it fails. -/
inductive Fails (g : Generator) (d : Declaration) : Code → Prop where
  /-- It is not partial. -/
  | notPartial : d.isPartial = false → Fails g d .notPartial
  /-- It is partial, but has no annotation of the right simple name. -/
  | unmatched : d.isPartial = true → (∀ a ∈ d.attributes, a.name ≠ g.marker.name) →
      Fails g d .annotationNotMatched
  /-- It is partial and has such an annotation, but the first one gives no element type. -/
  | missing {before after : List Attribute} {a : Attribute} : d.isPartial = true →
      FirstOf Attribute.name g.marker.name d.attributes before a after →
      a.named.Lacks g.marker.elementParameter → Fails g d .missingElementType

/-- The class passes the checks. -/
structure Serves (g : Generator) (d : Declaration) : Prop where
  /-- It is partial. -/
  isPartial : d.isPartial = true
  /-- It has an annotation of the right simple name. -/
  matched : ∃ a ∈ d.attributes, a.name = g.marker.name
  /-- The first such annotation gives an element type. -/
  supplied : ∀ before a after, FirstOf Attribute.name g.marker.name d.attributes before a after →
    ¬a.named.Lacks g.marker.elementParameter

theorem Fails.not_serves (h : g.Fails d code) : ¬g.Serves d := by
  intro hs
  cases h with
  | notPartial hn => simp [hs.isPartial] at hn
  | unmatched _ hn =>
      obtain ⟨a, ha, he⟩ := hs.matched
      exact hn a ha he
  | missing _ hf hl => exact hs.supplied _ _ _ hf hl

theorem Serves.of_first {before after : List Attribute} {a : Attribute} (hp : d.isPartial = true)
    (hf : FirstOf Attribute.name g.marker.name d.attributes before a after)
    (hl : ¬a.named.Lacks g.marker.elementParameter) : g.Serves d := by
  refine ⟨hp, ⟨a, hf.mem, hf.value⟩, fun _ a' _ hf' => ?_⟩
  obtain ⟨-, rfl⟩ := hf.unique hf'
  exact hl

theorem request_of_not_partial {c : Candidate} (h : c.isPartial = false) :
    g.request c = .error (c.notPartial g.contract) := by
  simp [request, h]

/-- What is read from an annotation that gives an element type. -/
theorem requestFrom_of_text? {c : Candidate} {a : Attribute} {elementType : String}
    (h : a.named.text? g.marker.elementParameter = some elementType) :
    g.requestFrom c a =
      .ok (g.asked c ⟨elementType, a.named.text? g.marker.backingParameter⟩) := by
  simp [requestFrom, Parameters.ofArguments, h, Except.map]

theorem requestFrom_of_lacks {a : Attribute} (h : a.named.Lacks g.marker.elementParameter) :
    ∃ x, g.requestFrom (.ofDeclaration d) a = .error x ∧
      x.About d .missingElementType .error := by
  simp only [requestFrom, Parameters.ofArguments, Arguments.text?_eq_none_iff.mpr h, Except.map]
  exact ⟨_, rfl, rfl, rfl, rfl, rfl⟩

/-- A class is served, or it is reported for the first check that it fails. -/
theorem request_ofDeclaration (g : Generator) (d : Declaration) :
    (∃ p, g.Serves d ∧ g.request (.ofDeclaration d) = .ok (g.asked (.ofDeclaration d) p)) ∨
      ∃ x code, g.Fails d code ∧ g.request (.ofDeclaration d) = .error x ∧
        x.About d code .error := by
  -- the checks, in the order in which they are made
  cases hp : d.isPartial with
  | false =>
      exact .inr ⟨_, _, .notPartial hp, request_of_not_partial hp, ⟨rfl, rfl, rfl, rfl⟩⟩
  | true =>
      rcases FirstOf.exists_or_none Attribute.name g.marker.name d.attributes with
        ⟨before, a, after, hf⟩ | hn
      · have hr : g.request (.ofDeclaration d) = g.requestFrom (.ofDeclaration d) a :=
          request_of_first hp hf
        cases htext : a.named.text? g.marker.elementParameter with
        | none =>
            have hl := Arguments.text?_eq_none_iff.mp htext
            obtain ⟨x, hx, habout⟩ := requestFrom_of_lacks hl
            exact .inr ⟨x, _, .missing hp hf hl, hr.trans hx, habout⟩
        | some elementType =>
            have hl : ¬a.named.Lacks g.marker.elementParameter := by
              rw [← Arguments.text?_eq_none_iff, htext]
              exact nofun
            exact .inl ⟨_, .of_first hp hf hl, hr.trans (requestFrom_of_text? htext)⟩
      · exact .inr ⟨g.unmatched _, _, .unmatched hp hn, request_of_none hp hn,
          ⟨rfl, rfl, rfl, rfl⟩⟩

/-! ### Declaration by declaration -/

/-- What the declaration asks for, if it is served. -/
def requestOf? (g : Generator) (d : Declaration) : Option Request :=
  if g.isAnnotated d && d.kind == .class then (g.request (.ofDeclaration d)).toOption else none

/-- The warning that the declaration is not a class. -/
def warningOf? (g : Generator) (d : Declaration) : Option Diagnostic :=
  if g.isAnnotated d && d.kind != .class then some (.notAClass g.marker d) else none

/-- Why the class cannot be served. -/
def errorOf? (g : Generator) (d : Declaration) : Option Diagnostic :=
  if g.isAnnotated d && d.kind == .class then
    match g.request (.ofDeclaration d) with
    | .error x => some x
    | .ok _ => none
  else none

theorem requests_eq (g : Generator) (s : Snapshot) :
    g.requests s = s.declarations.filterMap g.requestOf? := by
  rw [requests, discover, List.filterMap_map, List.filterMap_filter]
  rfl

theorem skipped_eq (g : Generator) (s : Snapshot) :
    g.skipped s = s.declarations.filterMap g.warningOf? := by
  rw [skipped, ← List.filterMap_eq_map, List.filterMap_filter]
  rfl

theorem rejected_eq (g : Generator) (s : Snapshot) :
    g.rejected s = s.declarations.filterMap g.errorOf? := by
  rw [rejected, discover, List.filterMap_map, List.filterMap_filter]
  rfl

/-- What can become of a declaration, with what is asked for it, the warning and the error. -/
inductive Fate (g : Generator) (d : Declaration) :
    Option Request → Option Diagnostic → Option Diagnostic → Prop where
  /-- It is passed over. -/
  | other : g.isAnnotated d = false → Fate g d none none none
  /-- It is warned of, as it is not a class. -/
  | notAClass {x : Diagnostic} : g.isAnnotated d = true → d.kind ≠ .class →
      x.About d .notAClass .warning → Fate g d none (some x) none
  /-- It is a class that fails the checks. -/
  | rejected {x : Diagnostic} {code : Code} : g.isAnnotated d = true → d.kind = .class →
      g.Fails d code → x.About d code .error → Fate g d none none (some x)
  /-- It is a class that is served. -/
  | served (p : Parameters) : g.isAnnotated d = true → d.kind = .class → g.Serves d →
      Fate g d (some (g.asked (.ofDeclaration d) p)) none none

/-- One of the four things becomes of every declaration. -/
theorem fate (g : Generator) (d : Declaration) :
    g.Fate d (g.requestOf? d) (g.warningOf? d) (g.errorOf? d) := by
  unfold requestOf? warningOf? errorOf?
  cases ha : g.isAnnotated d with
  | false => exact .other ha
  | true =>
      by_cases hk : d.kind = .class
      · rcases request_ofDeclaration g d with ⟨p, hs, hr⟩ | ⟨x, code, hf, hr, hx⟩
        · simpa [hk, hr, Except.toOption] using .served p ha hk hs
        · simpa [hk, hr, Except.toOption] using .rejected ha hk hf hx
      · simpa [hk] using .notAClass ha hk ⟨rfl, rfl, rfl, rfl⟩

theorem Fate.of_warning {request : Option Request} {error : Option Diagnostic}
    (h : g.Fate d request (some x) error) : x.About d .notAClass .warning := by
  cases h with
  | notAClass ha hk hx => exact hx

theorem Fate.of_error {request : Option Request} {warning : Option Diagnostic}
    (h : g.Fate d request warning (some x)) : ∃ code, g.Fails d code ∧ x.About d code .error := by
  cases h with
  | rejected ha hk hf hx => exact ⟨_, hf, hx⟩

/-- Only an annotated class that passes the checks asks for something. -/
theorem Fate.of_request {warning error : Option Diagnostic} (h : g.Fate d (some r) warning error) :
    g.isAnnotated d = true ∧ d.kind = .class ∧ g.Serves d := by
  cases h with
  | served p ha hk hs => exact ⟨ha, hk, hs⟩

/-! ### Declarations that ask for nothing -/

/-- Nothing can be generated for the declaration. -/
inductive Faulty (g : Generator) (d : Declaration) : Prop where
  /-- It is not annotated. -/
  | unannotated : g.isAnnotated d = false → Faulty g d
  /-- It is not a class. -/
  | notAClass : d.kind ≠ .class → Faulty g d
  /-- It is not partial. -/
  | notPartial : d.isPartial = false → Faulty g d
  /-- It has no annotation of the right simple name. -/
  | unmatched : (∀ a ∈ d.attributes, a.name ≠ g.marker.name) → Faulty g d
  /-- Its first annotation of the right simple name gives no element type. -/
  | missing {before after : List Attribute} {a : Attribute} :
      FirstOf Attribute.name g.marker.name d.attributes before a after →
      a.named.Lacks g.marker.elementParameter → Faulty g d

/-- A faulty declaration asks for nothing. -/
theorem Faulty.requestOf?_eq_none (h : g.Faulty d) : g.requestOf? d = none := by
  cases hr : g.requestOf? d with
  | none => rfl
  | some r =>
      obtain ⟨ha, hk, hs⟩ := (hr ▸ g.fate d).of_request
      cases h with
      | unannotated hn => simp [ha] at hn
      | notAClass hn => exact absurd hk hn
      | notPartial hn => simp [hs.isPartial] at hn
      | unmatched hn =>
          obtain ⟨a, ha, he⟩ := hs.matched
          exact absurd he (hn a ha)
      | missing hf hl => exact absurd hl (hs.supplied _ _ _ hf)

end Generator

end Companion
