import Companion.Proofs.Candidates.Faults
import Mathlib.Data.List.DropRight

/-!
# Candidates — the parameters of a class

The parameters are read from the first attached annotation of the right simple name.  There the
value of a parameter is the argument at the last place that has both the parameter and an argument.
The element type must have a value with a text that is more than white space; a backing field is
read only from such a value.  Nothing else counts: neither the order in which parameters are given
with their arguments, nor names without arguments, nor arguments without names.

* `Text.trim`: a text without the white space at its ends; it is empty just if the text is blank.
* `Attribute.ValueAt`: the value of a parameter, by its place.
* `Attribute.Supplies` and `Attribute.Omits`: whether a parameter has a text.
* `Candidate.Extracts`: what the parameters of a candidate are, or why it has none.
* `Candidate.extraction`: reading gives just that, and what does not count.
-/

namespace Companion

/-! ### White space -/

namespace Text

variable {s : String}

/-- The text without the white space at its ends. -/
def trim (s : String) : String :=
  String.ofList ((s.toList.dropWhile isWhiteSpace).rdropWhile isWhiteSpace)

/-- A text is blank just if nothing is left of it without the white space at its ends. -/
theorem isBlank_iff : isBlank s = true ↔ trim s = "" := by
  rw [← String.toList_inj, trim, String.toList_ofList, String.toList_empty,
    List.rdropWhile_eq_nil_iff, isBlank, List.all_eq_true]
  constructor
  · exact fun h c hc => h c ((List.dropWhile_sublist _).subset hc)
  · intro h
    -- what is not dropped at the front starts with something else, so there is no such thing
    refine List.dropWhile_eq_nil_iff.mp (Classical.byContradiction fun hne => ?_)
    have hhead := h _ (List.head_mem hne)
    rw [List.head_dropWhile_not _ hne] at hhead
    cases hhead

end Text

/-! ### Places -/

namespace Attribute

variable {x y : Attribute} {p text : String} {i : Nat} {a : Argument}

/-- The argument is the value of the parameter: it stands at the last place that has the parameter
and an argument. -/
structure ValueAt (x : Attribute) (p : String) (i : Nat) (a : Argument) : Prop where
  /-- The place has the parameter. -/
  parameter : x.parameters[i]? = some p
  /-- The place has the argument. -/
  argument : x.arguments[i]? = some a
  /-- No later place with an argument has the parameter. -/
  last : ∀ j, i < j → j < x.arguments.length → x.parameters[j]? ≠ some p

/-- The value of the parameter has the text, which is more than white space. -/
def Supplies (x : Attribute) (p text : String) : Prop :=
  ∃ i a, x.ValueAt p i a ∧ a.text? = some text ∧ Text.trim text ≠ ""

/-- The parameter has no text. -/
inductive Omits (x : Attribute) (p : String) : Prop where
  /-- It has no value. -/
  | absent : (∀ i, i < x.arguments.length → x.parameters[i]? ≠ some p) → Omits x p
  /-- Its value is null. -/
  | null {i : Nat} : x.ValueAt p i .null → Omits x p
  /-- Its value is a text of white space. -/
  | blank {i : Nat} {a : Argument} {text : String} : x.ValueAt p i a → a.text? = some text →
      Text.trim text = "" → Omits x p

theorem getElem?_named {z : String × Argument} :
    x.named[i]? = some z ↔ x.parameters[i]? = some z.1 ∧ x.arguments[i]? = some z.2 :=
  List.getElem?_zip_eq_some

/-- The last argument given under a name is the one at the last place. -/
theorem given_named_iff : x.named.Given p a ↔ ∃ i, x.ValueAt p i a := by
  constructor
  · rintro ⟨before, after, hsplit, hafter⟩
    have hat : x.named[before.length]? = some (p, a) := by simp [hsplit]
    refine ⟨before.length, (getElem?_named.mp hat).1, (getElem?_named.mp hat).2, ?_⟩
    intro j hj hlt hp
    have hz : x.named[j]? = some (p, x.arguments[j]) := getElem?_named.mpr ⟨hp, by simp [hlt]⟩
    obtain ⟨k, rfl⟩ : ∃ k, j = before.length + (k + 1) := ⟨j - before.length - 1, by omega⟩
    rw [hsplit, List.getElem?_append_right (Nat.le_add_right _ _), Nat.add_sub_cancel_left,
      List.getElem?_cons_succ] at hz
    exact hafter _ (List.mem_of_getElem? hz) rfl
  · rintro ⟨i, hp, ha, hlast⟩
    have hat : x.named[i]? = some (p, a) := getElem?_named.mpr ⟨hp, ha⟩
    obtain ⟨hi, hget⟩ := List.getElem?_eq_some_iff.mp hat
    refine ⟨x.named.take i, x.named.drop (i + 1), ?_, fun z hz hzp => ?_⟩
    · rw [← hget, ← List.drop_eq_getElem_cons hi, List.take_append_drop]
    · obtain ⟨k, hk⟩ := List.mem_iff_getElem?.mp hz
      rw [List.getElem?_drop] at hk
      obtain ⟨hpk, hak⟩ := getElem?_named.mp hk
      exact hlast _ (by omega) (List.getElem?_eq_some_iff.mp hak).1 (hzp ▸ hpk)

/-- A parameter is read as a text just if its value has that text. -/
theorem text?_named_eq_some_iff : x.named.text? p = some text ↔ x.Supplies p text := by
  rw [Arguments.text?_eq_some_iff]
  constructor
  · rintro ⟨a, hgiven, htext, hblank⟩
    obtain ⟨i, hat⟩ := given_named_iff.mp hgiven
    exact ⟨i, a, hat, htext, fun ht => by simp [Text.isBlank_iff.mpr ht] at hblank⟩
  · rintro ⟨i, a, hat, htext, ht⟩
    refine ⟨a, given_named_iff.mpr ⟨i, hat⟩, htext, Bool.eq_false_iff.mpr fun hblank => ?_⟩
    exact ht (Text.isBlank_iff.mp hblank)

/-- A parameter is read as no text just if it has none. -/
theorem text?_named_eq_none_iff : x.named.text? p = none ↔ x.Omits p := by
  rw [Arguments.text?_eq_none_iff]
  constructor
  · rintro (hn | hgiven | ⟨hgiven, htext, hblank⟩)
    · refine .absent fun i hi hp => hn (p, x.arguments[i]) (List.mem_of_getElem? (i := i) ?_) rfl
      exact getElem?_named.mpr ⟨hp, List.getElem?_eq_getElem hi⟩
    · obtain ⟨i, hat⟩ := given_named_iff.mp hgiven
      exact .null hat
    · obtain ⟨i, hat⟩ := given_named_iff.mp hgiven
      exact .blank hat htext (Text.isBlank_iff.mp hblank)
  · rintro (hn | hat | ⟨hat, htext, ht⟩)
    · refine .absent fun z hz hzp => ?_
      obtain ⟨i, hi⟩ := List.mem_iff_getElem?.mp hz
      obtain ⟨hp, ha⟩ := getElem?_named.mp hi
      exact hn i (List.getElem?_eq_some_iff.mp ha).1 (hzp ▸ hp)
    · exact .null (given_named_iff.mpr ⟨_, hat⟩)
    · exact .blank (given_named_iff.mpr ⟨_, hat⟩) htext (Text.isBlank_iff.mpr ht)

end Attribute

/-! ### What does not count -/

namespace Arguments

variable {l l' : Arguments} {name : String} {a : Argument}

/-- Under names without repetition there is one argument each. -/
theorem get?_eq_some_iff_mem (hn : (l.map Prod.fst).Nodup) :
    l.get? name = some a ↔ (name, a) ∈ l := by
  rw [get?_eq_some_iff]
  constructor
  · rintro ⟨before, after, rfl, -⟩
    simp
  · intro hm
    obtain ⟨before, after, rfl⟩ := List.append_of_mem hm
    refine ⟨before, after, rfl, fun z hz hzn => ?_⟩
    rw [List.map_append, List.map_cons] at hn
    exact (List.nodup_cons.mp (List.nodup_append.mp hn).2.1).1 (List.mem_map.mpr ⟨z, hz, hzn⟩)

/-- In another order, arguments under names without repetition give the same. -/
theorem text?_of_perm (h : l'.Perm l) (hn : (l.map Prod.fst).Nodup) (name : String) :
    l'.text? name = l.text? name := by
  have hget : l'.get? name = l.get? name := by
    ext a
    rw [get?_eq_some_iff_mem hn, get?_eq_some_iff_mem ((h.map Prod.fst).nodup_iff.mpr hn),
      h.mem_iff]
  rw [text?, text?, hget]

end Arguments

namespace Attribute

variable {x : Attribute}

/-- Names without arguments do not count. -/
theorem named_surplus_parameters (h : x.arguments.length ≤ x.parameters.length)
    (names : List String) : { x with parameters := x.parameters ++ names }.named = x.named := by
  refine List.ext_getElem? fun i => Option.ext fun z => ?_
  rw [getElem?_named, getElem?_named]
  refine and_congr_left fun ha => ?_
  have hi : i < x.arguments.length := (List.getElem?_eq_some_iff.mp ha).1
  rw [List.getElem?_append_left (by omega)]

/-- Arguments without names do not count. -/
theorem named_surplus_arguments (h : x.parameters.length ≤ x.arguments.length)
    (arguments : List Argument) :
    { x with arguments := x.arguments ++ arguments }.named = x.named := by
  refine List.ext_getElem? fun i => Option.ext fun z => ?_
  rw [getElem?_named, getElem?_named]
  refine and_congr_right fun hp => ?_
  have hi : i < x.parameters.length := (List.getElem?_eq_some_iff.mp hp).1
  rw [List.getElem?_append_left (by omega)]

end Attribute

/-! ### Candidates -/

namespace Candidate

variable {c : Candidate} {spec : Annotation} {before after : List Attribute} {x y : Attribute}
  {answer : Except Diagnostic Parameters}

/-- What the parameters of a candidate are, or why it has none. -/
inductive Extracts (c : Candidate) (spec : Annotation) : Except Diagnostic Parameters → Prop where
  /-- No attached annotation has the name. -/
  | unmatched : (∀ x ∈ c.attributes, x.name ≠ spec.name) →
      Extracts c spec (.error ⟨"AC0001", .error,
        "no '" ++ spec.name ++ "' annotation found on '" ++ c.name ++ "'",
        some c.symbol, some c.name⟩)
  /-- The first one that has it gives no element type. -/
  | missing {before after : List Attribute} {x : Attribute} :
      FirstOf Attribute.name spec.name c.attributes before x after →
      x.Omits spec.elementParameter →
      Extracts c spec (.error ⟨"AC0002", .error,
        "'" ++ spec.name ++ "' on '" ++ c.name ++ "' requires a '" ++ spec.elementParameter ++
          "' argument", some c.symbol, some c.name⟩)
  /-- It gives the element type, and may name a field. -/
  | found {before after : List Attribute} {x : Attribute} {elementType : String}
      {backingField : Option String} :
      FirstOf Attribute.name spec.name c.attributes before x after →
      x.Supplies spec.elementParameter elementType →
      (∀ field, backingField = some field ↔ x.Supplies spec.backingParameter field) →
      Extracts c spec (.ok ⟨elementType, backingField⟩)

theorem ofCandidate_of_first (h : FirstOf Attribute.name spec.name c.attributes before x after) :
    Parameters.ofCandidate c spec = Parameters.ofArguments c spec x.named := by
  rw [Parameters.ofCandidate, attribute?, h.find?_eq_some]

theorem ofCandidate_of_none (h : ∀ x ∈ c.attributes, x.name ≠ spec.name) :
    Parameters.ofCandidate c spec = .error (.forDeclaration Code.annotationNotMatched.id c.symbol
      c.name ("no '" ++ spec.name ++ "' annotation found on '" ++ c.name ++ "'")) := by
  have hfind : c.attributes.find? (fun x => x.name == spec.name) = none :=
    List.find?_eq_none.mpr fun x hx => by simpa using h x hx
  rw [Parameters.ofCandidate, attribute?, hfind]

/-- Reading a candidate's parameters gives what they are. -/
theorem extracts_ofCandidate (c : Candidate) (spec : Annotation) :
    Extracts c spec (Parameters.ofCandidate c spec) := by
  rcases FirstOf.exists_or_none Attribute.name spec.name c.attributes with
    ⟨before, x, after, hf⟩ | hn
  · rw [ofCandidate_of_first hf, Parameters.ofArguments]
    cases htext : x.named.text? spec.elementParameter with
    | none => exact .missing hf (Attribute.text?_named_eq_none_iff.mp htext)
    | some elementType =>
        exact .found hf (Attribute.text?_named_eq_some_iff.mp htext)
          fun field => Attribute.text?_named_eq_some_iff
  · rw [ofCandidate_of_none hn]
    exact .unmatched hn

/-- The parameters are one thing. -/
theorem Extracts.eq_ofCandidate (h : Extracts c spec answer) :
    Parameters.ofCandidate c spec = answer := by
  cases h with
  | unmatched hn => exact ofCandidate_of_none hn
  | missing hf ho =>
      rw [ofCandidate_of_first hf, Parameters.ofArguments,
        Attribute.text?_named_eq_none_iff.mpr ho]
      rfl
  | @found _ _ x _ backingField hf hs hb =>
      have hfield : x.named.text? spec.backingParameter = backingField := by
        ext field
        exact Attribute.text?_named_eq_some_iff.trans (hb field).symm
      rw [ofCandidate_of_first hf, Parameters.ofArguments,
        Attribute.text?_named_eq_some_iff.mpr hs, hfield]

/-- What is read depends on the first annotation only by what it gives under its names. -/
theorem ofCandidate_congr (h : FirstOf Attribute.name spec.name c.attributes before x after)
    (hy : y.name = x.name) (htext : ∀ p, y.named.text? p = x.named.text? p) :
    Parameters.ofCandidate { c with attributes := before ++ y :: after } spec =
      Parameters.ofCandidate c spec := by
  have hf : FirstOf Attribute.name spec.name (before ++ y :: after) before y after :=
    ⟨rfl, hy.trans h.value, h.first⟩
  have hread := ofCandidate_of_first (c := { c with attributes := before ++ y :: after }) hf
  rw [hread, ofCandidate_of_first h, Parameters.ofArguments, Parameters.ofArguments, htext, htext]

/-- **What is read from a candidate.**  A candidate's parameters are read from its first annotation
of the right simple name; without any it is reported.  The value of a parameter is the argument at
the last place that has both the parameter and an argument.  If the element type has no value, or a
null one, or one of white space, that is reported; otherwise the element type is the text of its
value as it is written, and the field is named just if its value is neither null nor white space,
again as it is written.

If no two places of that annotation that have an argument have the same parameter, then these
places may be put in another order; and names without arguments may be added, or arguments without
names. -/
theorem extraction (c : Candidate) (spec : Annotation) :
    (∀ answer, Parameters.ofCandidate c spec = answer ↔ Extracts c spec answer) ∧
    ∀ before x after, FirstOf Attribute.name spec.name c.attributes before x after →
      (∀ y : Attribute, y.name = x.name → (x.named.map Prod.fst).Nodup → y.named.Perm x.named →
        Parameters.ofCandidate { c with attributes := before ++ y :: after } spec =
          Parameters.ofCandidate c spec) ∧
      (x.arguments.length ≤ x.parameters.length → ∀ names,
        Parameters.ofCandidate { c with
          attributes := before ++ { x with parameters := x.parameters ++ names } :: after } spec =
            Parameters.ofCandidate c spec) ∧
      (x.parameters.length ≤ x.arguments.length → ∀ arguments,
        Parameters.ofCandidate { c with
          attributes := before ++ { x with arguments := x.arguments ++ arguments } :: after } spec =
            Parameters.ofCandidate c spec) := by
  refine ⟨fun answer => ⟨fun h => h ▸ extracts_ofCandidate c spec, Extracts.eq_ofCandidate⟩,
    fun before x after hf =>
      ⟨fun y hy hn hperm => ?_, fun hle names => ?_, fun hle arguments => ?_⟩⟩
  · exact ofCandidate_congr hf hy fun p => Arguments.text?_of_perm hperm hn p
  · exact ofCandidate_congr hf rfl fun p => by rw [Attribute.named_surplus_parameters hle]
  · exact ofCandidate_congr hf rfl fun p => by rw [Attribute.named_surplus_arguments hle]

/-- The theorem at a class that gives its field before its element type: the same is read as in the
order of the declaration, with the blank around the texts; and if the field is a blank, there is
none. -/
theorem extraction_cart :
    let parameters := ["collectionType", "backingField"]
    let x : Attribute := ⟨"GenerateList", "", parameters, [.type " int", .string "rows "]⟩
    let y : Attribute := ⟨"GenerateList", "", parameters.reverse, [.string "rows ", .type " int"]⟩
    let z : Attribute := ⟨"GenerateList", "", parameters, [.type "int", .string "\u2003"]⟩
    let c : Candidate := ⟨1, "Shop", .public, "Cart", true, [x]⟩
    Parameters.ofCandidate { c with attributes := [y] } .list = Parameters.ofCandidate c .list ∧
      Parameters.ofCandidate c .list = .ok ⟨" int", some "rows "⟩ ∧
      Extracts { c with attributes := [z] } .list (.ok ⟨"int", none⟩) := by
  intro parameters x y z c
  have hf : FirstOf Attribute.name Annotation.list.name c.attributes [] x [] := ⟨rfl, rfl, nofun⟩
  obtain ⟨hread, hkeep⟩ := extraction c .list
  refine ⟨(hkeep [] x [] hf).1 y rfl (by decide) (List.Perm.swap _ _ _), by decide +kernel, ?_⟩
  exact ((extraction { c with attributes := [z] } .list).1 _).mp (by decide +kernel)

end Candidate

end Companion
