import Companion.Proofs.Directories.Places
import Companion.Proofs.Settings.Patterns
import Companion.Settings.Basic
import Companion.Text.Blank

/-!
# Settings — the grammar of their texts

The check of settings goes through their texts character by character.  What it accepts can be said
without it: the backing field is an identifier, the suffix holds no slash of either direction, and
the namespace is what identifiers make with dots between them.

* `Identifier` and `Dotted`: the grammar.
* `isIdentifier_iff` and `isDottedIdentifier_iff`: the check of a text accepts what the grammar
  gives.
* `Identifier.bare` and `Dotted.bare`: no such text holds white space or more than ASCII.
* `Dotted.inner`: its dots stand apart from each other and from the ends.
* `Settings.verdict`: which settings are accepted, and what is said of the others.
-/

namespace Companion

variable {c : Char} {cs text : List Char} {parts : List (List Char)} {s : Settings}

/-! ### Characters -/

/-- A letter from A to Z or from a to z, or the underscore. -/
def Opens (c : Char) : Prop := ('A' ≤ c ∧ c ≤ 'Z') ∨ ('a' ≤ c ∧ c ≤ 'z') ∨ c = '_'

/-- One of these, or a digit from 0 to 9. -/
def Continues (c : Char) : Prop := Opens c ∨ '0' ≤ c ∧ c ≤ '9'

theorem has_opening_iff : Text.CharClass.opening.has c = true ↔ Opens c := by
  rw [Text.CharClass.opening, Text.CharClass.has_cons_iff, Text.CharClass.has_cons_iff,
    Text.CharClass.has_single_iff]
  exact Iff.rfl

theorem has_continuing_iff : Text.CharClass.continuing.has c = true ↔ Continues c := by
  rw [Text.CharClass.continuing, Text.CharClass.has_cons_iff, Text.CharClass.has_cons_iff,
    Text.CharClass.has_cons_iff, Text.CharClass.has_single_iff, Continues, Opens,
    or_assoc, or_assoc, or_comm (a := '0' ≤ c ∧ c ≤ '9')]

/-- The code points of these characters. -/
theorem Continues.code (h : Continues c) :
    (65 ≤ c.toNat ∧ c.toNat ≤ 90) ∨ (97 ≤ c.toNat ∧ c.toNat ≤ 122) ∨ c.toNat = 95 ∨
      (48 ≤ c.toNat ∧ c.toNat ≤ 57) := by
  rcases h with (h | h | rfl) | h
  · exact .inl h
  · exact .inr (.inl h)
  · exact .inr (.inr (.inl rfl))
  · exact .inr (.inr (.inr h))

/-- The character is one of ASCII, and no white space. -/
def Bare (c : Char) : Prop := c.toNat < 128 ∧ Text.isWhiteSpace c = false

theorem Continues.bare (h : Continues c) : Bare c := by
  have hcode := h.code
  refine ⟨by omega, ?_⟩
  simp only [Text.isWhiteSpace, Bool.or_eq_false_iff, Bool.and_eq_false_iff,
    decide_eq_false_iff_not, beq_eq_false_iff_ne]
  omega

theorem Continues.ne_dot (h : Continues c) : c ≠ '.' := by
  rintro rfl
  have hcode := h.code
  have hdot : '.'.toNat = 46 := rfl
  omega

/-! ### Identifiers -/

/-- An identifier: an opening character and any that continue it, after an at sign or none. -/
inductive Identifier : List Char → Prop where
  /-- Without the at sign. -/
  | plain {c : Char} {cs : List Char} : Opens c → (∀ d ∈ cs, Continues d) → Identifier (c :: cs)
  /-- With the at sign. -/
  | verbatim {c : Char} {cs : List Char} :
      Opens c → (∀ d ∈ cs, Continues d) → Identifier ('@' :: c :: cs)

/-- What the pattern takes behind the at sign: an opening character and any that continue it, to the
end of the text. -/
theorem spans_body_iff {before taken after : List Char} :
    Text.Pattern.Spans [.one .opening, .many .continuing, .stop] before taken after ↔
      after = [] ∧ ∃ c cs, taken = c :: cs ∧ Opens c ∧ ∀ d ∈ cs, Continues d := by
  constructor
  · intro h
    cases h with
    | one hc h =>
        obtain ⟨run, rest, rfl, hrun, h⟩ := Text.Pattern.spans_many_iff.mp h
        cases h with
        | stop _ =>
            rw [List.append_nil]
            exact ⟨rfl, _, run, rfl, has_opening_iff.mp hc,
              fun d hd => has_continuing_iff.mp (hrun d hd)⟩
  · rintro ⟨rfl, c, cs, rfl, hc, hcs⟩
    exact .one (has_opening_iff.mpr hc) (Text.Pattern.spans_many_iff.mpr
      ⟨cs, [], (List.append_nil cs).symm, fun d hd => has_continuing_iff.mpr (hcs d hd),
        .stop .nil⟩)

theorem has_at_iff : (Text.CharClass.single '@').has c = true ↔ c = '@' :=
  Text.CharClass.has_single_iff

/-- The search for the pattern finds it in identifiers and in no other text: the anchors leave
nothing before the stretch that it spans, and nothing behind. -/
theorem isIdentifier_iff : isIdentifier cs = true ↔ Identifier cs := by
  rw [isIdentifier, Text.Pattern.isMatch_iff]
  constructor
  · rintro ⟨before, taken, after, rfl, h⟩
    cases h with
    | start h =>
        cases h with
        | without h =>
            obtain ⟨rfl, c, cs, rfl, hc, hcs⟩ := spans_body_iff.mp h
            rw [List.append_nil]
            exact .plain hc hcs
        | optional hat h =>
            obtain ⟨rfl, c, cs, rfl, hc, hcs⟩ := spans_body_iff.mp h
            obtain rfl := has_at_iff.mp hat
            rw [List.append_nil]
            exact .verbatim hc hcs
  · intro h
    refine ⟨[], cs, [], (List.append_nil cs).symm, .start ?_⟩
    cases h with
    | plain hc hcs => exact .without (spans_body_iff.mpr ⟨rfl, _, _, rfl, hc, hcs⟩)
    | verbatim hc hcs =>
        exact .optional (has_at_iff.mpr rfl) (spans_body_iff.mpr ⟨rfl, _, _, rfl, hc, hcs⟩)

theorem Identifier.continues (h : Identifier cs) (hc : c ∈ cs) : c = '@' ∨ Continues c := by
  cases h with
  | plain hopens hcs =>
      rcases List.mem_cons.mp hc with rfl | hc
      · exact .inr (.inl hopens)
      · exact .inr (hcs c hc)
  | verbatim hopens hcs =>
      rcases List.mem_cons.mp hc with rfl | hc
      · exact .inl rfl
      · rcases List.mem_cons.mp hc with rfl | hc
        · exact .inr (.inl hopens)
        · exact .inr (hcs c hc)

theorem Identifier.bare (h : Identifier cs) : ∀ c ∈ cs, Bare c := by
  intro c hc
  rcases h.continues hc with rfl | hc
  · exact ⟨by decide, by decide⟩
  · exact hc.bare

theorem Identifier.dot_not_mem (h : Identifier cs) : '.' ∉ cs := by
  intro hc
  rcases h.continues hc with hat | hc
  · exact absurd hat (by decide)
  · exact hc.ne_dot rfl

theorem Identifier.ne_nil (h : Identifier cs) : cs ≠ [] := by
  rintro rfl
  cases h

/-! ### Identifiers with dots between them -/

theorem Text.pieces_joinPieces {separator : Char} (hne : parts ≠ [])
    (h : ∀ part ∈ parts, separator ∉ part) :
    pieces separator (joinPieces separator parts) = parts := by
  induction parts with
  | nil => exact absurd rfl hne
  | cons part others ih =>
      rw [List.forall_mem_cons] at h
      cases others with
      | nil => exact pieces_of_not_mem h.1
      | cons other others =>
          rw [joinPieces, pieces_append, pieces_of_not_mem h.1,
            ih (List.cons_ne_nil _ _) h.2, List.singleton_append]
          exact List.cons_ne_nil _ _

/-- The text is made of identifiers, of which there is one at least, with a dot between any two. -/
def Dotted (text : List Char) : Prop :=
  ∃ parts, parts ≠ [] ∧ (∀ part ∈ parts, Identifier part) ∧ text = Text.joinPieces '.' parts

theorem isDottedIdentifier_iff : isDottedIdentifier text = true ↔ Dotted text := by
  rw [isDottedIdentifier, List.all_eq_true]
  constructor
  · intro h
    exact ⟨_, Text.pieces_ne_nil '.' text, fun part hpart => isIdentifier_iff.mp (h part hpart),
      (Text.joinPieces_pieces '.' text).symm⟩
  · rintro ⟨parts, hne, hparts, rfl⟩ part hpart
    rw [Text.pieces_joinPieces hne fun part hpart => (hparts part hpart).dot_not_mem] at hpart
    exact isIdentifier_iff.mpr (hparts part hpart)

/-- Between the dots there are identifiers. -/
theorem Dotted.identifier (h : Dotted text) : ∀ part ∈ Text.pieces '.' text, Identifier part := by
  intro part hpart
  have hall := List.all_eq_true.mp (isDottedIdentifier_iff.mpr h)
  exact isIdentifier_iff.mp (hall part hpart)

theorem Text.mem_joinPieces {separator : Char} (h : c ∈ joinPieces separator parts) :
    c = separator ∨ ∃ part ∈ parts, c ∈ part := by
  induction parts with
  | nil => cases h
  | cons part others ih =>
      cases others with
      | nil => exact .inr ⟨part, List.mem_cons_self, h⟩
      | cons other others =>
          rw [joinPieces, List.mem_append, List.mem_cons] at h
          · rcases h with h | rfl | h
            · exact .inr ⟨part, List.mem_cons_self, h⟩
            · exact .inl rfl
            · rcases ih h with rfl | ⟨q, hq, hc⟩
              · exact .inl rfl
              · exact .inr ⟨q, List.mem_cons_of_mem _ hq, hc⟩
          · exact List.cons_ne_nil _ _

theorem Dotted.bare (h : Dotted text) : ∀ c ∈ text, Bare c := by
  obtain ⟨parts, -, hparts, rfl⟩ := h
  intro c hc
  rcases Text.mem_joinPieces hc with rfl | ⟨part, hpart, hc⟩
  · exact ⟨by decide, by decide⟩
  · exact (hparts part hpart).bare c hc

/-- There is no dot at the front, none at the end, and no two in a row: an empty text would lie
beside it. -/
theorem Dotted.inner (h : Dotted text) :
    ¬['.'] <+: text ∧ ¬['.'] <:+ text ∧ ¬['.', '.'] <:+: text := by
  have hnil : [] ∉ Text.pieces '.' text := fun hm => (h.identifier [] hm).ne_nil rfl
  refine ⟨?_, ?_, ?_⟩
  · rintro ⟨r, rfl⟩
    exact hnil (by simp [Text.pieces])
  · rintro ⟨r, rfl⟩
    exact hnil (by simp [Text.pieces_append, Text.pieces])
  · rintro ⟨r, r', rfl⟩
    exact hnil (by simp [Text.pieces_append, Text.pieces])

/-- That a text is not empty need not be asked: the only piece of an empty text is empty, which no
identifier is. -/
theorem empty_or_not_dotted (text : String) :
    (text.isEmpty || !isDottedIdentifier text.toList) = !isDottedIdentifier text.toList := by
  cases hempty : text.isEmpty with
  | false => rfl
  | true =>
      obtain rfl := String.isEmpty_iff.mp hempty
      rfl

/-! ### Settings -/

/-- The text holds a slash, of one direction or the other. -/
def Slashed (text : List Char) : Prop := '/' ∈ text ∨ '\\' ∈ text

theorem hasSeparator_iff : hasSeparator text = true ↔ Slashed text := by
  rw [hasSeparator, List.any_eq_true, Slashed]
  constructor
  · rintro ⟨c, hc, heq⟩
    rcases Bool.or_eq_true_iff.mp heq with heq | heq
    · exact .inl (eq_of_beq heq ▸ hc)
    · exact .inr (eq_of_beq heq ▸ hc)
  · rintro (h | h)
    · exact ⟨_, h, by decide⟩
    · exact ⟨_, h, by decide⟩

namespace Settings

/-- The first of the texts that is not as it should be, as a fault. -/
inductive Refuses (s : Settings) : SettingsFault → Prop where
  /-- The backing field is no identifier. -/
  | backingField : ¬Identifier s.defaultBackingField.toList →
      Refuses s (.invalidBackingField s.defaultBackingField)
  /-- The backing field is one, but the suffix holds a slash. -/
  | suffix : Identifier s.defaultBackingField.toList → Slashed s.identitySuffix.toList →
      Refuses s (.separatorInSuffix s.identitySuffix)
  /-- These two are as they should be, but the namespace is not made of identifiers. -/
  | annotationNamespace : Identifier s.defaultBackingField.toList →
      ¬Slashed s.identitySuffix.toList → ¬Dotted s.annotationNamespace.toList →
      Refuses s (.invalidNamespace s.annotationNamespace)

theorem Refuses.unique {fault fault' : SettingsFault} (h : s.Refuses fault)
    (h' : s.Refuses fault') : fault = fault' := by
  cases h <;> cases h' <;> first | rfl | contradiction

/-- The three conditions alone, without the question whether the namespace is empty. -/
theorem validate_eq (s : Settings) : s.validate =
    if !isIdentifier s.defaultBackingField.toList then
      .error (.invalidBackingField s.defaultBackingField)
    else if hasSeparator s.identitySuffix.toList then
      .error (.separatorInSuffix s.identitySuffix)
    else if !isDottedIdentifier s.annotationNamespace.toList then
      .error (.invalidNamespace s.annotationNamespace)
    else .ok () := by
  rw [validate, empty_or_not_dotted]

/-- Settings are accepted, or refused for a fault. -/
theorem validate_cases (s : Settings) :
    (s.validate = .ok () ∧ Identifier s.defaultBackingField.toList ∧
      ¬Slashed s.identitySuffix.toList ∧ Dotted s.annotationNamespace.toList) ∨
    ∃ fault, s.validate = .error fault ∧ s.Refuses fault := by
  by_cases hfield : Identifier s.defaultBackingField.toList
  · have hfield' := isIdentifier_iff.mpr hfield
    by_cases hsuffix : Slashed s.identitySuffix.toList
    · have hsuffix' := hasSeparator_iff.mpr hsuffix
      exact .inr ⟨_, by simp [validate_eq, hfield', hsuffix'], .suffix hfield hsuffix⟩
    · have hsuffix' := Bool.eq_false_iff.mpr (mt hasSeparator_iff.mp hsuffix)
      by_cases hnamespace : Dotted s.annotationNamespace.toList
      · have hnamespace' := isDottedIdentifier_iff.mpr hnamespace
        exact .inl ⟨by simp [validate_eq, hfield', hsuffix', hnamespace'], hfield, hsuffix,
          hnamespace⟩
      · have hnamespace' := Bool.eq_false_iff.mpr (mt isDottedIdentifier_iff.mp hnamespace)
        exact .inr ⟨_, by simp [validate_eq, hfield', hsuffix', hnamespace'],
          .annotationNamespace hfield hsuffix hnamespace⟩
  · have hfield' := Bool.eq_false_iff.mpr (mt isIdentifier_iff.mp hfield)
    exact .inr ⟨_, by simp [validate_eq, hfield'], .backingField hfield⟩

theorem Refuses.not_accepted {fault : SettingsFault} (h : s.Refuses fault) :
    ¬(Identifier s.defaultBackingField.toList ∧ ¬Slashed s.identitySuffix.toList ∧
      Dotted s.annotationNamespace.toList) := by
  rintro ⟨hfield, hsuffix, hnamespace⟩
  cases h with
  | backingField h => exact h hfield
  | suffix _ h => exact hsuffix h
  | annotationNamespace _ _ h => exact h hnamespace

/-- **Which settings are accepted, and what is said of the others.**

* Settings are accepted if and only if the backing field is an identifier, the suffix holds no slash
  of either direction, and the namespace is made of identifiers with dots between them.
* Otherwise the fault is the one of the first of these texts that is not so.
* In settings that are accepted, the backing field and the namespace hold only characters of ASCII,
  and no white space; in the namespace, no dot is at an end or beside another. -/
theorem verdict (s : Settings) :
    (s.validate = .ok () ↔ Identifier s.defaultBackingField.toList ∧
      ¬Slashed s.identitySuffix.toList ∧ Dotted s.annotationNamespace.toList) ∧
    (∀ fault, s.validate = .error fault ↔ s.Refuses fault) ∧
    (s.validate = .ok () →
      (∀ c ∈ s.defaultBackingField.toList ++ s.annotationNamespace.toList, Bare c) ∧
      '.' ∉ s.defaultBackingField.toList ∧
      ¬['.'] <+: s.annotationNamespace.toList ∧ ¬['.'] <:+ s.annotationNamespace.toList ∧
      ¬['.', '.'] <:+: s.annotationNamespace.toList) := by
  rcases s.validate_cases with ⟨hok, haccepted⟩ | ⟨fault, herror, hrefuses⟩
  · obtain ⟨hfield, hsuffix, hnamespace⟩ := haccepted
    refine ⟨iff_of_true hok ⟨hfield, hsuffix, hnamespace⟩, fun fault => ?_, fun _ => ?_⟩
    · rw [hok]
      exact iff_of_false nofun fun h => h.not_accepted ⟨hfield, hsuffix, hnamespace⟩
    · refine ⟨fun c hc => ?_, hfield.dot_not_mem, hnamespace.inner⟩
      rcases List.mem_append.mp hc with hc | hc
      · exact hfield.bare c hc
      · exact hnamespace.bare c hc
  · rw [herror]
    refine ⟨iff_of_false nofun hrefuses.not_accepted, fun fault' => ?_, nofun⟩
    constructor
    · intro h
      obtain rfl := Except.error.inj h
      exact hrefuses
    · intro h
      rw [hrefuses.unique h]

/-- The theorem at settings that are accepted, with an at sign and an inner dot. -/
theorem verdict_nested :
    let s : Settings := { defaultBackingField := "@store1", annotationNamespace := "Shop._1.Marks" }
    s.validate = .ok () ∧ Dotted s.annotationNamespace.toList ∧
      ¬['.', '.'] <:+: s.annotationNamespace.toList := by
  intro s
  obtain ⟨haccepts, -, hplain⟩ := s.verdict
  have hfield : Identifier s.defaultBackingField.toList := isIdentifier_iff.mp (by decide +kernel)
  have hsuffix : ¬Slashed s.identitySuffix.toList := mt hasSeparator_iff.mpr (by decide +kernel)
  have hnamespace : Dotted s.annotationNamespace.toList :=
    isDottedIdentifier_iff.mp (by decide +kernel)
  have hok := haccepts.mpr ⟨hfield, hsuffix, hnamespace⟩
  obtain ⟨-, -, -, -, hapart⟩ := hplain hok
  exact ⟨hok, hnamespace, hapart⟩

end Settings

end Companion
