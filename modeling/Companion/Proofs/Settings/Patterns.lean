import Companion.Text.Pattern

/-!
# Settings — what a pattern matches

The matcher tries a pattern at one place of a text after the other, and the ways to take characters
one after the other.  What it finds can be said without it: a stretch of the text, with what stands
before it and behind it, that is one that the pattern spans.

* `Pattern.Spans`: the stretches that a pattern spans, by its parts.
* `Pattern.spans_many_iff`: what a part for any number of characters takes.
* `Pattern.fits_iff`: the matcher at one place finds those that begin there.
* `Pattern.isMatch_iff`: the search finds a stretch if there is one anywhere in the text.
-/

namespace Companion.Text

variable {c : Char} {cs before taken after : List Char} {k : CharClass} {part : Part}
  {parts : List Part}

/-! ### Classes of characters -/

theorem CharClass.has_cons_iff {a b : Char} {ranges : List (Char × Char)} :
    (⟨(a, b) :: ranges⟩ : CharClass).has c = true ↔
      (a ≤ c ∧ c ≤ b) ∨ (⟨ranges⟩ : CharClass).has c = true := by
  simp only [has, List.any_cons, Bool.or_eq_true, Bool.and_eq_true, decide_eq_true_iff]

theorem CharClass.has_single_iff {a : Char} : (⟨[(a, a)]⟩ : CharClass).has c = true ↔ c = a := by
  rw [has_cons_iff]
  constructor
  · rintro (⟨hlow, hhigh⟩ | h)
    · exact Char.le_antisymm hhigh hlow
    · cases h
  · rintro rfl
    exact .inl ⟨Char.le_refl c, Char.le_refl c⟩

/-! ### Stretches -/

namespace Pattern

/-- The parts take the stretch, with some characters before it in the text and some behind it. -/
inductive Spans : List Part → (before taken after : List Char) → Prop
  /-- Without parts nothing is taken. -/
  | nil {before after : List Char} : Spans [] before [] after
  /-- The start is where nothing stands before. -/
  | start {parts : List Part} {taken after : List Char} :
      Spans parts [] taken after → Spans (.start :: parts) [] taken after
  /-- The end is where nothing is left. -/
  | stop {parts : List Part} {before : List Char} :
      Spans parts before [] [] → Spans (.stop :: parts) before [] []
  | one {parts : List Part} {k : CharClass} {c : Char} {before taken after : List Char} :
      k.has c → Spans parts (before ++ [c]) taken after →
      Spans (.one k :: parts) before (c :: taken) after
  /-- No character is taken, where one may be. -/
  | without {parts : List Part} {k : CharClass} {before taken after : List Char} :
      Spans parts before taken after → Spans (.optional k :: parts) before taken after
  | optional {parts : List Part} {k : CharClass} {c : Char} {before taken after : List Char} :
      k.has c → Spans parts (before ++ [c]) taken after →
      Spans (.optional k :: parts) before (c :: taken) after
  /-- No more characters are taken, where any number may be. -/
  | enough {parts : List Part} {k : CharClass} {before taken after : List Char} :
      Spans parts before taken after → Spans (.many k :: parts) before taken after
  | more {parts : List Part} {k : CharClass} {c : Char} {before taken after : List Char} :
      k.has c → Spans (.many k :: parts) (before ++ [c]) taken after →
      Spans (.many k :: parts) before (c :: taken) after

/-- The parts take some of the characters from the first on. -/
def SpansFrom (parts : List Part) (before cs : List Char) : Prop :=
  ∃ taken after, cs = taken ++ after ∧ Spans parts before taken after

/-! ### One equivalence for each part -/

theorem spansFrom_nil : SpansFrom [] before cs :=
  ⟨[], cs, rfl, .nil⟩

theorem spansFrom_start : SpansFrom (.start :: parts) before cs ↔
    before = [] ∧ SpansFrom parts before cs := by
  constructor
  · rintro ⟨taken, after, rfl, h⟩
    cases h with
    | start h => exact ⟨rfl, _, _, rfl, h⟩
  · rintro ⟨rfl, taken, after, rfl, h⟩
    exact ⟨_, _, rfl, .start h⟩

theorem spansFrom_stop : SpansFrom (.stop :: parts) before cs ↔
    cs = [] ∧ SpansFrom parts before cs := by
  constructor
  · rintro ⟨taken, after, rfl, h⟩
    cases h with
    | stop h => exact ⟨rfl, _, _, rfl, h⟩
  · rintro ⟨rfl, taken, after, h, hspans⟩
    obtain ⟨rfl, rfl⟩ := List.append_eq_nil_iff.mp h.symm
    exact ⟨_, _, rfl, .stop hspans⟩

theorem not_spansFrom_one_nil : ¬SpansFrom (.one k :: parts) before [] := by
  rintro ⟨taken, after, h, hspans⟩
  cases hspans with
  | one => cases h

theorem spansFrom_one_cons : SpansFrom (.one k :: parts) before (c :: cs) ↔
    k.has c = true ∧ SpansFrom parts (before ++ [c]) cs := by
  constructor
  · rintro ⟨taken, after, h, hspans⟩
    cases hspans with
    | one hc hspans =>
        obtain ⟨rfl, rfl⟩ := List.cons.inj h
        exact ⟨hc, _, _, rfl, hspans⟩
  · rintro ⟨hc, taken, after, rfl, hspans⟩
    exact ⟨_, _, rfl, .one hc hspans⟩

theorem spansFrom_optional : SpansFrom (.optional k :: parts) before cs ↔
    SpansFrom (.one k :: parts) before cs ∨ SpansFrom parts before cs := by
  constructor
  · rintro ⟨taken, after, h, hspans⟩
    cases hspans with
    | without hspans => exact .inr ⟨_, _, h, hspans⟩
    | optional hc hspans => exact .inl ⟨_, _, h, .one hc hspans⟩
  · rintro (⟨taken, after, h, hspans⟩ | ⟨taken, after, h, hspans⟩)
    · cases hspans with
      | one hc hspans => exact ⟨_, _, h, .optional hc hspans⟩
    · exact ⟨_, _, h, .without hspans⟩

theorem spansFrom_many : SpansFrom (.many k :: parts) before cs ↔
    SpansFrom parts before cs ∨ SpansFrom (.one k :: .many k :: parts) before cs := by
  constructor
  · rintro ⟨taken, after, h, hspans⟩
    cases hspans with
    | enough hspans => exact .inl ⟨_, _, h, hspans⟩
    | more hc hspans => exact .inr ⟨_, _, h, .one hc hspans⟩
  · rintro (⟨taken, after, h, hspans⟩ | ⟨taken, after, h, hspans⟩)
    · exact ⟨_, _, h, .enough hspans⟩
    · cases hspans with
      | one hc hspans => exact ⟨_, _, h, .more hc hspans⟩

/-- A part for any number of characters takes some of the class, and the other parts go on behind
them. -/
theorem spans_many_iff : Spans (.many k :: parts) before taken after ↔
    ∃ run rest, taken = run ++ rest ∧ (∀ c ∈ run, k.has c = true) ∧
      Spans parts (before ++ run) rest after := by
  constructor
  · intro h
    induction taken generalizing before with
    | nil =>
        cases h with
        | enough h => exact ⟨[], [], rfl, nofun, by rwa [List.append_nil]⟩
    | cons c taken ih =>
        cases h with
        | enough h => exact ⟨[], _, rfl, nofun, by rwa [List.append_nil]⟩
        | more hc h =>
            obtain ⟨run, rest, rfl, hrun, h⟩ := ih h
            exact ⟨c :: run, rest, rfl, List.forall_mem_cons.mpr ⟨hc, hrun⟩,
              by rwa [List.append_cons]⟩
  · rintro ⟨run, rest, rfl, hrun, h⟩
    induction run generalizing before with
    | nil =>
        rw [List.append_nil] at h
        exact .enough h
    | cons c run ih =>
        obtain ⟨hc, hrun⟩ := List.forall_mem_cons.mp hrun
        rw [List.append_cons] at h
        exact .more hc (ih hrun h)

/-! ### The matcher -/

theorem begun_append (before : List Char) (c : Char) : (!(before ++ [c]).isEmpty) = true := by
  cases before <;> rfl

/-- The matcher at one place finds the stretches that begin there. -/
theorem fits_iff (before cs : List Char) :
    fits parts (!before.isEmpty) cs = true ↔ SpansFrom parts before cs := by
  induction parts generalizing before cs with
  | nil => exact iff_of_true rfl spansFrom_nil
  | cons part parts ih =>
      cases part with
      | start => rw [fits, Bool.and_eq_true, ih, Bool.not_not, List.isEmpty_iff, spansFrom_start]
      | stop => rw [fits, Bool.and_eq_true, ih, List.isEmpty_iff, spansFrom_stop]
      | one k =>
          cases cs with
          | nil => exact iff_of_false nofun not_spansFrom_one_nil
          | cons c cs =>
              have ihc := ih (before ++ [c]) cs
              rw [begun_append] at ihc
              rw [fits, Bool.and_eq_true, ihc, spansFrom_one_cons]
      | optional k =>
          cases cs with
          | nil => rw [fits, ih, spansFrom_optional, or_iff_right not_spansFrom_one_nil]
          | cons c cs =>
              have ihc := ih (before ++ [c]) cs
              rw [begun_append] at ihc
              rw [fits, Bool.or_eq_true, Bool.and_eq_true, ihc, ih, spansFrom_optional,
                spansFrom_one_cons]
      | many k =>
          rw [fits]
          -- each character taken is put before those that are left
          induction cs generalizing before with
          | nil => rw [takeMany, ih, spansFrom_many, or_iff_left not_spansFrom_one_nil]
          | cons c cs ihcs =>
              have ihc := ihcs (before ++ [c])
              rw [begun_append] at ihc
              rw [takeMany, Bool.or_eq_true, Bool.and_eq_true, ih, ihc, ← spansFrom_one_cons,
                ← spansFrom_many]

/-- The search finds the stretches that begin at the first character or at a later one. -/
theorem search_iff (before cs : List Char) : search parts (!before.isEmpty) cs = true ↔
    ∃ passed rest, cs = passed ++ rest ∧ SpansFrom parts (before ++ passed) rest := by
  induction cs generalizing before with
  | nil =>
      rw [search, fits_iff]
      constructor
      · intro h
        exact ⟨[], [], rfl, by rwa [List.append_nil]⟩
      · rintro ⟨passed, rest, h, hspans⟩
        obtain ⟨rfl, rfl⟩ := List.append_eq_nil_iff.mp h.symm
        rwa [List.append_nil] at hspans
  | cons c cs ih =>
      have ihc := ih (before ++ [c])
      rw [begun_append] at ihc
      rw [search, Bool.or_eq_true, fits_iff, ihc]
      constructor
      · rintro (h | ⟨passed, rest, rfl, h⟩)
        · exact ⟨[], _, rfl, by rwa [List.append_nil]⟩
        · exact ⟨c :: passed, rest, rfl, by rwa [List.append_cons]⟩
      · rintro ⟨passed, rest, h, hspans⟩
        cases passed with
        | nil =>
            obtain rfl : _ = rest := h
            rw [List.append_nil] at hspans
            exact .inl hspans
        | cons d passed =>
            obtain ⟨rfl, rfl⟩ := List.cons.inj h
            rw [List.append_cons] at hspans
            exact .inr ⟨passed, rest, rfl, hspans⟩

/-- A text matches if and only if the pattern spans some stretch of it. -/
theorem isMatch_iff {p : Pattern} : p.isMatch cs = true ↔
    ∃ before taken after, cs = before ++ taken ++ after ∧ Spans p.parts before taken after := by
  rw [isMatch, show false = !([] : List Char).isEmpty from rfl, search_iff]
  constructor
  · rintro ⟨before, -, rfl, taken, after, rfl, h⟩
    exact ⟨before, taken, after, (List.append_assoc ..).symm, h⟩
  · rintro ⟨before, taken, after, rfl, h⟩
    exact ⟨before, taken ++ after, List.append_assoc .., taken, after, rfl, h⟩

end Pattern

end Companion.Text
