import Companion.Proofs.Templates.Segments
import Companion.Template.Basic
import Mathlib.Data.List.Infix
import Mathlib.Data.List.Perm.Subperm

/-!
# Templates — which placeholders a text holds

A body is checked by the placeholders that reading finds, and nobody searches it for tokens.  Yet
reading passes over no token, whatever braces stand before it, around it or behind it: the
placeholders found are those whose tokens occur in the body.

* `Occurs`: a text holds another one.
* `Normal.hole_mem`: a token in what normal segments are read from is one of their placeholders.
* `mem_parse_iff`: a placeholder is read from a text just if its token occurs in the text.
* `validation`: which bodies make templates, how the others are refused, and what is unresolved.
-/

namespace Companion

variable {p q : Placeholder} {x y : List Char} {l : List Segment} {content text : String}

/-- The text holds the part. -/
def Occurs (part text : String) : Prop := part.toList <:+: text.toList

instance (part text : String) : Decidable (Occurs part text) :=
  inferInstanceAs (Decidable (part.toList <:+: text.toList))

/-! ### Tokens of normal segments -/

/-- The end of a text may stand in its place. -/
theorem Normal.text_suffix {s t : String} (h : Normal (.text s :: l)) (ht : t ≠ "")
    (hs : t.toList <:+ s.toList) : Normal (.text t :: l) :=
  ⟨ht, fun p hp => h.2.1 p (hp.trans hs.isInfix), h.2.2⟩

/-- A token in what normal segments are read from is one of their placeholders. -/
theorem Normal.hole_mem (h : Normal l)
    (hp : (unparse l).toList = x ++ (p.token.toList ++ y)) : .hole p ∈ l := by
  -- along the segments: the token begins in the first of them, or behind it
  induction l generalizing x with
  | nil =>
      rw [token_append] at hp
      exact absurd (hp ▸ by simp : '\x7b' ∈ (unparse []).toList) (by simp [unparse])
  | cons z l ih =>
      have hl : Normal l := by
        cases z with
        | text s => exact h.2.2.2
        | hole q => exact h
      rw [toList_unparse_cons] at hp
      rcases List.append_eq_append_iff.mp hp with ⟨a, -, hr⟩ | ⟨a, hz, hr⟩
      · exact List.mem_cons_of_mem _ (ih hl hr)
      · cases a with
        | nil => exact List.mem_cons_of_mem _ (ih hl (x := []) hr.symm)
        | cons b a =>
            cases z with
            | text s =>
                -- it would cross the end of the text
                have ht : Normal (.text (String.ofList (b :: a)) :: l) := by
                  refine h.text_suffix (fun he => ?_) ⟨x, ?_⟩
                  · exact absurd (congrArg String.toList he) (by simp)
                  · rw [String.toList_ofList]
                    exact hz.symm
                refine absurd ?_ (ht.text_ne_hole (p := p) (m := [.text (String.ofList y)]))
                simpa [unparse, Segment.source] using hr.symm
            | hole q =>
                -- a token begins with its only opening brace
                obtain rfl : '\x7b' = b := by
                  rw [token_append] at hr
                  exact (List.cons.inj hr).1
                obtain rfl := eq_nil_of_token_eq hz
                rw [← show q.token.toList = '\x7b' :: a from hz] at hr
                rw [(token_append_inj hr).1]
                exact List.mem_cons_self

theorem infix_unparse_of_mem (h : .hole p ∈ l) : p.token.toList <:+: (unparse l).toList := by
  induction l with
  | nil => cases h
  | cons z l ih =>
      rw [toList_unparse_cons]
      rcases List.mem_cons.mp h with rfl | h
      · exact ⟨[], _, rfl⟩
      · exact (ih h).trans (List.suffix_append _ _).isInfix

/-! ### Sets of placeholders -/

/-- A set is listed as canonical order gives it. -/
theorem PlaceholderSet.toList_eq_filter (s : PlaceholderSet) :
    s.toList = Placeholder.all.filter s.contains := by
  have hself : s.toList.filter s.contains = s.toList :=
    List.filter_eq_self.mpr fun p hp => contains_iff_mem.mpr hp
  have hsub : s.toList.Sublist (Placeholder.all.filter s.contains) :=
    hself ▸ s.ordered.filter s.contains
  have hn : (Placeholder.all.filter s.contains).Nodup := .filter _ (by decide)
  have hsubset : Placeholder.all.filter s.contains ⊆ s.toList := fun p hp =>
    contains_iff_mem.mp (List.mem_filter.mp hp).2
  exact hsub.eq_of_length_le (hn.subperm hsubset).length_le

/-! ### Tokens of a text -/

/-- A placeholder is found in a text just if its token occurs in the text. -/
theorem mem_parse_iff : p ∈ (parse content).placeholders ↔ Occurs p.token content := by
  rw [mem_placeholders_iff]
  constructor
  · intro h
    have hp := infix_unparse_of_mem h
    rwa [toList_unparse_parse] at hp
  · rintro ⟨x, y, h⟩
    refine (normal_parse content).hole_mem (x := x) (y := y) ?_
    rw [toList_unparse_parse, ← h, List.append_assoc]

theorem segments_parse_eq_nil_iff : (parse content).segments = [] ↔ content = "" := by
  have hbody := toList_unparse_parse content
  constructor
  · intro h
    rw [h] at hbody
    exact String.toList_injective hbody.symm
  · rintro rfl
    exact (normal_parse "").eq_nil hbody

theorem contains_parse (content : String) (p : Placeholder) :
    (parse content).placeholders.contains p = decide (Occurs p.token content) := by
  rw [Bool.eq_iff_iff, PlaceholderSet.contains_iff_mem, mem_parse_iff, decide_eq_true_iff]

theorem unresolved_eq (text : String) :
    unresolved text = Placeholder.all.filter fun p => decide (Occurs p.token text) := by
  rw [unresolved, PlaceholderSet.toList_eq_filter]
  exact List.filter_congr fun p _ => contains_parse text p

theorem mem_unresolved_iff : p ∈ unresolved text ↔ Occurs p.token text := mem_parse_iff

/-! ### The check -/

/-- The placeholder is the first, in canonical order, whose token does not occur in the text. -/
def FirstAbsent (content : String) (p : Placeholder) : Prop :=
  ∃ before after, Placeholder.all = before ++ p :: after ∧
    (∀ q ∈ before, Occurs q.token content) ∧ ¬Occurs p.token content

theorem missing?_parse_eq_some_iff :
    missing? (parse content).placeholders = some p ↔ FirstAbsent content p := by
  simp only [missing?, List.find?_eq_some_iff_append, contains_parse, Bool.not_eq_true',
    decide_eq_false_iff_not, Bool.not_not, decide_eq_true_iff, FirstAbsent]
  constructor
  · rintro ⟨hn, before, after, hsplit, hbefore⟩
    exact ⟨before, after, hsplit, hbefore, hn⟩
  · rintro ⟨before, after, hsplit, hbefore, hn⟩
    exact ⟨hn, before, after, hsplit, hbefore⟩

theorem missing?_parse_eq_none_iff :
    missing? (parse content).placeholders = none ↔ ∀ p : Placeholder, Occurs p.token content := by
  simp only [missing?, List.find?_eq_none, contains_parse, Bool.not_eq_true',
    decide_eq_false_iff_not, Decidable.not_not]
  exact ⟨fun h p => h p p.mem_all, fun h p _ => h p⟩

/-- A body makes a template just if every token occurs in it. -/
theorem Template.ofContent_eq_ok_iff {v : Variant} {t : Template} :
    Template.ofContent v content = .ok t ↔
      t = ⟨v, content, parse content⟩ ∧ ∀ p : Placeholder, Occurs p.token content := by
  simp only [ofContent, check, List.isEmpty_iff, segments_parse_eq_nil_iff]
  by_cases hc : content = ""
  · have hnone : ¬∀ p : Placeholder, Occurs p.token content := fun h =>
      List.ne_nil_of_mem (mem_placeholders_iff.mp (mem_parse_iff.mpr (h default)))
        (segments_parse_eq_nil_iff.mpr hc)
    simp [hc ▸ hnone, hc]
  · rw [← missing?_parse_eq_none_iff]
    cases missing? (parse content).placeholders <;> simp [hc, eq_comm]

/-- **Which bodies make templates.**  A body makes a template just if the token of each placeholder
occurs in it, and the template then holds the segments of the body.  The empty body is refused as
empty; any other body is refused for the first placeholder, in canonical order, whose token does not
occur in it; and no body is refused for another reason.  What is unresolved in a text are, in
canonical order and each once, the placeholders whose tokens occur in it. -/
theorem validation (v : Variant) (content : String) :
    (∀ t, Template.ofContent v content = .ok t ↔
      t = ⟨v, content, parse content⟩ ∧ ∀ p : Placeholder, Occurs p.token content) ∧
    (∀ fault, Template.ofContent v content = .error fault ↔
      content = "" ∧ fault = .empty v.resource ∨
        content ≠ "" ∧ ∃ p, FirstAbsent content p ∧
          fault = .missingPlaceholder v.resource p) ∧
    ∀ text, unresolved text = Placeholder.all.filter fun p => decide (Occurs p.token text) := by
  refine ⟨fun t => Template.ofContent_eq_ok_iff, fun fault => ?_, unresolved_eq⟩
  simp only [Template.ofContent, check, List.isEmpty_iff, segments_parse_eq_nil_iff]
  by_cases hc : content = ""
  · simp [hc, eq_comm]
  · simp only [← missing?_parse_eq_some_iff]
    cases missing? (parse content).placeholders <;> simp [hc, eq_comm]

end Companion
