import Companion.Proofs.Templates.Occurrences
import Companion.SourceUnit

/-!
# Templates — what can be left unresolved

A value without braces can still take part in a token: where braces stand around a placeholder, its
value may be a placeholder's name.  A body that makes a template is not kept from that.

* `substitute_eq_append_cons`: a character that is in no value stands in the filled text where it
  stands in the body.
* `infix_substitute_iff`: if no value holds a brace, a token stands in the filled text just if
  braces in the body stand around something else that is filled to the placeholder's name.
* `Flat`: behind an opening brace there is no other one up to the next closing brace or line end.
  No token is left of a flat body.
* `Rendering.leftovers`: what is unresolved in the text of a unit.
-/

namespace Companion

variable {values : Bindings} {p : Placeholder} {c : Char} {cs a b m x y : List Char}
  {part text : String}

/-! ### Characters that are copied -/

theorem tokenAt?_cons_of_ne (h : c ≠ '\x7b') : tokenAt? (c :: y) = none := by
  refine tokenAt?_eq_none_iff.mpr fun p rest he => h ?_
  rw [token_append] at he
  exact (List.cons.inj he).1

/-- Where no token begins, none begins either if what follows is cut short. -/
theorem tokenAt?_eq_none_of_append (h : tokenAt? (x ++ y) = none) : tokenAt? x = none := by
  refine tokenAt?_eq_none_iff.mpr fun p rest he => ?_
  refine tokenAt?_eq_none_iff.mp h p (rest ++ y) ?_
  rw [he, List.append_assoc]

/-- A character that is in no value was copied: what stands before it and behind it in the filled
text was filled from what stands before it and behind it in the body. -/
theorem substitute_eq_append_cons (hc : ∀ p, c ∉ (values p).toList)
    (h : substitute values cs = a ++ c :: b) :
    ∃ x y, cs = x ++ c :: y ∧ substitute values x = a ∧ substitute values y = b ∧
      tokenAt? (c :: y) = none := by
  induction cs using substitute.induct generalizing a with
  | case1 cs p rest ht ih =>
      obtain rfl := tokenAt?_eq ht
      rw [substitute_token] at h
      -- the character stands behind the value
      rcases List.append_eq_append_iff.mp h with ⟨a', rfl, hr⟩ | ⟨a', hv, hr⟩
      · obtain ⟨x, y, rfl, rfl, hy, hn⟩ := ih hr
        refine ⟨p.token.toList ++ x, y, by rw [List.append_assoc], ?_, hy, hn⟩
        rw [substitute_token]
      · cases a' with
        | nil =>
            obtain ⟨x, y, rfl, hx, hy, hn⟩ := ih (a := []) hr.symm
            refine ⟨p.token.toList ++ x, y, by rw [List.append_assoc], ?_, hy, hn⟩
            rw [substitute_token, hx, hv, List.append_nil, List.append_nil]
        | cons d a' =>
            obtain rfl := (List.cons.inj hr).1
            exact absurd (hv ▸ by simp) (hc p)
  | case2 h' =>
      rw [substitute_nil] at h
      exact absurd (h ▸ by simp : c ∈ []) List.not_mem_nil
  | case3 d r hn ih =>
      rw [substitute_cons hn] at h
      cases a with
      | nil =>
          obtain ⟨rfl, rfl⟩ := List.cons.inj h
          exact ⟨[], r, rfl, substitute_nil _, rfl, hn⟩
      | cons d' a =>
          obtain ⟨rfl, hr⟩ := List.cons.inj h
          obtain ⟨x, y, rfl, rfl, hy, hn'⟩ := ih hr
          refine ⟨d :: x, y, rfl, ?_, hy, hn'⟩
          exact substitute_cons (tokenAt?_eq_none_of_append (x := d :: x) hn)

/-! ### Filling in parts -/

/-- No token reaches over a character that tokens at most begin with. -/
theorem substitute_append_cons (h : ∀ (p : Placeholder) a b, p.token.toList = a ++ c :: b → a = [])
    (values : Bindings) (x y : List Char) :
    substitute values (x ++ c :: y) = substitute values x ++ substitute values (c :: y) := by
  induction x using substitute.induct with
  | case1 cs p rest ht ih =>
      obtain rfl := tokenAt?_eq ht
      rw [List.append_assoc, substitute_token, ih, substitute_token, List.append_assoc]
  | case2 => simp [substitute_nil]
  | case3 d r hn ih =>
      have hn' : tokenAt? (d :: (r ++ c :: y)) = none := by
        refine tokenAt?_eq_none_iff.mpr fun q t he => ?_
        have he : (d :: r) ++ c :: y = q.token.toList ++ t := he
        rcases List.append_eq_append_iff.mp he with ⟨e, hq, he⟩ | ⟨e, hq, -⟩
        · cases e with
          | nil => exact tokenAt?_eq_none_iff.mp hn q [] (by simpa using hq.symm)
          | cons f e =>
              obtain rfl := (List.cons.inj he).1
              exact absurd (h q _ _ hq) (by simp)
        · exact tokenAt?_eq_none_iff.mp hn q e hq
      rw [List.cons_append, substitute_cons hn', ih, substitute_cons hn, List.cons_append]

/-- No token ends in a closing brace, if what stands before it is filled without opening braces. -/
theorem substitute_append_close (h : '\x7b' ∉ substitute values m) :
    substitute values (m ++ '\x7d' :: y) =
      substitute values m ++ '\x7d' :: substitute values y := by
  induction m using substitute.induct with
  | case1 cs p rest ht ih =>
      obtain rfl := tokenAt?_eq ht
      rw [substitute_token, List.mem_append, not_or] at h
      rw [List.append_assoc, substitute_token, ih h.2, substitute_token, List.append_assoc]
  | case2 h' =>
      rw [substitute_nil, List.nil_append, List.nil_append,
        substitute_cons (tokenAt?_cons_of_ne (by decide))]
  | case3 c r hn ih =>
      rw [substitute_cons hn, List.mem_cons, not_or] at h
      rw [List.cons_append, substitute_cons (tokenAt?_cons_of_ne (Ne.symm h.1)), ih h.2,
        substitute_cons hn, List.cons_append]

/-! ### Tokens in the filled text -/

/-- No value holds a brace. -/
def Braceless (values : Bindings) : Prop :=
  ∀ p, '\x7b' ∉ (values p).toList ∧ '\x7d' ∉ (values p).toList

theorem substitute_of_no_open (h : '\x7b' ∉ m) : substitute values m = m := by
  have hm : substitute values (m ++ []) = m ++ substitute values [] := substitute_append h
  rwa [substitute_nil, List.append_nil] at hm

/-- What is filled to a placeholder's name, and is not the name itself, holds an opening brace. -/
theorem open_mem_of_substitute (hm : m ≠ p.name.toList)
    (h : substitute values m = p.name.toList) : '\x7b' ∈ m := by
  by_contra hn
  exact hm ((substitute_of_no_open hn).symm.trans h)

/-- If no value holds a brace, a token stands in the filled text just if braces in the body stand
around something else that is filled to the placeholder's name. -/
theorem infix_substitute_iff (hv : Braceless values) :
    p.token.toList <:+: substitute values cs ↔
      ∃ x m y, cs = x ++ '\x7b' :: (m ++ '\x7d' :: y) ∧ m ≠ p.name.toList ∧
        substitute values m = p.name.toList := by
  constructor
  · -- both braces were copied
    rintro ⟨a, b, h⟩
    rw [List.append_assoc, token_append] at h
    obtain ⟨x, z, rfl, -, hz, hn⟩ := substitute_eq_append_cons (fun p => (hv p).1) h.symm
    obtain ⟨m, y, rfl, hm, -, -⟩ := substitute_eq_append_cons (fun p => (hv p).2) hz
    refine ⟨x, m, y, rfl, ?_, hm⟩
    rintro rfl
    exact tokenAt?_eq_none_iff.mp hn p y (token_append p y).symm
  · rintro ⟨x, m, y, rfl, hne, hm⟩
    have hopen : '\x7b' ∈ m := open_mem_of_substitute hne hm
    -- a token that begins at the opening brace would end within `m`, and its end would be copied
    have hn : tokenAt? ('\x7b' :: (m ++ '\x7d' :: y)) = none := by
      refine tokenAt?_eq_none_iff.mpr fun q t he => ?_
      rw [token_append] at he
      rcases List.append_eq_append_iff.mp (List.cons.inj he).2 with ⟨d, hq, -⟩ | ⟨d, rfl, hd⟩
      · exact q.open_not_mem_name (hq ▸ List.mem_append_left _ hopen)
      · cases d with
        | nil => exact q.open_not_mem_name (by simpa using hopen)
        | cons e d =>
            obtain rfl := (List.cons.inj hd).1
            rw [substitute_append q.open_not_mem_name,
              substitute_cons (tokenAt?_cons_of_ne (by decide))] at hm
            exact p.brace_not_mem_name (hm ▸ by simp)
    have hname : '\x7b' ∉ substitute values m := hm ▸ p.open_not_mem_name
    rw [substitute_append_cons fun _ _ _ => eq_nil_of_token_eq, substitute_cons hn,
      substitute_append_close hname, hm]
    exact ⟨substitute values x, substitute values y, by rw [List.append_assoc, token_append]⟩

/-! ### Flat bodies -/

/-- Behind an opening brace there is no other one up to the next closing brace or line end. -/
def Flat : List Char → Prop
  | [] => True
  | c :: cs => (c = '\x7b' → '\x7b' ∉ cs.takeWhile fun d => d != '\x7d' && d != '\n') ∧ Flat cs

instance decidableFlat : (cs : List Char) → Decidable (Flat cs)
  | [] => .isTrue trivial
  | _ :: cs =>
    have := decidableFlat cs
    inferInstanceAs (Decidable (_ ∧ _))

theorem Flat.of_append (h : Flat (x ++ y)) : Flat y := by
  induction x with
  | nil => exact h
  | cons c x ih => exact ih h.2

theorem Placeholder.break_not_mem_name (p : Placeholder) : '\n' ∉ p.name.toList := by
  cases p <;> decide

/-- Of a flat body no token is left. -/
theorem Flat.no_token (h : Flat cs) (hv : Braceless values) (p : Placeholder) :
    ¬p.token.toList <:+: substitute values cs := by
  rw [infix_substitute_iff hv]
  rintro ⟨x, m, y, rfl, hne, hm⟩
  -- up to the next opening brace `m` is copied, to a part of the name
  obtain ⟨l, r, rfl, hl⟩ := List.eq_append_cons_of_mem (open_mem_of_substitute hne hm)
  rw [substitute_append hl] at hm
  have hpass : ∀ d ∈ l, (d != '\x7d' && d != '\n') = true := by
    intro d hd
    have hdn : d ∈ p.name.toList := hm ▸ List.mem_append_left _ hd
    rw [Bool.and_eq_true, bne_iff_ne, bne_iff_ne]
    exact ⟨ne_of_mem_of_not_mem hdn p.brace_not_mem_name,
      ne_of_mem_of_not_mem hdn p.break_not_mem_name⟩
  refine h.of_append.1 rfl ?_
  rw [List.append_assoc, List.takeWhile_append_of_pos hpass]
  simp

/-! ### Units -/

theorem toList_render (content : String) (values : Bindings) :
    (render content values).toList = substitute values content.toList := by
  rw [render, parse, Scan.filled_run]
  simp [Scan.filled, Scan.start, fill]

theorem not_mem_toList_append {s t : String} (hs : c ∉ s.toList) (ht : c ∉ t.toList) :
    c ∉ (s ++ t).toList := by
  rw [String.toList_append, List.mem_append, not_or]
  exact ⟨hs, ht⟩

theorem SourceUnit.open_not_mem_header : '\x7b' ∉ header.toList := by
  unfold header
  iterate 7 refine not_mem_toList_append ?_ ?_
  all_goals
    rw [String.toList_ofList]
    decide +kernel

/-- No token reaches over the end of a text without opening braces. -/
theorem token_infix_append_iff (h : '\x7b' ∉ a) :
    p.token.toList <:+: a ++ b ↔ p.token.toList <:+: b := by
  refine ⟨?_, fun hb => hb.trans (List.suffix_append _ _).isInfix⟩
  rintro ⟨x, y, he⟩
  rw [List.append_assoc, token_append] at he
  rcases List.append_eq_append_iff.mp he with ⟨d, rfl, hd⟩ | ⟨d, rfl, hd⟩
  · cases d with
    | nil => exact ⟨[], y, by rw [List.nil_append, token_append]; simpa using hd⟩
    | cons e d =>
        obtain rfl := (List.cons.inj hd).1
        exact absurd (by simp) h
  · exact ⟨d, y, by rw [List.append_assoc, token_append, hd]⟩

/-- The text holds no brace. -/
def BraceFree (text : String) : Prop := '\x7b' ∉ text.toList ∧ '\x7d' ∉ text.toList

instance (text : String) : Decidable (BraceFree text) :=
  inferInstanceAs (Decidable (_ ∧ _))

namespace Rendering

variable {r : Rendering} {t : Template} {v : Variant} {content : String}

/-- The texts that a unit is made of hold no brace. -/
structure Plain (r : Rendering) : Prop where
  /-- The name of the class holds none. -/
  className : BraceFree r.className
  /-- The namespace holds none. -/
  scope : BraceFree r.scope.text
  /-- The element type holds none. -/
  elementType : BraceFree r.elementType
  /-- The field holds none. -/
  backingField : BraceFree r.backingField

theorem Plain.braceless (h : r.Plain) : Braceless r.values
  | .collectionType => h.elementType
  | .backingField => h.backingField
  | .namespace => h.scope
  | .className => h.className
  | .accessor => by
      rw [values]
      cases r.accessibility <;> decide

theorem toList_text (ht : Template.ofContent v content = .ok t) :
    (r.text t).toList = SourceUnit.header.toList ++ substitute r.values content.toList := by
  rw [text, (Template.ofContent_eq_ok_iff.mp ht).1, String.toList_append]
  exact congrArg _ (toList_render content r.values)

/-- **What is left unresolved.**  Let a unit be made of texts without braces, with a body that was
accepted as a template.  A placeholder is unresolved in the unit's text just if braces in the body
stand around something that is not the placeholder's name but is filled to it.  So nothing is
unresolved if the body is flat; that it was accepted is not enough. -/
theorem leftovers (hr : r.Plain) (ht : Template.ofContent v content = .ok t) :
    (∀ p, p ∈ unresolved (r.text t) ↔
      ∃ before inner after : String,
        content = before ++ "\x7b" ++ inner ++ "\x7d" ++ after ∧
          inner ≠ p.name ∧ render inner r.values = p.name) ∧
    (Flat content.toList → unresolved (r.text t) = []) := by
  have hmem : ∀ p, p ∈ unresolved (r.text t) ↔
      p.token.toList <:+: substitute r.values content.toList := fun p => by
    rw [mem_unresolved_iff, Occurs, toList_text ht,
      token_infix_append_iff SourceUnit.open_not_mem_header]
  refine ⟨fun p => ?_, fun hflat => List.eq_nil_iff_forall_not_mem.mpr fun p hp => ?_⟩
  · rw [hmem, infix_substitute_iff hr.braceless]
    constructor
    · rintro ⟨x, m, y, hcontent, hne, hm⟩
      refine ⟨String.ofList x, String.ofList m, String.ofList y, ?_, ?_, ?_⟩
      · apply String.toList_injective
        simp [hcontent]
      · rintro he
        exact hne (by rw [← he, String.toList_ofList])
      · apply String.toList_injective
        rw [toList_render, String.toList_ofList, hm]
    · rintro ⟨before, inner, after, rfl, hne, hm⟩
      refine ⟨before.toList, inner.toList, after.toList, by simp, ?_, ?_⟩
      · exact fun he => hne (String.toList_injective he)
      · rw [← toList_render, hm]
  · exact hflat.no_token hr.braceless p ((hmem p).mp hp)

/-- The theorem at a class `Namespace` and a body with braces around the class's name. -/
theorem leftovers_namespace :
    let content := "\x7bNamespace\x7d\x7bAccessor\x7d\x7b\x7bClassName\x7d\x7d" ++
      "\x7bCollectionType\x7d\x7bBackingField\x7d"
    let t : Template := ⟨⟨.list, .autoBacked⟩, content, parse content⟩
    let r : Rendering := ⟨"Namespace", .own "Shop", .public, "int", "_items"⟩
    r.Plain ∧ Template.ofContent ⟨.list, .autoBacked⟩ content = .ok t ∧
      .namespace ∈ unresolved (r.text t) := by
  intro content t r
  have hr : r.Plain := ⟨by decide, by decide, by decide, by decide⟩
  have ht : Template.ofContent ⟨.list, .autoBacked⟩ content = .ok t := by
    refine Template.ofContent_eq_ok_iff.mpr ⟨rfl, fun p => ?_⟩
    cases p <;> decide +kernel
  refine ⟨hr, ht, ((leftovers hr ht).1 .namespace).mpr ⟨"\x7bNamespace\x7d\x7bAccessor\x7d",
    "\x7bClassName\x7d", "\x7bCollectionType\x7d\x7bBackingField\x7d", by decide +kernel,
    by decide, ?_⟩⟩
  decide +kernel

end Rendering

end Companion
