import Companion.Proofs.Templates.Scanning

/-!
# Templates — segments, and the body they are read from

Reading a body and writing its segments back are inverse to each other.  A body has one normal list
of segments, and reading gives it.

* `unparse_run`: a run of rounds neither loses nor doubles a character.
* `Scan.Tidy`: what every round keeps, so that the segments found are normal: no token begins in the
  text since the last placeholder, even if what follows is taken into account.
* `Scan.Gathers`: the other thing that every round keeps: the placeholders found are those among the
  segments found.
* `Normal.eq_of_unparse_eq`: two normal lists of segments with one body are equal, since no token
  can form across the border of a text and what follows it.
* `parse_unparse`: reading and writing back are inverse.
-/

namespace Companion

variable {p q : Placeholder} {a c r : List Char} {l m : List Segment} {s t : Scan}

theorem Placeholder.open_not_mem_name (p : Placeholder) : '\x7b' ∉ p.name.toList := by
  cases p <;> decide

/-! ### Writing segments back -/

theorem toList_unparse_cons (x : Segment) (l : List Segment) :
    (unparse (x :: l)).toList = x.source.toList ++ (unparse l).toList := by
  rw [unparse, String.toList_append]

/-- Placeholders that are filled with their own tokens stay as they are. -/
theorem fill_token (l : List Segment) : fill Placeholder.token l = unparse l := by
  induction l with
  | nil => rfl
  | cons x l ih => cases x <;> simp only [fill, unparse, Segment.source, ih]

theorem substitute_self (cs : List Char) : substitute Placeholder.token cs = cs := by
  induction cs using substitute.induct with
  | case1 cs p rest h ih =>
      obtain rfl := tokenAt?_eq h
      rw [substitute_token, ih]
  | case2 h => exact substitute_nil _
  | case3 c r h ih => rw [substitute_cons h, ih]

/-- A run of rounds neither loses nor doubles a character. -/
theorem unparse_run (s : Scan) :
    (unparse s.run.segments).toList = (unparse s.segments).toList ++ s.pending ++ s.rest := by
  have hrun := Scan.filled_run Placeholder.token s
  rwa [Scan.filled, fill_token, fill_token, substitute_self] at hrun

/-! ### Texts in which no token begins -/

/-- No token begins in `a`, if `c` follows it. -/
def Passed (a c : List Char) : Prop :=
  ∀ (x : List Char) (p : Placeholder) (y : List Char),
    a ++ c = x ++ (p.token.toList ++ y) → a.length ≤ x.length

theorem passed_nil (c : List Char) : Passed [] c := fun _ _ _ _ => Nat.zero_le _

theorem Passed.append (h : Passed a (c ++ r)) (hc : Passed c r) : Passed (a ++ c) r := by
  intro x p y he
  rw [List.append_assoc] at he
  have hx : a.length ≤ x.length := h x p y he
  -- a token that does not begin in `a` is one of what follows
  obtain ⟨z, rfl⟩ : a <+: x :=
    List.prefix_of_prefix_length_le ⟨_, he⟩ ⟨_, rfl⟩ hx
  rw [List.append_assoc] at he
  have hz : c.length ≤ z.length := hc z p y (List.append_cancel_left he)
  rw [List.length_append, List.length_append]
  omega

theorem passed_of_not_mem (h : '\x7b' ∉ a) : Passed a c := by
  intro x p y he
  refine Nat.le_of_not_lt fun hlt => h ?_
  have hx : (a ++ c)[x.length]? = some '\x7b' := by
    rw [he, token_append]
    simp
  rw [List.getElem?_append_left hlt] at hx
  exact List.mem_of_getElem? hx

theorem passed_open (h : ∀ (p : Placeholder) (y : List Char), '\x7b' :: c ≠ p.token.toList ++ y) :
    Passed ['\x7b'] c := by
  intro x p y he
  cases x with
  | nil => exact absurd he (h p y)
  | cons b x => simp

theorem passed_of_unclosed (h : '\x7d' ∉ a) : Passed a [] := by
  intro x p y he
  rw [List.append_nil, token_append] at he
  exact absurd (he ▸ by simp) h

/-- A text in which no token begins holds none. -/
theorem Passed.not_infix (h : Passed a c) (p : Placeholder) : ¬p.token.toList <:+: a := by
  rintro ⟨x, y, rfl⟩
  have hx := h x p (y ++ c) (by simp only [List.append_assoc])
  have hp : p.token.toList = '\x7b' :: (p.name.toList ++ ['\x7d']) := by
    rw [← token_append, List.append_nil]
  rw [hp, List.length_append, List.length_append, List.length_cons] at hx
  omega

/-! ### Reading gives normal segments -/

/-- A text without tokens may stand before segments that do not begin with a text. -/
theorem Normal.ofChars_append (h : ∀ p : Placeholder, ¬p.token.toList <:+: a)
    (hl : ∀ t l', l ≠ .text t :: l') (hn : Normal l) : Normal (Segment.ofChars a ++ l) := by
  cases a with
  | nil => exact hn
  | cons b a =>
      refine ⟨fun he => ?_, fun p => ?_, hl, hn⟩
      · exact absurd (congrArg String.toList he) (by simp)
      · rw [String.toList_ofList]
        exact h p

namespace Scan

/-- What holds of a body that is partly read. -/
structure Tidy (s : Scan) : Prop where
  /-- Any normal segments can follow those found. -/
  segments : ∀ l, Normal l → Normal (s.segments ++ l)
  /-- No token begins in the text since the last placeholder. -/
  pending : Passed s.pending s.rest

theorem tidy_start (cs : List Char) : (start cs).Tidy := ⟨fun _ h => h, passed_nil cs⟩

/-- A round keeps a body tidy. -/
theorem Tidy.step (h : s.Tidy) (hs : s.step = some t) : t.Tidy := by
  obtain ⟨before, name, after, hb, hn, hrest, ⟨p, hp, rfl⟩ | ⟨hp, rfl⟩⟩ := step_eq_some hs
  · -- the text since the last placeholder becomes a segment
    refine ⟨fun l hl => ?_, passed_nil after⟩
    have htext : Passed (s.pending ++ before) ('\x7b' :: (name ++ '\x7d' :: after)) :=
      Passed.append (hrest ▸ h.pending) (passed_of_not_mem hb)
    rw [List.append_assoc, List.append_assoc]
    refine h.segments _ (Normal.ofChars_append htext.not_infix ?_ hl)
    intro t l' he
    cases he
  · -- the opening brace becomes text
    have hopen : Passed ['\x7b'] (name ++ '\x7d' :: after) := by
      refine passed_open fun p y he => ?_
      rw [(ofName?_of_token hn he).1] at hp
      cases hp
    exact ⟨h.segments,
      Passed.append (Passed.append (hrest ▸ h.pending) (passed_of_not_mem hb)) hopen⟩

theorem Tidy.finish (h : s.Tidy) (hs : s.step = none) : Normal s.finish.segments := by
  have htext : Passed (s.pending ++ s.rest) [] := by
    rcases step_eq_none hs with hn | ⟨before, inner, hb, hi, hrest⟩
    · exact Passed.append (by simpa using h.pending) (passed_of_not_mem hn)
    · -- a token would need a closing brace
      have hinner : Passed ('\x7b' :: inner) [] := passed_of_unclosed (by simpa using hi)
      have hbefore : Passed before ('\x7b' :: inner) := passed_of_not_mem hb
      rw [hrest, ← List.append_assoc]
      exact Passed.append (by simpa using Passed.append (hrest ▸ h.pending) hbefore) hinner
  have hn : Normal (Segment.ofChars (s.pending ++ s.rest) ++ []) :=
    Normal.ofChars_append htext.not_infix nofun trivial
  rw [List.append_nil] at hn
  exact h.segments _ hn

/-- A run gives normal segments. -/
theorem Tidy.run (h : s.Tidy) : Normal s.run.segments := by
  induction s using Scan.run.induct with
  | case1 s t hs ih => rw [run_of_some hs]; exact ih (h.step hs)
  | case2 s hs => rw [run_of_none hs]; exact h.finish hs

end Scan

/-! ### Reading gathers the placeholders -/

theorem hole_not_mem_ofChars (p : Placeholder) (cs : List Char) :
    .hole p ∉ Segment.ofChars cs := by
  cases cs <;> simp [Segment.ofChars]

theorem hole_mem_append_ofChars : .hole p ∈ l ++ Segment.ofChars a ↔ .hole p ∈ l := by
  rw [List.mem_append]
  exact or_iff_left (hole_not_mem_ofChars p a)

namespace Scan

/-- The placeholders found are those among the segments found. -/
def Gathers (s : Scan) : Prop := ∀ p, p ∈ s.placeholders ↔ .hole p ∈ s.segments

theorem gathers_start (cs : List Char) : (start cs).Gathers := fun p =>
  iff_of_false (PlaceholderSet.not_mem_empty p) List.not_mem_nil

/-- A round puts a placeholder to those found just if it makes it a segment. -/
theorem Gathers.step (h : s.Gathers) (hs : s.step = some t) : t.Gathers := by
  obtain ⟨before, name, after, -, -, -, ⟨q, -, rfl⟩ | ⟨-, rfl⟩⟩ := step_eq_some hs
  · intro p
    have hadded : Segment.hole p ∈ [Segment.hole q] ↔ p = q := by simp
    change p ∈ s.placeholders.insert q ↔
      .hole p ∈ s.segments ++ Segment.ofChars (s.pending ++ before) ++ [.hole q]
    rw [PlaceholderSet.mem_insert, List.mem_append, hole_mem_append_ofChars, hadded, h p, or_comm]
  · exact h

/-- What is left when no round is possible holds no placeholder. -/
theorem Gathers.finish (h : s.Gathers) (p : Placeholder) :
    p ∈ s.finish.placeholders ↔ .hole p ∈ s.finish.segments :=
  (h p).trans hole_mem_append_ofChars.symm

/-- The placeholders that a run finds are those among the segments that it finds. -/
theorem Gathers.run (h : s.Gathers) (p : Placeholder) :
    p ∈ s.run.placeholders ↔ .hole p ∈ s.run.segments := by
  induction s using Scan.run.induct with
  | case1 s t hs ih => rw [run_of_some hs]; exact ih (h.step hs)
  | case2 s hs => rw [run_of_none hs]; exact h.finish p

end Scan

theorem mem_placeholders_iff {content : String} :
    p ∈ (parse content).placeholders ↔ .hole p ∈ (parse content).segments :=
  (Scan.gathers_start content.toList).run p

/-! ### A body has one normal list of segments -/

/-- A token has no opening brace but its first character. -/
theorem eq_nil_of_token_eq (h : p.token.toList = a ++ '\x7b' :: c) : a = [] := by
  cases a with
  | nil => rfl
  | cons b a =>
      rw [← List.append_nil p.token.toList, token_append] at h
      have hmem : '\x7b' ∈ p.name.toList ++ ['\x7d'] := by
        rw [(List.cons.inj h).2]
        simp
      rcases List.mem_append.mp hmem with hmem | hmem
      · exact absurd hmem p.open_not_mem_name
      · simp at hmem

/-- Segments that do not begin with a text are none, or begin with an opening brace. -/
theorem toList_unparse_eq_open (hl : ∀ t l', l ≠ .text t :: l') :
    (unparse l).toList = [] ∨ ∃ c, (unparse l).toList = '\x7b' :: c := by
  cases l with
  | nil => exact .inl rfl
  | cons x l =>
      cases x with
      | text t => exact absurd rfl (hl t l)
      | hole p =>
          rw [toList_unparse_cons, Segment.source, token_append]
          exact .inr ⟨_, rfl⟩

/-- No token forms across the end of a text: segments that begin with a text have another body than
segments that begin with a placeholder. -/
theorem Normal.text_ne_hole {text : String} (h : Normal (.text text :: l)) :
    (unparse (.text text :: l)).toList ≠ (unparse (.hole p :: m)).toList := by
  obtain ⟨hne, hfree, hnext, -⟩ := h
  intro he
  rw [toList_unparse_cons, toList_unparse_cons, Segment.source, Segment.source] at he
  rcases List.append_eq_append_iff.mp he with ⟨y, hp, hl⟩ | ⟨y, htext, -⟩
  · cases y with
    | nil => exact hfree p ⟨[], [], by simpa using hp⟩
    | cons b y =>
        -- the text ends within the token, and the next segment begins there
        rcases toList_unparse_eq_open hnext with hnil | ⟨c, hopen⟩
        · rw [hnil] at hl
          cases hl
        · rw [hopen] at hl
          obtain rfl : '\x7b' = b := (List.cons.inj hl).1
          exact hne (String.toList_injective (eq_nil_of_token_eq hp))
  · exact hfree p ⟨[], y, by simpa using htext.symm⟩

/-- If a text that begins a normal list is continued in another one, nothing is added to it. -/
theorem Normal.eq_nil_of_append {text text' : String} (h : Normal (.text text :: l))
    (h' : Normal (.text text' :: m)) (ht : text'.toList = text.toList ++ a)
    (hl : (unparse l).toList = a ++ (unparse m).toList) : a = [] := by
  refine Decidable.byContradiction fun ha => ?_
  -- what is added would be a text of its own, before the same segments
  have hn : Normal (.text (String.ofList a) :: m) := by
    refine ⟨fun he => ha (by simpa using congrArg String.toList he), fun p hp => ?_, h'.2.2⟩
    rw [String.toList_ofList] at hp
    exact h'.2.1 p (ht ▸ hp.trans (List.suffix_append _ _).isInfix)
  have hbody : (unparse l).toList = (unparse (.text (String.ofList a) :: m)).toList := by
    rw [hl, toList_unparse_cons, Segment.source, String.toList_ofList]
  cases l with
  | nil => exact ha (List.append_eq_nil_iff.mp hl.symm).1
  | cons x l =>
      cases x with
      | text t => exact h.2.2.1 t l rfl
      | hole p => exact hn.text_ne_hole hbody.symm

/-- Normal lists of one body that begin with a text begin with the same text. -/
theorem Normal.text_inj {text text' : String} (h : Normal (.text text :: l))
    (h' : Normal (.text text' :: m))
    (he : (unparse (.text text :: l)).toList = (unparse (.text text' :: m)).toList) :
    text = text' ∧ (unparse l).toList = (unparse m).toList := by
  rw [toList_unparse_cons, toList_unparse_cons, Segment.source, Segment.source] at he
  -- one of the texts would continue the other
  rcases List.append_eq_append_iff.mp he with ⟨a, ht, hr⟩ | ⟨a, ht, hr⟩
  · obtain rfl := h.eq_nil_of_append h' ht hr
    exact ⟨(String.toList_injective (by simpa using ht)).symm, hr⟩
  · obtain rfl := h'.eq_nil_of_append h ht hr
    exact ⟨String.toList_injective (by simpa using ht), hr.symm⟩

theorem Normal.eq_nil (h : Normal l) (he : (unparse l).toList = []) : l = [] := by
  cases l with
  | nil => rfl
  | cons x l =>
      rw [toList_unparse_cons] at he
      have hx : x.source.toList = [] := (List.append_eq_nil_iff.mp he).1
      cases x with
      | text t => exact absurd (String.toList_injective hx) h.1
      | hole p => cases p <;> cases hx

/-- Two normal lists of segments with one body are equal. -/
theorem Normal.eq_of_unparse_eq (hl : Normal l) (hm : Normal m)
    (h : (unparse l).toList = (unparse m).toList) : l = m := by
  induction l generalizing m with
  | nil => exact (hm.eq_nil h.symm).symm
  | cons x l ih =>
      cases m with
      | nil => exact hl.eq_nil h
      | cons y m =>
          cases x with
          | text t =>
              cases y with
              | hole q => exact absurd h hl.text_ne_hole
              | text t' =>
                  obtain ⟨rfl, hr⟩ := hl.text_inj hm h
                  rw [ih hl.2.2.2 hm.2.2.2 hr]
          | hole p =>
              cases y with
              | text t' => exact absurd h.symm hm.text_ne_hole
              | hole q =>
                  rw [toList_unparse_cons, toList_unparse_cons] at h
                  obtain ⟨rfl, hr⟩ := token_append_inj h
                  obtain rfl : l = m := ih hl hm hr
                  rfl

/-! ### Reading and writing back -/

theorem toList_unparse_parse (content : String) :
    (unparse (parse content).segments).toList = content.toList :=
  unparse_run (Scan.start content.toList)

theorem normal_parse (content : String) : Normal (parse content).segments :=
  (Scan.tidy_start content.toList).run

/-- **Reading and writing back are inverse.**  Whatever braces a body holds, writing back the
segments that are read from it gives the body, and these segments are normal; the placeholders that
the rounds found are those that occur in the segments, listed in canonical order and each once.
Segments are read back from what is written of them just if they are normal, whatever braces their
texts hold. -/
theorem parse_unparse (content : String) (segments : List Segment) :
    unparse (parse content).segments = content ∧
    Normal (parse content).segments ∧
    (∀ p, p ∈ (parse content).placeholders ↔ .hole p ∈ (parse content).segments) ∧
    (parse content).placeholders.toList.Sublist Placeholder.all ∧
    ((parse (unparse segments)).segments = segments ↔ Normal segments) := by
  refine ⟨String.toList_injective (toList_unparse_parse content), normal_parse content,
    fun p => mem_placeholders_iff, (parse content).placeholders.ordered, ?_⟩
  constructor
  · intro h
    exact h ▸ normal_parse _
  · intro h
    exact (normal_parse _).eq_of_unparse_eq h (toList_unparse_parse _)

end Companion
