import Companion.Template.Substitution

/-!
# Templates — from brace to brace, and from character to character

A template body is read from brace to brace, and then its segments are filled.  What comes out is
the same as if the body were read from left to right: where a token stands its value is written, and
any other character is copied.  No value is searched for tokens.

* `tokenAt?_eq_some_iff`: at most one token stands at a position.
* `Scan.step_eq_some` and `Scan.step_eq_none`: what a round finds, and when there is none.
* `Scan.filled_step`: a round changes nothing of what comes out.
* `render_eq_substitute`: both ways to fill a body agree.
-/

namespace Companion

/-! ### The first occurrence of a thing -/

section First

variable {α : Type} [BEq α] [LawfulBEq α] {x y : α} {l l' r r' : List α}

theorem not_mem_takeWhile_ne (x : α) (l : List α) : x ∉ l.takeWhile (· != x) := fun h => by
  simpa using List.all_eq_true.mp (List.all_takeWhile (p := (· != x)) (l := l)) x h

theorem eq_append_of_dropWhile_ne (h : l.dropWhile (· != x) = y :: r) :
    l = l.takeWhile (· != x) ++ x :: r := by
  have hy := List.head?_dropWhile_not (· != x) l
  rw [h] at hy
  obtain rfl : y = x := by simpa using hy
  rw [← h, List.takeWhile_append_dropWhile]

theorem not_mem_of_dropWhile_ne (h : l.dropWhile (· != x) = []) : x ∉ l := by
  have hl := List.takeWhile_append_dropWhile (p := (· != x)) (l := l)
  rw [h, List.append_nil] at hl
  exact hl ▸ not_mem_takeWhile_ne x l

theorem takeWhile_ne_append (h : x ∉ l) : (l ++ x :: r).takeWhile (· != x) = l := by
  rw [List.takeWhile_append_of_pos fun y hy => by simpa using fun e : y = x => h (e ▸ hy),
    List.takeWhile_cons_of_neg (by simp), List.append_nil]

theorem dropWhile_ne_append (h : x ∉ l) : (l ++ x :: r).dropWhile (· != x) = x :: r := by
  rw [List.dropWhile_append_of_pos fun y hy => by simpa using fun e : y = x => h (e ▸ hy),
    List.dropWhile_cons_of_neg (by simp)]

/-- What stands before the first occurrence of a thing, and what stands behind it. -/
theorem append_cons_inj_of_first (hl : x ∉ l) (hl' : x ∉ l') (h : l ++ x :: r = l' ++ x :: r') :
    l = l' ∧ r = r' := by
  have ht := congrArg (List.takeWhile (· != x)) h
  have hd := congrArg (List.dropWhile (· != x)) h
  rw [takeWhile_ne_append hl, takeWhile_ne_append hl'] at ht
  rw [dropWhile_ne_append hl, dropWhile_ne_append hl'] at hd
  exact ⟨ht, (List.cons.inj hd).2⟩

end First

/-! ### Tokens -/

variable {values : Bindings} {p q : Placeholder} {cs a rest rest' : List Char}

theorem Placeholder.brace_not_mem_name (p : Placeholder) : '\x7d' ∉ p.name.toList := by
  cases p <;> decide

theorem token_append (p : Placeholder) (rest : List Char) :
    p.token.toList ++ rest = '\x7b' :: (p.name.toList ++ '\x7d' :: rest) := by
  simp [Placeholder.token]

/-- Between an opening brace and the next closing one stands the name of the token that begins
there. -/
theorem ofName?_of_token {name after : List Char} (hn : '\x7d' ∉ name)
    (h : '\x7b' :: (name ++ '\x7d' :: after) = p.token.toList ++ rest) :
    Placeholder.ofName? (String.ofList name) = some p ∧ after = rest := by
  rw [token_append] at h
  obtain ⟨rfl, rfl⟩ := append_cons_inj_of_first hn p.brace_not_mem_name (List.cons.inj h).2
  rw [String.ofList_toList]
  exact ⟨p.ofName?_name, rfl⟩

theorem token_append_inj (h : p.token.toList ++ rest = q.token.toList ++ rest') :
    p = q ∧ rest = rest' := by
  rw [token_append p] at h
  obtain ⟨hp, rfl⟩ := ofName?_of_token p.brace_not_mem_name h
  rw [String.ofList_toList, p.ofName?_name] at hp
  exact ⟨Option.some.inj hp, rfl⟩

/-- At most one token stands at a position. -/
theorem tokenAt?_eq_some_iff : tokenAt? cs = some (p, rest) ↔ cs = p.token.toList ++ rest := by
  refine ⟨tokenAt?_eq, fun h => ?_⟩
  cases ht : tokenAt? cs with
  | none =>
      have hn := List.findSome?_eq_none_iff.mp ht p p.mem_all
      rw [if_pos (List.isPrefixOf_iff_prefix.mpr ⟨rest, h.symm⟩)] at hn
      cases hn
  | some x =>
      obtain ⟨rfl, rfl⟩ := token_append_inj (h.symm.trans (tokenAt?_eq ht))
      rfl

theorem tokenAt?_eq_none_iff :
    tokenAt? cs = none ↔ ∀ (p : Placeholder) (rest : List Char), cs ≠ p.token.toList ++ rest := by
  rw [Option.eq_none_iff_forall_ne_some]
  simp only [Prod.forall, ne_eq, tokenAt?_eq_some_iff]

/-! ### From character to character -/

theorem substitute_nil (values : Bindings) : substitute values [] = [] := by
  have hn : tokenAt? [] = none := rfl
  unfold substitute
  split
  · rename_i h
    rw [hn] at h
    cases h
  · rfl

theorem substitute_token (values : Bindings) (p : Placeholder) (rest : List Char) :
    substitute values (p.token.toList ++ rest) =
      (values p).toList ++ substitute values rest := by
  have hs := tokenAt?_eq_some_iff.mpr (rfl : p.token.toList ++ rest = _)
  conv => lhs; unfold substitute
  split
  · rename_i h
    rw [hs] at h
    cases h
    rfl
  · rename_i h
    rw [hs] at h
    cases h

theorem substitute_cons {c : Char} {r : List Char} (h : tokenAt? (c :: r) = none) :
    substitute values (c :: r) = c :: substitute values r := by
  conv => lhs; unfold substitute
  split
  · rename_i h'
    rw [h] at h'
    cases h'
  · rfl

/-- Characters that are no opening braces are copied. -/
theorem substitute_append (h : '\x7b' ∉ a) :
    substitute values (a ++ rest) = a ++ substitute values rest := by
  induction a with
  | nil => rfl
  | cons c a ih =>
      rw [List.mem_cons, not_or] at h
      rw [List.cons_append, substitute_cons, ih h.2, List.cons_append]
      refine tokenAt?_eq_none_iff.mpr fun p t hp => h.1 ?_
      rw [token_append] at hp
      exact (List.cons.inj hp).1.symm

/-- Where no closing brace is left, the characters are copied. -/
theorem substitute_of_unclosed (h : '\x7d' ∉ cs) : substitute values cs = cs := by
  induction cs with
  | nil => exact substitute_nil values
  | cons c r ih =>
      rw [substitute_cons, ih fun hr => h (List.mem_cons_of_mem _ hr)]
      refine tokenAt?_eq_none_iff.mpr fun p t hp => h ?_
      rw [hp, token_append]
      simp

/-! ### From brace to brace -/

theorem fill_append (values : Bindings) (l l' : List Segment) :
    fill values (l ++ l') = fill values l ++ fill values l' := by
  induction l with
  | nil => simp [fill]
  | cons s l ih => cases s <;> simp [fill, ih, String.append_assoc]

theorem toList_fill_ofChars (values : Bindings) (cs : List Char) :
    (fill values (Segment.ofChars cs)).toList = cs := by
  cases cs <;> simp [Segment.ofChars, fill]

namespace Scan

variable {s t : Scan}

/-- A round finds an opening brace and the closing one after it.  If a placeholder's name stands
between them, the placeholder is found and the round goes on behind the closing brace; else it goes
on just behind the opening one. -/
theorem step_eq_some (h : s.step = some t) :
    ∃ before name after, '\x7b' ∉ before ∧ '\x7d' ∉ name ∧
      s.rest = before ++ '\x7b' :: (name ++ '\x7d' :: after) ∧
      ((∃ p, Placeholder.ofName? (String.ofList name) = some p ∧
          t = ⟨s.segments ++ Segment.ofChars (s.pending ++ before) ++ [.hole p],
            s.placeholders.insert p, [], after⟩) ∨
        Placeholder.ofName? (String.ofList name) = none ∧
          t = ⟨s.segments, s.placeholders, s.pending ++ before ++ ['\x7b'],
            name ++ '\x7d' :: after⟩) := by
  unfold step at h
  split at h
  · cases h
  · rename_i inner ho
    split at h
    · cases h
    · rename_i after hc
      have hrest := eq_append_of_dropWhile_ne ho
      have hinner := eq_append_of_dropWhile_ne hc
      refine ⟨_, _, after, not_mem_takeWhile_ne _ s.rest, not_mem_takeWhile_ne _ inner,
        hinner ▸ hrest, ?_⟩
      dsimp only at h
      split at h <;> cases h
      · exact .inl ⟨_, ‹_›, rfl⟩
      · exact .inr ⟨‹_›, by rw [← hinner]⟩

/-- No round is possible if no opening brace is left, or no closing one after the next. -/
theorem step_eq_none (h : s.step = none) :
    '\x7b' ∉ s.rest ∨ ∃ before inner, '\x7b' ∉ before ∧ '\x7d' ∉ inner ∧
      s.rest = before ++ '\x7b' :: inner := by
  unfold step at h
  split at h
  · exact .inl (not_mem_of_dropWhile_ne ‹_›)
  · rename_i inner ho
    split at h
    · exact .inr ⟨_, inner, not_mem_takeWhile_ne _ s.rest, not_mem_of_dropWhile_ne ‹_›,
        eq_append_of_dropWhile_ne ho⟩
    · dsimp only at h
      split at h <;> cases h

/-- What comes out of a body that is partly read: the segments found are filled, the text since the
last one is copied, and the tokens in what is left are replaced. -/
def filled (values : Bindings) (s : Scan) : List Char :=
  (fill values s.segments).toList ++ s.pending ++ substitute values s.rest

/-- A round changes nothing of what comes out. -/
theorem filled_step (h : s.step = some t) : t.filled values = s.filled values := by
  obtain ⟨before, name, after, hb, hn, hrest, ⟨p, hp, rfl⟩ | ⟨hp, rfl⟩⟩ := step_eq_some h
  · -- a token stands at the opening brace
    have htoken : '\x7b' :: (name ++ '\x7d' :: after) = p.token.toList ++ after := by
      rw [token_append, Placeholder.name_of_ofName? hp, String.toList_ofList]
    simp only [filled, hrest, substitute_append hb, htoken, substitute_token, fill_append,
      String.toList_append, toList_fill_ofChars]
    simp [fill]
  · -- none does, since what stands between the braces is no name
    have hnone : tokenAt? ('\x7b' :: (name ++ '\x7d' :: after)) = none := by
      refine tokenAt?_eq_none_iff.mpr fun p rest ht => ?_
      rw [(ofName?_of_token hn ht).1] at hp
      cases hp
    simp only [filled, hrest, substitute_append hb, substitute_cons hnone]
    simp

theorem filled_finish (h : s.step = none) :
    (fill values s.finish.segments).toList = s.filled values := by
  have hrest : substitute values s.rest = s.rest := by
    rcases step_eq_none h with hn | ⟨before, inner, hb, hi, hrest⟩
    · have hs : substitute values (s.rest ++ []) = _ := substitute_append hn
      rwa [substitute_nil, List.append_nil] at hs
    · -- a token would need a closing brace
      have hnone : tokenAt? ('\x7b' :: inner) = none := by
        refine tokenAt?_eq_none_iff.mpr fun p rest ht => hi ?_
        rw [token_append] at ht
        rw [(List.cons.inj ht).2]
        simp
      rw [hrest, substitute_append hb, substitute_cons hnone, substitute_of_unclosed hi]
  simp [finish, filled, fill_append, toList_fill_ofChars, hrest]

theorem run_of_some (h : s.step = some t) : s.run = t.run := by
  rw [run]
  split
  · rename_i h'
    rw [h] at h'
    cases h'
    rfl
  · rename_i h'
    rw [h] at h'
    cases h'

theorem run_of_none (h : s.step = none) : s.run = s.finish := by
  rw [run]
  split
  · rename_i h'
    rw [h] at h'
    cases h'
  · rfl

/-- What a run finds, filled, is what comes out of the body where the run starts. -/
theorem filled_run (values : Bindings) (s : Scan) :
    (fill values s.run.segments).toList = s.filled values := by
  -- by rounds; each of them leaves what comes out as it is
  induction s using Scan.run.induct with
  | case1 s t h ih => rw [run_of_some h, ih, filled_step h]
  | case2 s h => rw [run_of_none h, filled_finish h]

end Scan

/-- **Filling a body is one pass from left to right.**  Whatever braces the body and the values
hold, the body that is read from brace to brace and then filled is the one in which, from left to
right, each token is replaced by its value and any other character is copied; the values are not
searched. -/
theorem render_eq_substitute (content : String) (values : Bindings) :
    render content values = String.ofList (substitute values content.toList) := by
  have hrun := Scan.filled_run values (Scan.start content.toList)
  refine String.toList_injective ?_
  rw [render, parse, hrun, String.toList_ofList]
  simp [Scan.filled, Scan.start, fill]

/-- The five tokens as they stand in a body, and a name in braces that is none. -/
example :
    render ("\x7bAccessor\x7d class \x7bClassName\x7d<\x7bCollectionType\x7d> " ++
        "in \x7bNamespace\x7d \x7b \x7bBackingField\x7d; \x7bclassname\x7d \x7d")
      (fun p => p.name.toLower) =
    "accessor class classname<collectiontype> in namespace \x7b backingfield; " ++
      "\x7bclassname\x7d \x7d" := by
  decide +kernel

end Companion
