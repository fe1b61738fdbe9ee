import Companion.Proofs.Templates.Segments
import Companion.Template.Offsets

/-!
# Templates — reading by offsets

Reading can be told by offsets into the bytes of a body.  Whatever characters the body holds, the
rounds by offsets are those of reading by characters: all that they take can be taken, and they come
to an end after as many rounds as there are opening braces, or before.

* `cuts_scanl` and `slice?_of_eq`: a text can be cut where a part of it ends, and what is taken
  between two such offsets is what stands there.
* `Scan.offsets`: a body that is partly read, told by offsets.
* `Scan.Reads.exists_shows`: the round by offsets that starts where a round starts.
* `Scan.after?_offsets`: the states of both ways to read, round by round.
* `reading_by_offsets`: so for all rounds over a body.
-/

namespace Companion

/-! ### What stands between offsets -/

/-- How many bytes the characters take. -/
def bytes (cs : List Char) : Nat := (String.ofList cs).utf8ByteSize

@[simp] theorem bytes_nil : bytes [] = 0 := rfl

@[simp] theorem bytes_cons (c : Char) (cs : List Char) :
    bytes (c :: cs) = c.utf8Size + bytes cs := by
  rw [bytes, String.ofList_cons, String.utf8ByteSize_append, String.utf8ByteSize_singleton, bytes]

@[simp] theorem bytes_append (a c : List Char) : bytes (a ++ c) = bytes a + bytes c := by
  rw [bytes, String.ofList_append, String.utf8ByteSize_append, bytes, bytes]

theorem utf8Size_open : '\x7b'.utf8Size = 1 := rfl

theorem utf8Size_close : '\x7d'.utf8Size = 1 := rfl

section Text

variable {text : String} {front part back : List Char} {parts : List (List Char)} {c : Char}
  {i j : Nat}

theorem isValid_of_eq (h : text.toList = front ++ back) :
    String.Pos.Raw.IsValid text ⟨bytes front⟩ := by
  refine String.Pos.Raw.isValid_iff_exists_append.mpr ⟨.ofList front, .ofList back, ?_, rfl⟩
  rw [← String.ofList_append, ← h, String.ofList_toList]

theorem le_of_mem_scanl (h : j ∈ parts.scanl (fun k part => k + bytes part) i) : i ≤ j := by
  induction parts generalizing i with
  | nil =>
      rw [List.scanl_nil, List.mem_singleton] at h
      exact Nat.le_of_eq h.symm
  | cons part parts ih =>
      rw [List.scanl_cons] at h
      rcases List.mem_cons.mp h with rfl | h
      · exact Nat.le_refl j
      · exact Nat.le_trans (Nat.le_add_right _ _) (ih h)

/-- A text can be cut wherever one of its parts ends. -/
theorem cuts_scanl (h : text.toList = front ++ (parts.flatten ++ back)) :
    Cuts text (parts.scanl (fun k part => k + bytes part) (bytes front)) := by
  induction parts generalizing front with
  | nil =>
      rw [List.scanl_nil]
      refine ⟨List.pairwise_singleton _ _, fun j hj => ?_⟩
      rw [List.mem_singleton.mp hj]
      exact isValid_of_eq h
  | cons part parts ih =>
      have hnext : text.toList = (front ++ part) ++ (parts.flatten ++ back) := by simpa using h
      obtain ⟨hsorted, hvalid⟩ := ih hnext
      rw [bytes_append] at hsorted hvalid
      rw [List.scanl_cons]
      refine ⟨List.pairwise_cons.mpr ⟨fun j hj => ?_, hsorted⟩, fun j hj => ?_⟩
      · exact Nat.le_trans (Nat.le_add_right _ _) (le_of_mem_scanl hj)
      · rcases List.mem_cons.mp hj with rfl | hj
        · exact isValid_of_eq h
        · exact hvalid j hj

/-- What is taken between two offsets. -/
theorem slice?_of_eq (h : text.toList = front ++ (part ++ back)) (hi : i = bytes front)
    (hj : j = i + bytes part) : slice? text i j = some (String.ofList part) := by
  subst hi hj
  have hparts : text.toList = front ++ ([part].flatten ++ back) := by simpa using h
  have hcuts : Cuts text [bytes front, bytes front + bytes part] := by
    simpa using cuts_scanl hparts
  have htext : text.toByteArray =
      (String.ofList front ++ String.ofList part).toByteArray ++
        (String.ofList back).toByteArray := by
    rw [← String.toByteArray_append, ← String.ofList_append, ← String.ofList_append,
      List.append_assoc, ← h, String.ofList_toList]
  have hsize : (String.ofList front ++ String.ofList part).toByteArray.size =
      bytes front + bytes part := by
    rw [String.size_toByteArray, String.utf8ByteSize_append, bytes, bytes]
  rw [slice?, dif_pos hcuts, Option.some.injEq, ← String.toByteArray_inj,
    String.toByteArray_extract, htext]
  dsimp only
  rw [← hsize, ByteArray.extract_append_size_left, String.toByteArray_append]
  exact ByteArray.extract_append_eq_right String.size_toByteArray.symm ByteArray.size_append

theorem utf8ByteSize_of_eq (h : text.toList = front) : text.utf8ByteSize = bytes front := by
  rw [bytes, ← h, String.ofList_toList]

theorem behind?_of_eq (h : text.toList = front ++ part) (hi : i = bytes front) :
    behind? text i = some (String.ofList part) := by
  have htext : text.toList = front ++ (part ++ []) := by rw [h, List.append_nil]
  refine slice?_of_eq htext hi ?_
  rw [utf8ByteSize_of_eq h, bytes_append, hi]

theorem firstAt?_ofList (h : c ∉ front) (back : List Char) :
    firstAt? c (String.ofList (front ++ c :: back)) = some (bytes front) := by
  refine firstAt?_eq_some_iff.mpr ⟨.ofList front, .ofList back, ?_, by simpa using h, rfl⟩
  rw [String.ofList_append, String.ofList_cons, String.append_assoc]

theorem firstAt?_ofList_of_not_mem (h : c ∉ part) : firstAt? c (String.ofList part) = none :=
  firstAt?_eq_none_iff.mpr (by rwa [String.toList_ofList])

theorem segments?_of_eq (h : text.toList = front ++ (part ++ back)) (hi : i = bytes front)
    (hj : j = i + bytes part) : segments? text i j = some (Segment.ofChars part) := by
  cases part with
  | nil =>
      rw [segments?, if_neg (by rw [hj]; exact Nat.lt_irrefl i)]
      rfl
  | cons c part =>
      have hc := c.utf8Size_pos
      have hlt : i < j := by
        rw [hj, bytes_cons]
        omega
      rw [segments?, if_pos hlt, slice?_of_eq h hi hj]
      rfl

end Text

theorem bytes_token {name : List Char} {p : Placeholder}
    (h : Placeholder.ofName? (String.ofList name) = some p) :
    bytes p.token.toList = 1 + bytes name + 1 := by
  rw [← List.append_nil p.token.toList, token_append, Placeholder.name_of_ofName? h,
    String.toList_ofList, bytes_cons, bytes_append, bytes_cons, bytes_nil, utf8Size_open,
    utf8Size_close, Nat.add_assoc]

/-! ### Rounds -/

namespace Offsets

variable {content : String} {s t : Offsets} {turn : Turn} {opening length : Nat}

theorem run?_of_next (h : s.round? content = some (.next opening length t)) :
    s.run? content = t.run? content := by
  rw [run?]
  split <;> rename_i h' <;> rw [h] at h' <;> cases h'
  rfl

theorem run?_of_last (h : s.round? content = some turn) (hn : turn.next? = none) :
    s.run? content = s.finish? content := by
  rw [run?]
  split <;> rename_i h' <;> rw [h] at h'
  · cases h'
  · cases h'
    cases hn

end Offsets

namespace Scan

variable {x y : Scan} {content : String} {before inner name after : List Char} {p : Placeholder}

/-- What is read and what is left make up the body. -/
def Reads (x : Scan) (content : String) : Prop :=
  content.toList = (unparse x.segments).toList ++ (x.pending ++ x.rest)

/-- How far the body is read, in bytes. -/
def offsets (x : Scan) : Offsets where
  segments := x.segments
  placeholders := x.placeholders
  textStart := bytes (unparse x.segments).toList
  cursor := bytes ((unparse x.segments).toList ++ x.pending)

/-- The opening braces that are read. -/
def braces (x : Scan) : Nat := ((unparse x.segments).toList ++ x.pending).count '\x7b'

theorem reads_start (content : String) : (start content.toList).Reads content := rfl

theorem filled_token (x : Scan) :
    x.filled Placeholder.token = (unparse x.segments).toList ++ (x.pending ++ x.rest) := by
  rw [filled, fill_token, substitute_self, List.append_assoc]

/-- A round neither loses nor doubles a character. -/
theorem Reads.step (h : x.Reads content) (hs : x.step = some y) : y.Reads content := by
  rw [Reads, ← filled_token, filled_step hs, filled_token]
  exact h

theorem toList_unparse_filled (x : Scan) (before : List Char) (p : Placeholder) :
    (unparse (x.segments ++ Segment.ofChars (x.pending ++ before) ++ [.hole p])).toList =
      (unparse x.segments).toList ++ (x.pending ++ before) ++ p.token.toList := by
  rw [← fill_token, fill_append, fill_append, String.toList_append, String.toList_append,
    toList_fill_ofChars, fill_token, fill_token]
  simp [unparse, Segment.source]

theorem offsets_filled (x : Scan) (before after : List Char) (p : Placeholder) :
    offsets ⟨x.segments ++ Segment.ofChars (x.pending ++ before) ++ [.hole p],
        x.placeholders.insert p, [], after⟩ =
      ⟨x.segments ++ Segment.ofChars (x.pending ++ before) ++ [.hole p],
        x.placeholders.insert p,
        x.offsets.cursor + bytes before + bytes p.token.toList,
        x.offsets.cursor + bytes before + bytes p.token.toList⟩ := by
  simp only [offsets, toList_unparse_filled, bytes_append, bytes_nil, Nat.add_zero, Nat.add_assoc]

/-- A round reads one opening brace. -/
theorem braces_step (h : x.step = some y) : y.braces = x.braces + 1 := by
  obtain ⟨before, name, after, hb, hn, hrest, ⟨p, hp, rfl⟩ | ⟨hp, rfl⟩⟩ := step_eq_some h
  · have htoken : p.token.toList.count '\x7b' = 1 := by cases p <;> decide
    simp only [braces, toList_unparse_filled, List.count_append, htoken,
      List.count_eq_zero.mpr hb]
    rfl
  · simp only [braces, List.count_append, List.count_eq_zero.mpr hb]
    rfl

/-- The opening braces of the body are those that are read and those that are left. -/
theorem Reads.count (h : x.Reads content) :
    content.toList.count '\x7b' = x.braces + x.rest.count '\x7b' := by
  rw [h, ← List.append_assoc, List.count_append, braces]

/-- What the round by offsets is that starts where a round starts. -/
structure Shows (x : Scan) (content : String) (turn : Turn) : Prop where
  /-- All that it takes can be taken. -/
  round : x.offsets.round? content = some turn
  /-- It goes on if the round does, and where the round does. -/
  next : turn.next? = x.step.map offsets
  /-- If it finds an opening brace, one is left. -/
  opening : turn ≠ .ended → '\x7b' ∈ x.rest
  /-- The body can be cut at all offsets of the round. -/
  cuts : Cuts content
    (x.offsets.textStart :: x.offsets.cursor :: (turn.bounds ++ [content.utf8ByteSize]))

/-- The body can be cut where a part of what is left ends. -/
theorem Reads.cuts (h : x.Reads content) (parts : List (List Char))
    (hrest : x.rest = parts.flatten) :
    Cuts content (x.offsets.textStart ::
      parts.scanl (fun i part => i + bytes part) x.offsets.cursor) := by
  have hcontent : content.toList =
      (unparse x.segments).toList ++ ((x.pending :: parts).flatten ++ []) := by
    rw [h, hrest, List.flatten_cons, List.append_nil]
  have hcuts := cuts_scanl hcontent
  rwa [List.scanl_cons, ← bytes_append] at hcuts

theorem Reads.size (h : x.Reads content) :
    content.utf8ByteSize = x.offsets.cursor + bytes x.rest := by
  rw [utf8ByteSize_of_eq h, ← List.append_assoc, bytes_append, offsets]

theorem Reads.behind?_cursor (h : x.Reads content) :
    behind? content x.offsets.cursor = some (String.ofList x.rest) :=
  behind?_of_eq (by rw [h, List.append_assoc]) rfl

/-- The body is cut behind the next opening brace. -/
theorem Reads.exists_front (h : x.Reads content) (hrest : x.rest = before ++ '\x7b' :: inner) :
    ∃ front, content.toList = front ++ inner ∧
      x.offsets.cursor + bytes before + 1 = bytes front := by
  refine ⟨(unparse x.segments).toList ++ x.pending ++ before ++ ['\x7b'], ?_, ?_⟩
  · rw [h, hrest]
    simp
  · simp only [offsets, bytes_append, bytes_cons, bytes_nil, utf8Size_open]

theorem Reads.shows_ended (h : x.Reads content) (hrest : '\x7b' ∉ x.rest)
    (hs : x.step = none) : x.Shows content .ended where
  round := by
    simp only [Offsets.round?, h.behind?_cursor, Option.bind_eq_bind, Option.bind_some,
      firstAt?_ofList_of_not_mem hrest, Option.pure_def]
  next := by
    rw [hs]
    rfl
  opening hne := absurd rfl hne
  cuts := by
    have hcuts := h.cuts [x.rest] (by simp)
    simpa [h.size, Turn.bounds] using hcuts

theorem Reads.shows_unclosed (h : x.Reads content) (hrest : x.rest = before ++ '\x7b' :: inner)
    (hb : '\x7b' ∉ before) (hi : '\x7d' ∉ inner) (hs : x.step = none) :
    x.Shows content (.unclosed (x.offsets.cursor + bytes before)) where
  round := by
    obtain ⟨front, hcontent, hfront⟩ := h.exists_front hrest
    simp only [Offsets.round?, h.behind?_cursor, hrest, Option.bind_eq_bind, Option.bind_some,
      firstAt?_ofList hb, behind?_of_eq hcontent hfront, firstAt?_ofList_of_not_mem hi,
      Option.pure_def]
  next := by
    rw [hs]
    rfl
  opening _ := by simp [hrest]
  cuts := by
    have hcuts := h.cuts [before, ['\x7b'], inner] (by simpa using hrest)
    simpa [h.size, hrest, Turn.bounds, utf8Size_open, Nat.add_assoc] using hcuts

theorem Reads.shows_next (h : x.Reads content) (hs : x.step = some y) :
    ∃ opening length, x.Shows content (.next opening length y.offsets) := by
  obtain ⟨before, name, after, hb, hn, hrest, hy⟩ := step_eq_some hs
  obtain ⟨front, hcontent, hfront⟩ := h.exists_front hrest
  have hname : slice? content (x.offsets.cursor + bytes before + 1)
      (x.offsets.cursor + bytes before + 1 + bytes name) = some (String.ofList name) :=
    slice?_of_eq hcontent hfront rfl
  refine ⟨x.offsets.cursor + bytes before, bytes name, ?_, by rw [hs]; rfl,
    fun _ => by simp [hrest], ?_⟩
  · simp only [Offsets.round?, h.behind?_cursor, hrest, Option.bind_eq_bind, Option.bind_some,
      firstAt?_ofList hb, behind?_of_eq hcontent hfront, firstAt?_ofList hn, hname,
      Option.pure_def]
    rcases hy with ⟨p, hp, rfl⟩ | ⟨hp, rfl⟩
    · have hpending : content.toList = (unparse x.segments).toList ++
          ((x.pending ++ before) ++ '\x7b' :: (name ++ '\x7d' :: after)) := by
        rw [h, hrest, List.append_assoc]
      have htext : segments? content x.offsets.textStart (x.offsets.cursor + bytes before) =
          some (Segment.ofChars (x.pending ++ before)) := by
        refine segments?_of_eq hpending rfl ?_
        simp only [offsets, bytes_append, Nat.add_assoc]
      simp only [hp, htext, Option.bind_some, offsets_filled, bytes_token hp, ← Nat.add_assoc]
      rfl
    · simp [hp, offsets, utf8Size_open, Nat.add_assoc]
  · have hcuts := h.cuts [before, ['\x7b'], name, ['\x7d'], after] (by simpa using hrest)
    simpa [h.size, hrest, Turn.bounds, utf8Size_open, utf8Size_close, Nat.add_assoc] using hcuts

theorem Reads.exists_shows (h : x.Reads content) : ∃ turn, x.Shows content turn := by
  cases hs : x.step with
  | some y =>
      obtain ⟨opening, length, hshows⟩ := h.shows_next hs
      exact ⟨_, hshows⟩
  | none =>
      rcases step_eq_none hs with hrest | ⟨before, inner, hb, hi, hrest⟩
      · exact ⟨_, h.shows_ended hrest hs⟩
      · exact ⟨_, h.shows_unclosed hrest hb hi hs⟩

/-- A round by offsets goes on where a round goes on. -/
theorem Reads.step?_offsets (h : x.Reads content) :
    x.offsets.step? content = x.step.map offsets := by
  obtain ⟨turn, hshows⟩ := h.exists_shows
  rw [Offsets.step?, hshows.round, Option.bind_some, hshows.next]

theorem Reads.finish?_offsets (h : x.Reads content) :
    x.offsets.finish? content = some x.finish := by
  have hpending : content.toList =
      (unparse x.segments).toList ++ ((x.pending ++ x.rest) ++ []) := by rw [h, List.append_nil]
  have htext : segments? content x.offsets.textStart content.utf8ByteSize =
      some (Segment.ofChars (x.pending ++ x.rest)) := by
    refine segments?_of_eq hpending rfl ?_
    rw [h.size, offsets, bytes_append, bytes_append, Nat.add_assoc]
  rw [Offsets.finish?, htext, Option.map_some]
  rfl

/-- The rounds by offsets find what the rounds find. -/
theorem Reads.run?_offsets (h : x.Reads content) : x.offsets.run? content = some x.run := by
  -- by rounds, each of which is one by offsets
  induction x using Scan.run.induct with
  | case1 x y hs ih =>
      obtain ⟨opening, length, hshows⟩ := h.shows_next hs
      rw [run_of_some hs, ← ih (h.step hs), Offsets.run?_of_next hshows.round]
  | case2 x hs =>
      obtain ⟨turn, hshows⟩ := h.exists_shows
      have hlast : turn.next? = none := by rw [hshows.next, hs, Option.map_none]
      rw [run_of_none hs, ← h.finish?_offsets, Offsets.run?_of_last hshows.round hlast]

end Scan

/-! ### All rounds -/

/-- Where `n` steps lead. -/
def after? {σ : Type} (step : σ → Option σ) (s : σ) : Nat → Option σ
  | 0 => some s
  | n + 1 => (after? step s n).bind step

namespace Scan

variable {x : Scan} {content : String} {n : Nat}

/-- After `n` rounds, `n` opening braces are read. -/
theorem reads_after? (h : after? step (start content.toList) n = some x) :
    x.Reads content ∧ x.braces = n := by
  induction n generalizing x with
  | zero =>
      cases h
      exact ⟨rfl, rfl⟩
  | succ n ih =>
      obtain ⟨y, hy, hs⟩ := Option.bind_eq_some_iff.mp h
      obtain ⟨hreads, hbraces⟩ := ih hy
      exact ⟨hreads.step hs, by rw [braces_step hs, hbraces]⟩

/-- The states of reading by offsets are those of reading, in bytes. -/
theorem after?_offsets (content : String) (n : Nat) :
    after? (Offsets.step? content) .start n =
      (after? step (start content.toList) n).map offsets := by
  induction n with
  | zero => rfl
  | succ n ih =>
      rw [after?, ih, after?]
      cases h : after? step (start content.toList) n with
      | none => rfl
      | some x => exact (reads_after? h).1.step?_offsets

/-- Rounds come to an end, at what a run finds. -/
theorem exists_last {a : Scan} (h : after? step a n = some x) :
    ∃ m z, after? step a m = some z ∧ z.step = none ∧ z.finish = x.run := by
  induction x using Scan.run.induct generalizing n with
  | case1 x y hs ih =>
      rw [run_of_some hs]
      exact ih (n := n + 1) (by rw [after?, h, Option.bind_some, hs])
  | case2 x hs => exact ⟨n, x, h, hs, (run_of_none hs).symm⟩

end Scan

/-- What holds where the round after `n` rounds starts. -/
structure Offsets.Safe (content : String) (n : Nat) (s : Offsets) (turn : Turn) : Prop where
  /-- All that the round takes can be taken. -/
  round : s.round? content = some turn
  /-- The offsets of the round are in order, within the body and between its characters. -/
  cuts : Cuts content (s.textStart :: s.cursor :: (turn.bounds ++ [content.utf8ByteSize]))
  /-- The segments found are those of the body before the text since the last placeholder. -/
  found : slice? content 0 s.textStart = some (unparse s.segments)
  /-- There are as many opening braces before the cursor as rounds. -/
  passed : ∃ read, slice? content 0 s.cursor = some read ∧ read.toList.count '\x7b' = n
  /-- A round that finds an opening brace finds one that no round has found. -/
  further : turn ≠ .ended → n < content.toList.count '\x7b'
  /-- A round that goes on moves the cursor forward. -/
  onward : ∀ t, turn.next? = some t → s.cursor < t.cursor

theorem Scan.safe_offsets {x : Scan} {content : String} {n : Nat}
    (h : after? Scan.step (.start content.toList) n = some x) :
    ∃ turn, x.offsets.Safe content n turn := by
  obtain ⟨hreads, hbraces⟩ := reads_after? h
  obtain ⟨turn, hshows⟩ := hreads.exists_shows
  have hcontent : content.toList =
      [] ++ (((unparse x.segments).toList ++ x.pending) ++ x.rest) := by
    rw [hreads, List.nil_append, List.append_assoc]
  have hread : slice? content 0 x.offsets.cursor =
      some (String.ofList ((unparse x.segments).toList ++ x.pending)) :=
    slice?_of_eq hcontent rfl (Nat.zero_add _).symm
  have hsegments : content.toList =
      [] ++ ((unparse x.segments).toList ++ (x.pending ++ x.rest)) := hreads
  have hfound : slice? content 0 x.offsets.textStart =
      some (String.ofList (unparse x.segments).toList) :=
    slice?_of_eq hsegments rfl (Nat.zero_add _).symm
  rw [String.ofList_toList] at hfound
  refine ⟨turn, hshows.round, hshows.cuts, hfound, ⟨_, hread, ?_⟩, fun hne => ?_, fun t ht => ?_⟩
  · rw [String.toList_ofList]
    exact hbraces
  · have hrest : 0 < x.rest.count '\x7b' := List.count_pos_iff.mpr (hshows.opening hne)
    rw [hreads.count, hbraces]
    exact Nat.lt_add_of_pos_right hrest
  · cases turn with
    | ended | unclosed opening => cases ht
    | next opening length t' =>
        cases ht
        exact (Offsets.cursor_round? hshows.round).1

/-- **Reading by offsets is safe.**  Whatever characters and braces a body holds, the states that
reading it by offsets goes through are, in bytes, those of reading it by characters.  In each of
them the next round finds all that it takes: the offsets from the start of the pending text over the
cursor and the braces to the end are in order, within the body and between its characters.  The
segments found are those of the body before the pending text; before the cursor there are as many
opening braces as rounds were made; and a round that goes on moves the cursor forward.  So the
rounds come to an end, after no more of them than the body has opening braces, and what is found
then is what is read from the body. -/
theorem reading_by_offsets (content : String) :
    (∀ n, after? (Offsets.step? content) .start n =
      (after? Scan.step (.start content.toList) n).map Scan.offsets) ∧
    (∀ n s, after? (Offsets.step? content) .start n = some s →
      ∃ turn, s.Safe content n turn) ∧
    (∃ n s turn, n ≤ content.toList.count '\x7b' ∧
      after? (Offsets.step? content) .start n = some s ∧
      s.Safe content n turn ∧ turn.next? = none ∧
      s.finish? content = some (parse content)) ∧
    Offsets.start.run? content = some (parse content) := by
  have hstates := Scan.after?_offsets content
  refine ⟨hstates, fun n s hs => ?_, ?_, ?_⟩
  · rw [hstates] at hs
    obtain ⟨x, hx, rfl⟩ := Option.map_eq_some_iff.mp hs
    exact Scan.safe_offsets hx
  · obtain ⟨n, z, hz, hlast, hfinish⟩ := Scan.exists_last (n := 0) (a := .start content.toList) rfl
    obtain ⟨turn, hsafe⟩ := Scan.safe_offsets hz
    obtain ⟨hreads, hbraces⟩ := Scan.reads_after? hz
    refine ⟨n, z.offsets, turn, ?_, ?_, hsafe, ?_, ?_⟩
    · rw [hreads.count, hbraces]
      exact Nat.le_add_right _ _
    · rw [hstates, hz, Option.map_some]
    · have hstep := hreads.step?_offsets
      rw [hlast, Offsets.step?, hsafe.round] at hstep
      exact hstep
    · rw [hreads.finish?_offsets, hfinish]
      rfl
  · exact (Scan.reads_start content).run?_offsets

/-- The theorem at a body with braces that hold no placeholder's name, or are not closed, among
characters of two bytes. -/
theorem reading_by_offsets_umlauts :
    let content := "ä\x7bö\x7d\x7bNamespace\x7d\x7bü"
    let found : List Segment := [.text "ä\x7bö\x7d", .hole .namespace]
    let holes := PlaceholderSet.empty.insert .namespace
    after? (Offsets.step? content) .start 2 = some ⟨found, holes, 17, 17⟩ ∧
      (∃ turn, Offsets.Safe content 2 ⟨found, holes, 17, 17⟩ turn) ∧
      Offsets.start.run? content = some ⟨found ++ [.text "\x7bü"], holes⟩ := by
  intro content found holes
  obtain ⟨hstates, hsafe, -, hrun⟩ := reading_by_offsets content
  have hparse : parse content = ⟨found ++ [.text "\x7bü"], holes⟩ := by decide +kernel
  have hafter : after? (Offsets.step? content) .start 2 = some ⟨found, holes, 17, 17⟩ := by
    rw [hstates]
    decide +kernel
  exact ⟨hafter, hsafe 2 _ hafter, hrun.trans (congrArg some hparse)⟩

end Companion
