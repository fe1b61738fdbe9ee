import Companion.Template.Segment

/-!
# Template — reading by offsets

A body that is kept in bytes is read by *offsets* into it.  A round takes what stands behind the
cursor, looks for a brace there, and adds the brace's offset to the cursor.  What stands between two
offsets can be taken only if the offsets are in order and neither is behind the end of the body or
within a character; else reading fails.

* `Cuts` says which offsets a text can be cut at, `slice?` takes what stands between two of them,
  and `firstAt?` says where a character stands first.
* `Offsets.round?` is one round, `Offsets.run?` the rounds to the end.
-/

namespace Companion

/-- The offsets are in order, and each is within the text, and not within a character. -/
def Cuts (text : String) (offsets : List Nat) : Prop :=
  offsets.Pairwise (· ≤ ·) ∧ ∀ i ∈ offsets, String.Pos.Raw.IsValid text ⟨i⟩

instance (text : String) (offsets : List Nat) : Decidable (Cuts text offsets) :=
  inferInstanceAs (Decidable (_ ∧ _))

/-- What stands between two offsets, if the text can be cut at them. -/
def slice? (text : String) (start stop : Nat) : Option String :=
  if h : Cuts text [start, stop] then
    some (text.extract ⟨⟨start⟩, h.2 start (by simp)⟩ ⟨⟨stop⟩, h.2 stop (by simp)⟩)
  else none

/-- What stands behind an offset. -/
def behind? (text : String) (start : Nat) : Option String := slice? text start text.utf8ByteSize

/-- The offset at which the character stands first. -/
def firstAt? (c : Char) (text : String) : Option Nat := (text.find? c).map (·.offset.byteIdx)

/-- What stands between two offsets, as segments: none if the first is not before the second. -/
def segments? (text : String) (start stop : Nat) : Option (List Segment) :=
  if start < stop then (slice? text start stop).map fun t => [.text t] else some []

/-- A body that is partly read: the segments and the placeholders found, where the text since the
last placeholder begins, and where the next brace is searched. -/
structure Offsets where
  /-- The segments found so far. -/
  segments : List Segment
  /-- The placeholders found so far. -/
  placeholders : PlaceholderSet
  /-- Where the text since the last placeholder begins. -/
  textStart : Nat
  /-- Where the search for braces goes on. -/
  cursor : Nat
  deriving DecidableEq, Repr

/-- How a round ends, with what it finds. -/
inductive Turn where
  /-- No opening brace is left. -/
  | ended
  /-- There is an opening brace at this offset, but no closing one after it. -/
  | unclosed (opening : Nat)
  /-- There is an opening brace at this offset and, so many bytes behind it, a closing one; reading
  goes on. -/
  | next (opening length : Nat) (t : Offsets)
  deriving DecidableEq, Repr

namespace Turn

/-- Where reading goes on. -/
def next? : Turn → Option Offsets
  | .next _ _ t => some t
  | _ => none

/-- The offsets before and behind the braces that are found. -/
def bounds : Turn → List Nat
  | .ended => []
  | .unclosed opening => [opening, opening + 1]
  | .next opening length _ =>
    [opening, opening + 1, opening + 1 + length, opening + 1 + length + 1]

end Turn

/-! ### What is taken and found -/

section Text

variable {text t : String} {c : Char} {i start stop : Nat}

/-- What is taken has as many bytes as there are between the offsets. -/
theorem size_slice? (h : slice? text start stop = some t) :
    start + t.utf8ByteSize = stop ∧ stop ≤ text.utf8ByteSize := by
  unfold slice? at h
  split at h
  · rename_i hc
    have hle : start ≤ stop := by simpa using hc.1
    have hstop : stop ≤ text.utf8ByteSize := (hc.2 stop (by simp)).le_utf8ByteSize
    cases h
    simp only [← String.size_toByteArray, String.toByteArray_extract, ByteArray.size_extract]
    simp only [String.size_toByteArray]
    omega
  · cases h

theorem size_behind? (h : behind? text start = some t) :
    start + t.utf8ByteSize = text.utf8ByteSize := (size_slice? h).1

theorem firstAt?_eq_some_iff : firstAt? c text = some i ↔
    ∃ before after, text = before ++ String.singleton c ++ after ∧ c ∉ before.toList ∧
      i = before.utf8ByteSize := by
  simp only [firstAt?, Option.map_eq_some_iff, String.find?_char_eq_some_iff_splits]
  constructor
  · rintro ⟨pos, ⟨before, after, hs, hc⟩, rfl⟩
    refine ⟨before, after, ?_, hc, ?_⟩
    · rw [hs.eq_append, String.append_assoc]
    · rw [hs.offset_eq_rawEndPos, String.byteIdx_rawEndPos]
  · rintro ⟨before, after, h, hc, rfl⟩
    rw [String.append_assoc] at h
    have hvalid : String.Pos.Raw.IsValid text ⟨before.utf8ByteSize⟩ :=
      String.Pos.Raw.isValid_iff_exists_append.mpr ⟨before, _, h, rfl⟩
    exact ⟨⟨_, hvalid⟩, ⟨before, after, ⟨h, rfl⟩, hc⟩, rfl⟩

theorem firstAt?_eq_none_iff : firstAt? c text = none ↔ c ∉ text.toList := by
  rw [firstAt?, Option.map_eq_none_iff, String.find?, Option.map_eq_none_iff,
    String.Slice.find?_eq_none_iff, String.Slice.contains_char_eq, String.copy_toSlice,
    decide_eq_false_iff_not]

theorem firstAt?_lt (h : firstAt? c text = some i) : i < text.utf8ByteSize := by
  obtain ⟨before, after, rfl, -, rfl⟩ := firstAt?_eq_some_iff.mp h
  have hc := c.utf8Size_pos
  simp only [String.utf8ByteSize_append, String.utf8ByteSize_singleton]
  omega

end Text

/-! ### Rounds -/

namespace Offsets

/-- Nothing read yet. -/
def start : Offsets := ⟨[], .empty, 0, 0⟩

/-- One round: the next opening brace and the closing brace after it.  It fails if the body cannot
be cut where the round takes a part of it. -/
def round? (content : String) (s : Offsets) : Option Turn := do
  match firstAt? '\x7b' (← behind? content s.cursor) with
  | none => return .ended
  | some before =>
    let opening := s.cursor + before
    let nameStart := opening + 1
    match firstAt? '\x7d' (← behind? content nameStart) with
    | none => return .unclosed opening
    | some length =>
      match Placeholder.ofName? (← slice? content nameStart (nameStart + length)) with
      | some p =>
        let text ← segments? content s.textStart opening
        let stop := nameStart + length + 1
        return .next opening length
          ⟨s.segments ++ text ++ [.hole p], s.placeholders.insert p, stop, stop⟩
      | none => return .next opening length { s with cursor := nameStart }

/-- What is left when no round goes on is text. -/
def finish? (content : String) (s : Offsets) : Option Body :=
  (segments? content s.textStart content.utf8ByteSize).map fun text =>
    ⟨s.segments ++ text, s.placeholders⟩

/-- Where the next round starts. -/
def step? (content : String) (s : Offsets) : Option Offsets := (s.round? content).bind Turn.next?

/-- A round that goes on moves the cursor forward, and not behind the end. -/
theorem cursor_round? {content : String} {s t : Offsets} {opening length : Nat}
    (h : s.round? content = some (.next opening length t)) :
    s.cursor < t.cursor ∧ t.cursor ≤ content.utf8ByteSize := by
  simp only [round?, Option.bind_eq_bind, Option.bind_eq_some_iff] at h
  obtain ⟨ahead, hahead, h⟩ := h
  split at h
  · cases h
  · rename_i before hbefore
    obtain ⟨inner, hinner, h⟩ := Option.bind_eq_some_iff.mp h
    have hopening : before < ahead.utf8ByteSize := firstAt?_lt hbefore
    have hcursor := size_behind? hahead
    have hstart := size_behind? hinner
    split at h
    · cases h
    · rename_i len hlen
      have hclosing : len < inner.utf8ByteSize := firstAt?_lt hlen
      obtain ⟨name, hname, h⟩ := Option.bind_eq_some_iff.mp h
      split at h
      · obtain ⟨text, htext, h⟩ := Option.bind_eq_some_iff.mp h
        cases h
        dsimp only
        omega
      · cases h
        dsimp only
        omega

/-- Rounds until one does not go on. -/
def run? (content : String) (s : Offsets) : Option Body :=
  match _h : s.round? content with
  | none => none
  | some (.next _ _ t) => t.run? content
  | some .ended => s.finish? content
  | some (.unclosed _) => s.finish? content
termination_by content.utf8ByteSize - s.cursor
decreasing_by
  have hcursor := cursor_round? _h
  omega

end Offsets

end Companion
