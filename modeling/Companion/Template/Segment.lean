import Companion.Template.Placeholder

/-!
# Template — segments

A template body is read as a list of *segments*: text to copy and placeholders to fill.  Reading
goes from brace to brace.  It looks for an opening brace and the closing brace after it; if a
placeholder's name stands between them, the text before it and the placeholder are segments, the
placeholder is put to those found, and reading goes on behind the closing brace.  Otherwise the
opening brace is text, and reading goes on just behind it.  Without a closing brace all that is left
is text.

* `Scan.step` is one such round, `Scan.run` the rounds to the end, `parse` a run over a whole text.
* `Body` is what is read: the segments, and the set of placeholders that the rounds found.
* `unparse` writes segments back, a placeholder as its token.
* `Normal` is the form that reading gives: no empty text, no two texts side by side, no token inside
  a text.
-/

namespace Companion

/-- A piece of a template body. -/
inductive Segment where
  /-- Text that is copied. -/
  | text (s : String)
  /-- A placeholder that is filled. -/
  | hole (p : Placeholder)
  deriving DecidableEq, Repr, Inhabited

namespace Segment

/-- The text of a segment in a template: a placeholder is written as its token. -/
def source : Segment → String
  | .text s => s
  | .hole p => p.token

/-- The text of some characters as segments: none for no characters. -/
def ofChars (cs : List Char) : List Segment :=
  if cs.isEmpty then [] else [.text (String.ofList cs)]

end Segment

/-- The text that the segments were read from. -/
def unparse : List Segment → String
  | [] => ""
  | s :: r => s.source ++ unparse r

/-- A template body that is read. -/
structure Body where
  /-- The segments. -/
  segments : List Segment
  /-- The placeholders that were found. -/
  placeholders : PlaceholderSet
  deriving DecidableEq, Repr

/-- A body that is partly read: the segments and the placeholders found, the text since the last
placeholder, and the characters that are still to be searched for braces. -/
structure Scan where
  /-- The segments found so far. -/
  segments : List Segment
  /-- The placeholders found so far. -/
  placeholders : PlaceholderSet
  /-- The text since the last placeholder. -/
  pending : List Char
  /-- The characters not yet searched. -/
  rest : List Char
  deriving DecidableEq, Repr

namespace Scan

/-- Nothing read yet. -/
def start (content : List Char) : Scan := ⟨[], .empty, [], content⟩

/-- One round: the next opening brace and the closing brace after it. -/
def step (s : Scan) : Option Scan :=
  match s.rest.dropWhile (· != '\x7b') with
  | [] => none
  | _ :: inner =>
    match inner.dropWhile (· != '\x7d') with
    | [] => none
    | _ :: after =>
      let text := s.pending ++ s.rest.takeWhile (· != '\x7b')
      match Placeholder.ofName? (String.ofList (inner.takeWhile (· != '\x7d'))) with
      | some p =>
        some ⟨s.segments ++ Segment.ofChars text ++ [.hole p], s.placeholders.insert p, [], after⟩
      | none => some ⟨s.segments, s.placeholders, text ++ ['\x7b'], inner⟩

/-- What is left when no round is possible is text. -/
def finish (s : Scan) : Body :=
  ⟨s.segments ++ Segment.ofChars (s.pending ++ s.rest), s.placeholders⟩

theorem dropWhile_cons_length {α : Type} {p : α → Bool} {l r : List α} {x : α}
    (h : l.dropWhile p = x :: r) : r.length < l.length := by
  have := (List.dropWhile_sublist p (l := l)).length_le
  rw [h] at this
  exact this

/-- A round leaves fewer characters to search. -/
theorem step_length {s t : Scan} (h : s.step = some t) : t.rest.length < s.rest.length := by
  unfold step at h
  split at h
  · cases h
  · rename_i h₁
    split at h
    · cases h
    · rename_i h₂
      have l₁ := dropWhile_cons_length h₁
      have l₂ := dropWhile_cons_length h₂
      dsimp only at h
      split at h <;> cases h
      · exact Nat.lt_trans l₂ l₁
      · exact l₁

/-- Rounds until none is possible. -/
def run (s : Scan) : Body :=
  match _h : s.step with
  | some t => t.run
  | none => s.finish
termination_by s.rest.length
decreasing_by exact step_length _h

end Scan

/-- Reads a template body. -/
def parse (content : String) : Body :=
  (Scan.start content.toList).run

/-- The placeholders that are found in a text, in canonical order. -/
def unresolved (text : String) : List Placeholder :=
  (parse text).placeholders.toList

/-- No empty text, no two texts side by side, and no token inside a text. -/
def Normal : List Segment → Prop
  | [] => True
  | .hole _ :: r => Normal r
  | .text s :: r =>
    s ≠ "" ∧ (∀ p : Placeholder, ¬ p.token.toList <:+: s.toList) ∧
      (∀ t r', r ≠ .text t :: r') ∧ Normal r

end Companion
