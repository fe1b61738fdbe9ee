import Companion.Template.Segment

/-!
# Template — substitution

Filling a template replaces every placeholder by the value bound to it, in one pass: a value is
never searched for placeholders.

* `fill` fills segments, `render` a template body.
* `substitute` says the same without segments: at each position a token is replaced by its value,
  and any other character is copied.
-/

namespace Companion

/-- The values bound to the placeholders. -/
abbrev Bindings := Placeholder → String

/-- The segments' text with every placeholder replaced by its value. -/
def fill (values : Bindings) : List Segment → String
  | [] => ""
  | .text s :: r => s ++ fill values r
  | .hole p :: r => values p ++ fill values r

/-- A template body with every placeholder replaced by its value. -/
def render (content : String) (values : Bindings) : String :=
  fill values (parse content).segments

/-- The placeholder whose token the characters begin with, and what follows the token. -/
def tokenAt? (cs : List Char) : Option (Placeholder × List Char) :=
  Placeholder.all.findSome? fun p =>
    if p.token.toList.isPrefixOf cs then some (p, cs.drop p.token.toList.length) else none

theorem tokenAt?_eq {cs rest : List Char} {p : Placeholder} (h : tokenAt? cs = some (p, rest)) :
    cs = p.token.toList ++ rest := by
  obtain ⟨q, -, hq⟩ := List.exists_of_findSome?_eq_some h
  split at hq
  · rename_i hp
    obtain ⟨t, rfl⟩ := List.isPrefixOf_iff_prefix.1 hp
    cases hq
    simp
  · cases hq

theorem tokenAt?_length {cs rest : List Char} {p : Placeholder}
    (h : tokenAt? cs = some (p, rest)) : rest.length < cs.length := by
  rw [tokenAt?_eq h, List.length_append]
  have : 0 < p.token.toList.length := by cases p <;> decide
  omega

/-- From left to right: a token is replaced by its value, any other character is copied. -/
def substitute (values : Bindings) (cs : List Char) : List Char :=
  match _h : tokenAt? cs with
  | some (p, rest) => (values p).toList ++ substitute values rest
  | none =>
    match cs with
    | [] => []
    | c :: r => c :: substitute values r
termination_by cs.length
decreasing_by
  · exact tokenAt?_length _h
  · simp

end Companion
