/-!
# Text — pieces between separators

A text is cut at every occurrence of a separator.  There is one piece more than there are
separators; pieces may be empty.
-/

namespace Companion.Text

/-- The pieces between the separators. -/
def pieces (separator : Char) : List Char → List (List Char)
  | [] => [[]]
  | c :: r =>
    if c = separator then [] :: pieces separator r
    else match pieces separator r with
      | piece :: rest => (c :: piece) :: rest
      | [] => [[c]]

/-- The pieces with a separator between any two. -/
def joinPieces (separator : Char) : List (List Char) → List Char
  | [] => []
  | [piece] => piece
  | piece :: rest => piece ++ separator :: joinPieces separator rest

theorem pieces_ne_nil (separator : Char) (cs : List Char) : pieces separator cs ≠ [] := by
  cases cs with
  | nil => simp [pieces]
  | cons c r =>
    unfold pieces
    split
    · simp
    · split <;> simp

/-- Joining the pieces gives the text back. -/
theorem joinPieces_pieces (separator : Char) (cs : List Char) :
    joinPieces separator (pieces separator cs) = cs := by
  induction cs with
  | nil => rfl
  | cons c r ih =>
    unfold pieces
    split
    · rename_i h
      subst h
      cases hp : pieces c r with
      | nil => exact absurd hp (pieces_ne_nil c r)
      | cons p q => rw [hp] at ih; simp [joinPieces, ih]
    · cases hp : pieces separator r with
      | nil => exact absurd hp (pieces_ne_nil separator r)
      | cons p q =>
        rw [hp] at ih
        subst ih
        cases q <;> simp [joinPieces]

end Companion.Text
