import Companion.SourceUnit

/-!
# Memo — units remembered between passes

A unit is remembered under a key that holds all it depends on besides the template.  A memo has at
most one unit for a key.

* `get?_insert` and `get?_retain` say what the operations do to look-ups.
* `mem_keys_iff` ties the keys to look-ups; `size` counts the keys.
-/

namespace Companion

/-- All that a unit depends on besides its template. -/
structure MemoKey where
  /-- The contract. -/
  contract : Contract
  /-- The class's namespace, empty for the global one. -/
  «namespace» : String
  /-- The name of the class. -/
  name : String
  /-- The accessibility of the class. -/
  accessibility : Accessibility
  /-- What the class asks for. -/
  parameters : Parameters
  deriving DecidableEq, Repr

/-- Units by their keys. -/
structure Memo where
  /-- The units with their keys. -/
  entries : List (MemoKey × SourceUnit) := []
  deriving DecidableEq, Repr

namespace Memo

/-- Nothing remembered. -/
def empty : Memo := ⟨[]⟩

/-- The unit of a key. -/
def get? (m : Memo) (k : MemoKey) : Option SourceUnit := m.entries.lookup k

/-- The keys that have a unit. -/
def keys (m : Memo) : List MemoKey := m.entries.map Prod.fst

/-- The number of units. -/
def size (m : Memo) : Nat := m.entries.length

/-- Remembers a unit, in place of the one that the key had. -/
def insert (m : Memo) (k : MemoKey) (u : SourceUnit) : Memo :=
  ⟨(k, u) :: m.entries.filter fun e => e.1 != k⟩

/-- Forgets the units of all other keys. -/
def retain (m : Memo) (keep : List MemoKey) : Memo :=
  ⟨m.entries.filter fun e => keep.contains e.1⟩

theorem get?_empty (k : MemoKey) : empty.get? k = none := rfl

private theorem lookup_cons_of_ne {k a : MemoKey} (h : k ≠ a) (u : SourceUnit)
    (l : List (MemoKey × SourceUnit)) : List.lookup k ((a, u) :: l) = l.lookup k := by
  rw [List.lookup_cons, beq_false_of_ne h]

private theorem lookup_filter (l : List (MemoKey × SourceUnit)) (p : MemoKey → Bool) (k : MemoKey) :
    (l.filter fun e => p e.1).lookup k = if p k then l.lookup k else none := by
  induction l with
  | nil => simp
  | cons e r ih =>
    rcases e with ⟨a, u⟩
    by_cases hk : k = a
    · subst hk
      cases hp : p k with
      | true => simp [hp]
      | false => simpa [List.filter_cons, hp] using ih
    · rw [lookup_cons_of_ne hk]
      cases hp : p a with
      | true => rw [List.filter_cons_of_pos (by simpa using hp), lookup_cons_of_ne hk, ih]
      | false => rw [List.filter_cons_of_neg (by simp [hp]), ih]

theorem get?_insert (m : Memo) (k j : MemoKey) (u : SourceUnit) :
    (m.insert k u).get? j = if j = k then some u else m.get? j := by
  by_cases hj : j = k
  · simp [insert, get?, hj]
  · have h := lookup_filter m.entries (fun a => a != k) j
    rw [if_neg hj, get?, insert, lookup_cons_of_ne hj, h, if_pos (by simpa using hj), get?]

theorem get?_retain (m : Memo) (keep : List MemoKey) (k : MemoKey) :
    (m.retain keep).get? k = if k ∈ keep then m.get? k else none := by
  have h := lookup_filter m.entries (fun a => keep.contains a) k
  simpa [retain, get?] using h

theorem mem_keys_iff (m : Memo) (k : MemoKey) : k ∈ m.keys ↔ (m.get? k).isSome := by
  simp only [keys, get?]
  induction m.entries with
  | nil => simp
  | cons e r ih =>
    rcases e with ⟨a, u⟩
    by_cases hk : k = a
    · simp [hk]
    · rw [lookup_cons_of_ne hk, ← ih]
      simp [hk]

end Memo

end Companion
