import Companion.Settings.Key
import Mathlib.Data.List.Induction

/-!
# Settings — values under their names

Values are put in their places one after the other, and what is found under a name is the last one
that was given to it.  The case of keys does not count.

* `SettingValue.given?`: the last of several values for a name.
* `SettingValue.get?_set` and `SettingValue.get?_set_of_isFor`: what one value does to a look-up.
* `SettingValue.get?_setAll`: what is found under a name after several.
-/

namespace Companion

/-- Whether the text is a key for the name, or for a place below it. -/
def Key.isFor (name key : String) : Bool := Text.lower (Key.ofText key).head == name

namespace SettingValue

variable {t v : SettingValue} {name other key : String} {es : List (String × SettingValue)}
  {values : List (String × SettingValue)} {k : Key}

/-- The last of the values for a name. -/
def given? (values : List (String × SettingValue)) (name : String) : Option SettingValue :=
  (values.reverse.find? fun e => Key.isFor name e.1).map Prod.snd

/-- The value takes the place of what is there. -/
inductive Replaces : SettingValue → Prop where
  | flag (b : Bool) : Replaces (.flag b)
  | whole (n : Int) : Replaces (.whole n)
  | real (x : Float) : Replaces (.real x)
  | text (s : String) : Replaces (.text s)

/-! ### Look-ups in a table -/

theorem lookup_replaced (name other : String) (v : SettingValue)
    (es : List (String × SettingValue)) :
    (replaced name v es).lookup other = if other = name then some v else es.lookup other := by
  induction es with
  | nil =>
      by_cases h : other = name
      · simp [replaced, h]
      · simp [replaced, h]
  | cons e es ih =>
      obtain ⟨n, w⟩ := e
      by_cases hn : n = name
      · subst hn
        by_cases h : other = n
        · simp [replaced, h]
        · simp [replaced, h, List.lookup_cons, beq_false_of_ne h]
      · rw [replaced, if_neg (by simpa using hn), List.lookup_cons, ih, List.lookup_cons]
        by_cases h : other = n
        · subst h
          simp [hn]
        · rw [beq_false_of_ne h]

theorem get?_put (t : SettingValue) (name other : String) (v : SettingValue) :
    (t.put name v).get? other = if other = name then some v else t.get? other :=
  lookup_replaced name other v t.entries

/-- A value that is merged goes under its name. -/
theorem exists_merge_eq_put (t : SettingValue) (name : String) (v : SettingValue) :
    ∃ w, t.merge name v = t.put (Text.lower name) w := by
  cases v with
  | table incoming => exact ⟨_, by rw [merge]⟩
  | _ => exact ⟨_, by rw [merge]; nofun⟩

theorem Replaces.merge_eq_put (h : Replaces v) (t : SettingValue) (name : String) :
    t.merge name v = t.put (Text.lower name) v := by
  cases h <;> rw [merge] <;> nofun

/-- A value that is put in its place goes under a name that the key is for, and nowhere else. -/
theorem exists_set_eq_put (t : SettingValue) (k : Key) (v : SettingValue) :
    ∃ n w, t.set k v = t.put n w ∧ (n = Text.lower k.head ∨ n = k.head) := by
  rw [set]
  split
  · obtain ⟨w, hw⟩ := t.exists_merge_eq_put k.head v
    exact ⟨_, w, hw, .inl rfl⟩
  · exact ⟨_, _, rfl, .inr rfl⟩

/-- A value for one name does not change what is found under another. -/
theorem get?_set (hname : Text.lower name = name) (hk : Text.lower k.head ≠ name)
    (t v : SettingValue) : (t.set k v).get? name = t.get? name := by
  obtain ⟨n, w, hset, hn⟩ := t.exists_set_eq_put k v
  rw [hset, get?_put, if_neg]
  rintro rfl
  rcases hn with rfl | rfl
  · exact hk rfl
  · exact hk hname

/-- A value for a name is found under it. -/
theorem get?_set_of_isFor (hk : Text.lower k.head = name) (hsteps : k.steps = [])
    (hv : Replaces v) (t : SettingValue) : (t.set k v).get? name = some v := by
  rw [set, hsteps]
  dsimp only
  rw [hv.merge_eq_put, get?_put, if_pos hk.symm]

/-! ### Several values -/

theorem given?_concat (values : List (String × SettingValue)) (key : String) (v : SettingValue)
    (name : String) :
    given? (values ++ [(key, v)]) name =
      if Key.isFor name key then some v else given? values name := by
  rw [given?, List.reverse_concat, List.find?_cons]
  cases Key.isFor name key <;> rfl

/-- After several values, the last one for the name is found, or else what was there. -/
theorem get?_setAll (hname : Text.lower name = name) (t : SettingValue)
    (h : ∀ e ∈ values, Key.isFor name e.1 → (Key.ofText e.1).steps = [] ∧ Replaces e.2) :
    (t.setAll values).get? name = (given? values name).or (t.get? name) := by
  induction values using List.reverseRecOn with
  | nil => rfl
  | append_singleton values e ih =>
      obtain ⟨key, v⟩ := e
      have ih := ih fun e he => h e (List.mem_append_left _ he)
      rw [given?_concat, setAll, List.foldl_append]
      change ((t.setAll values).set (.ofText key) v).get? name = _
      by_cases hfor : Key.isFor name key = true
      · obtain ⟨hsteps, hv⟩ := h _ (List.mem_append_right _ (List.mem_singleton_self _)) hfor
        rw [if_pos hfor, get?_set_of_isFor (beq_iff_eq.mp hfor) hsteps hv]
        rfl
      · rw [if_neg hfor, get?_set hname (mt beq_iff_eq.mpr hfor), ih]

/-- Nothing is found under a name that no value was for. -/
theorem get?_setAll_of_none (hname : Text.lower name = name) (t : SettingValue)
    (h : ∀ e ∈ values, Key.isFor name e.1 = false) :
    (t.setAll values).get? name = t.get? name := by
  have hgiven : given? values name = none := by
    rw [given?, List.find?_eq_none.mpr fun e he => by simp [h e (List.mem_reverse.mp he)]]
    rfl
  have hnever : ∀ e ∈ values, Key.isFor name e.1 →
      (Key.ofText e.1).steps = [] ∧ Replaces e.2 := fun e he hfor => by
    rw [h e he] at hfor
    cases hfor
  rw [get?_setAll hname t hnever, hgiven, Option.none_or]

/-- Values that are put into a table leave a table. -/
theorem exists_setAll_eq_table (es values : List (String × SettingValue)) :
    ∃ es', (table es).setAll values = table es' := by
  induction values using List.reverseRecOn with
  | nil => exact ⟨es, rfl⟩
  | append_singleton values e ih =>
      rw [setAll, List.foldl_append]
      obtain ⟨n, w, hset, -⟩ := ((table es).setAll values).exists_set_eq_put (.ofText e.1) e.2
      exact ⟨_, hset⟩

end SettingValue

end Companion
