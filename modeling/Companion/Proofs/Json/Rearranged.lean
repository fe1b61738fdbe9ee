import Companion.Proofs.Json.Texts
import Mathlib.Data.List.Nodup

/-!
# Json — objects in another order, and with more in them

In JSON that stands for a value of some type, the members of an object may stand in any order, and
members of other names may be added.  What is looked for is found all the same, and what is added is
passed over.

* `Form`: where the values of a type have objects, and which names these know.
* `Rearranged`: one JSON value is another in which members were put in another order or added.
* `Rearranged.keeps`: the members of known names are there once each, with values that are
  rearranged in turn.
* `Keeps.stray?_eq_none`, `Keeps.exists_member?` and `relevant?_cases`: so they are found.
-/

namespace Companion.Json

/-- Where the values of a type have objects, and which names these know. -/
inductive Form where
  /-- There are no objects. -/
  | leaf
  /-- A list of values. -/
  | list (item : Form)
  /-- An object of fields. -/
  | record (fields : List (String × Form))

/-- The second value is the first, in which members of objects were put in another order, or added
under names that are not known. -/
inductive Rearranged : Form → Json → Json → Prop where
  | leaf (j : Json) : Rearranged .leaf j j
  | nil (f : Form) : Rearranged (.list f) (.array []) (.array [])
  | cons {f : Form} {j j' : Json} {items items' : List Json} : Rearranged f j j' →
      Rearranged (.list f) (.array items) (.array items') →
      Rearranged (.list f) (.array (j :: items)) (.array (j' :: items'))
  | bare (fields : List (String × Form)) : Rearranged (.record fields) (.object []) (.object [])
  | member {fields : List (String × Form)} {name : String} {f : Form} {j j' : Json}
      {members members' : List (Option String × Json)} : (name, f) ∈ fields → Rearranged f j j' →
      Rearranged (.record fields) (.object members) (.object members') →
      Rearranged (.record fields) (.object ((some name, j) :: members))
        (.object ((some name, j') :: members'))
  /-- A member is added. -/
  | surplus {fields : List (String × Form)} {name : String} {j : Json}
      {members members' : List (Option String × Json)} : name ∉ fields.map Prod.fst →
      j.isWhole = true → Rearranged (.record fields) (.object members) (.object members') →
      Rearranged (.record fields) (.object members) (.object ((some name, j) :: members'))
  /-- Members are put in another order. -/
  | perm {fields : List (String × Form)}
      {members members' members'' : List (Option String × Json)} :
      Rearranged (.record fields) (.object members) (.object members') → members''.Perm members' →
      Rearranged (.record fields) (.object members) (.object members'')

variable {f : Form} {fields : List (String × Form)} {names seen : List String} {name : String}
  {j j' : Json} {items : List Json} {ms ms' : List (Option String × Json)} {i : Nat}

/-! ### Lists -/

/-- A rearranged list is a list of rearranged items. -/
theorem Rearranged.exists_items (h : Rearranged (.list f) (.array items) j') :
    ∃ items', j' = .array items' ∧ List.Forall₂ (Rearranged f) items items' := by
  generalize hf : Form.list f = form, hj : Json.array items = j at h
  induction h generalizing items with
  | nil =>
      cases hj
      exact ⟨[], rfl, .nil⟩
  | cons h _ _ ih =>
      cases hf
      cases hj
      obtain ⟨items', hitems, hall⟩ := ih rfl rfl
      cases hitems
      exact ⟨_, rfl, .cons h hall⟩
  | leaf | bare | member | surplus | perm => cases hf

/-! ### Objects -/

/-- The names of the members that are among the given ones. -/
def known (names : List String) (ms : List (Option String × Json)) : List String :=
  (ms.filterMap Prod.fst).filter names.contains

theorem mem_known_iff : name ∈ known names ms ↔ name ∈ names ∧ ∃ j, (some name, j) ∈ ms := by
  simp [known, and_comm]

theorem known_cons_of_mem (h : name ∈ names) (j : Json) (ms : List (Option String × Json)) :
    known names ((some name, j) :: ms) = name :: known names ms := by
  simp [known, h]

theorem known_cons_of_not_mem (h : name ∉ names) (j : Json) (ms : List (Option String × Json)) :
    known names ((some name, j) :: ms) = known names ms := by
  simp [known, h]

/-- The members are the same as those of another object, as far as their names are known; and other
names are names of JSON values. -/
structure Keeps (fields : List (String × Form)) (ms ms' : List (Option String × Json)) : Prop where
  /-- Members have names, and those of other names have JSON values. -/
  named : ∀ m ∈ ms', ∃ name, m.1 = some name ∧
    (name ∈ fields.map Prod.fst ∨ m.2.isWhole = true)
  /-- The names that are known are the same. -/
  same : (known (fields.map Prod.fst) ms').Perm (known (fields.map Prod.fst) ms)
  /-- Their values are rearranged. -/
  value : ∀ name j', (some name, j') ∈ ms' → name ∈ fields.map Prod.fst →
    ∃ f j, (name, f) ∈ fields ∧ (some name, j) ∈ ms ∧ Rearranged f j j'

namespace Keeps

theorem nil (fields : List (String × Form)) : Keeps fields [] [] := ⟨nofun, .refl _, nofun⟩

theorem member (h : Keeps fields ms ms') (hm : (name, f) ∈ fields) (hj : Rearranged f j j') :
    Keeps fields ((some name, j) :: ms) ((some name, j') :: ms') := by
  have hname : name ∈ fields.map Prod.fst := List.mem_map_of_mem hm
  refine ⟨List.forall_mem_cons.mpr ⟨⟨name, rfl, .inl hname⟩, h.named⟩, ?_, ?_⟩
  · rw [known_cons_of_mem hname, known_cons_of_mem hname]
    exact h.same.cons name
  · intro n k hk hn
    rcases List.mem_cons.mp hk with he | hk
    · cases he
      exact ⟨f, j, hm, List.mem_cons_self, hj⟩
    · obtain ⟨f', j'', hf', hj'', hvalue⟩ := h.value n k hk hn
      exact ⟨f', j'', hf', List.mem_cons_of_mem _ hj'', hvalue⟩

theorem surplus (h : Keeps fields ms ms') (hn : name ∉ fields.map Prod.fst)
    (hj : j.isWhole = true) : Keeps fields ms ((some name, j) :: ms') := by
  refine ⟨List.forall_mem_cons.mpr ⟨⟨name, rfl, .inr hj⟩, h.named⟩, ?_, ?_⟩
  · rw [known_cons_of_not_mem hn]
    exact h.same
  · intro n k hk hmem
    rcases List.mem_cons.mp hk with he | hk
    · cases he
      exact absurd hmem hn
    · exact h.value n k hk hmem

theorem perm {ms'' : List (Option String × Json)} (h : Keeps fields ms ms')
    (hp : ms''.Perm ms') : Keeps fields ms ms'' where
  named m hm := h.named m (hp.mem_iff.mp hm)
  same := ((hp.filterMap Prod.fst).filter _).trans h.same
  value n k hk := h.value n k (hp.mem_iff.mp hk)

end Keeps

/-- A rearranged object keeps its members. -/
theorem Rearranged.keeps (h : Rearranged (.record fields) (.object ms) j') :
    ∃ ms', j' = .object ms' ∧ Keeps fields ms ms' := by
  generalize hf : Form.record fields = form, hj : Json.object ms = j at h
  induction h generalizing ms with
  | bare =>
      cases hj
      exact ⟨[], rfl, .nil fields⟩
  | member hm hvalue _ _ ih =>
      cases hf
      cases hj
      obtain ⟨_, ⟨⟩, hkeeps⟩ := ih rfl rfl
      exact ⟨_, rfl, hkeeps.member hm hvalue⟩
  | surplus hn hw _ ih =>
      cases hf
      obtain ⟨_, ⟨⟩, hkeeps⟩ := ih rfl hj
      exact ⟨_, rfl, hkeeps.surplus hn hw⟩
  | perm _ hp ih =>
      cases hf
      obtain ⟨_, ⟨⟩, hkeeps⟩ := ih rfl hj
      exact ⟨_, rfl, hkeeps.perm hp⟩
  | leaf | nil | cons => cases hf

/-! ### Looking for members -/

/-- Nothing is wrong with names that are known and not repeated, or belong to JSON values. -/
theorem stray?_eq_none_of_nodup
    (hnamed : ∀ m ∈ ms, ∃ name, m.1 = some name ∧ (name ∈ names ∨ m.2.isWhole = true))
    (hnodup : (known names ms).Nodup) (hseen : ∀ n ∈ seen, n ∉ known names ms) (i : Nat) :
    stray? names i seen ms = none := by
  induction ms generalizing seen i with
  | nil => rfl
  | cons m ms ih =>
      obtain ⟨name', j⟩ := m
      obtain ⟨⟨name, rfl, hname⟩, hrest⟩ := List.forall_mem_cons.mp hnamed
      by_cases hm : name ∈ names
      · rw [known_cons_of_mem hm] at hnodup hseen
        have hnew : name ∉ seen := fun hs => hseen name hs List.mem_cons_self
        rw [stray?, if_pos (by simpa using hm), if_neg (by simpa using hnew)]
        refine ih hrest (List.nodup_cons.mp hnodup).2 (fun n hn => ?_) _
        rcases List.mem_cons.mp hn with rfl | hn
        · exact (List.nodup_cons.mp hnodup).1
        · exact fun hk => hseen n hn (List.mem_cons_of_mem _ hk)
      · rw [known_cons_of_not_mem hm] at hnodup hseen
        rw [stray?, if_neg (by simpa using hm), if_pos (hname.resolve_left hm)]
        exact ih hrest hnodup hseen _

/-- A member that is there is found. -/
theorem exists_member?_of_mem (h : (some name, j) ∈ ms) (i : Nat) :
    ∃ k j', member? name i ms = some (k, j') ∧ (some name, j') ∈ ms := by
  induction ms generalizing i with
  | nil => cases h
  | cons m ms ih =>
      obtain ⟨_ | n, j'⟩ := m
      · obtain ⟨k, j', hk, hj⟩ := ih (by simpa using h) (i + 1)
        exact ⟨k, j', hk, List.mem_cons_of_mem _ hj⟩
      · by_cases hn : n = name
        · subst hn
          exact ⟨i, j', if_pos rfl, List.mem_cons_self⟩
        · have hmem : (some name, j) ∈ ms := by
            rcases List.mem_cons.mp h with he | hm
            · cases he
              exact absurd rfl hn
            · exact hm
          obtain ⟨k, j'', hk, hj⟩ := ih hmem (i + 1)
          exact ⟨k, j'', (if_neg hn).trans hk, List.mem_cons_of_mem _ hj⟩

namespace Keeps

/-- Nothing is wrong with the names of a rearranged object. -/
theorem stray?_eq_none (h : Keeps fields ms ms') (hn : (known (fields.map Prod.fst) ms).Nodup) :
    stray? (fields.map Prod.fst) 0 [] ms' = none :=
  stray?_eq_none_of_nodup h.named (h.same.nodup_iff.mpr hn)
    (fun _ hs => absurd hs List.not_mem_nil) 0

/-- The value of a member is found, rearranged. -/
theorem exists_member? (h : Keeps fields ms ms') (hf : (fields.map Prod.fst).Nodup)
    (hn : (ms.map Prod.fst).Nodup) (hm : (name, f) ∈ fields) (hj : (some name, j) ∈ ms) :
    ∃ k j', member? name 0 ms' = some (k, j') ∧ Rearranged f j j' := by
  have hname : name ∈ fields.map Prod.fst := List.mem_map_of_mem hm
  obtain ⟨-, j₀, hj₀⟩ := mem_known_iff.mp (h.same.mem_iff.mpr (mem_known_iff.mpr ⟨hname, j, hj⟩))
  obtain ⟨k, j', hk, hj'⟩ := exists_member?_of_mem hj₀ 0
  obtain ⟨f', j'', hf', hj'', hvalue⟩ := h.value name j' hj' hname
  cases List.inj_on_of_nodup_map hf hm hf' rfl
  cases List.inj_on_of_nodup_map hn hj hj'' rfl
  exact ⟨k, j', hk, hvalue⟩

end Keeps

/-! ### Tags and contents -/

section

variable {α : Type} {tag content label s : String} {t : Tagged α} {a : α} {make : String → α}
  {rest : List (Option String × Json)}

/-- The next tag or content is found behind members of other names. -/
theorem relevant?_cases
    (hnamed : ∀ m ∈ ms, ∃ name, m.1 = some name ∧ (name ∈ [tag, content] ∨ m.2.isWhole = true)) :
    known [tag, content] ms = [] ∧ relevant? tag content ms = .ok none ∨
      ∃ name j rest, known [tag, content] ms = name :: known [tag, content] rest ∧
        (some name, j) ∈ ms ∧ rest ⊆ ms ∧
        relevant? tag content ms = .ok (some (decide (name = tag), j, rest)) := by
  induction ms with
  | nil => exact .inl ⟨rfl, rfl⟩
  | cons m ms ih =>
      obtain ⟨name', j⟩ := m
      obtain ⟨⟨name, rfl, hname⟩, hrest⟩ := List.forall_mem_cons.mp hnamed
      by_cases hm : name ∈ [tag, content]
      · refine .inr ⟨name, j, ms, known_cons_of_mem hm j ms, List.mem_cons_self,
          List.subset_cons_self _ _, ?_⟩
        rw [relevant?]
        by_cases ht : name = tag
        · rw [if_pos ht, decide_eq_true ht]
        · rw [if_neg ht, if_pos (by simpa [ht] using hm), decide_eq_false ht]
      · have hskip : relevant? tag content ((some name, j) :: ms) = relevant? tag content ms := by
          rw [List.mem_cons, List.mem_singleton, not_or] at hm
          rw [relevant?, if_neg hm.1, if_neg hm.2, if_pos (hname.resolve_left (by simp [hm]))]
        rw [known_cons_of_not_mem hm, hskip]
        rcases ih hrest with h | ⟨n, k, rest, hknown, hk, hsub, hread⟩
        · exact .inl h
        · exact .inr ⟨n, k, rest, hknown, List.mem_cons_of_mem _ hk,
            List.subset_cons_of_subset _ hsub, hread⟩

/-- If no tag or content is left, none is found. -/
theorem relevant?_eq_none
    (hnamed : ∀ m ∈ ms, ∃ name, m.1 = some name ∧ (name ∈ [tag, content] ∨ m.2.isWhole = true))
    (h : known [tag, content] ms = []) : relevant? tag content ms = .ok none := by
  rcases relevant?_cases hnamed with ⟨-, hread⟩ | ⟨name, j, rest, hknown, -⟩
  · exact hread
  · rw [h] at hknown
    cases hknown

/-- If one is left, it is found, and none after it. -/
theorem exists_relevant?_of_singleton
    (hnamed : ∀ m ∈ ms, ∃ name, m.1 = some name ∧ (name ∈ [tag, content] ∨ m.2.isWhole = true))
    (h : known [tag, content] ms = [name]) :
    ∃ j rest, (some name, j) ∈ ms ∧
      relevant? tag content ms = .ok (some (decide (name = tag), j, rest)) ∧
      relevant? tag content rest = .ok none := by
  rcases relevant?_cases hnamed with ⟨hnil, -⟩ | ⟨n, j, rest, hknown, hj, hsub, hread⟩
  · rw [h] at hnil
    cases hnil
  · rw [h] at hknown
    obtain ⟨rfl, hrest⟩ := List.cons.inj hknown
    exact ⟨j, rest, hj, hread, relevant?_eq_none (fun m hm => hnamed m (hsub hm)) hrest.symm⟩

/-- The names that a tagged value knows. -/
def tagFields (t : Tagged α) : List (String × Form) := [(t.tag, .leaf), (t.content, .leaf)]

theorem Keeps.mem_of_tagFields (h : Keeps (tagFields t) ms ms') (hj : (some name, j) ∈ ms')
    (hn : name ∈ [t.tag, t.content]) : (some name, j) ∈ ms := by
  obtain ⟨f, j', hf, hj', hvalue⟩ := h.value name j hj hn
  have hleaf : f = .leaf := by
    rcases List.mem_cons.mp hf with he | hf
    · exact (Prod.mk.inj he).2
    · exact (Prod.mk.inj (List.mem_singleton.mp hf)).2
  subst hleaf
  cases hvalue
  exact hj'

/-- What holds nothing is read from its tag. -/
theorem Keeps.readTaggedObject_bare
    (h : Keeps (tagFields t) [(some t.tag, .string (some label))] ms')
    (hlabel : pick t.alternatives label = .ok (.bare s a)) : readTaggedObject t ms' = .ok a := by
  have hknown : known [t.tag, t.content] ms' = [t.tag] :=
    List.perm_singleton.mp (by simpa [known, tagFields] using h.same)
  obtain ⟨j, rest, hj, hread, hnone⟩ := exists_relevant?_of_singleton h.named hknown
  cases List.mem_singleton.mp (h.mem_of_tagFields hj List.mem_cons_self)
  rw [decide_eq_true rfl] at hread
  simp only [readTaggedObject, hread, hnone, readChoice, hlabel, bind, Except.bind]
  rfl

/-- What holds a text is read from its tag and its content, in either order. -/
theorem Keeps.readTaggedObject_holding (hne : t.content ≠ t.tag)
    (h : Keeps (tagFields t)
      [(some t.tag, .string (some label)), (some t.content, .string (some s))] ms')
    (hlabel : pick t.alternatives label = .ok (.holding make)) :
    readTaggedObject t ms' = .ok (make s) := by
  have htag : ∀ j, (some t.tag, j) ∈ ms' → j = .string (some label) := by
    intro j hj
    have := h.mem_of_tagFields hj List.mem_cons_self
    simpa [hne.symm] using this
  have hcontent : ∀ j, (some t.content, j) ∈ ms' → j = .string (some s) := by
    intro j hj
    have := h.mem_of_tagFields hj (List.mem_cons_of_mem _ List.mem_cons_self)
    simpa [hne] using this
  have hknown : (known [t.tag, t.content] ms').Perm [t.tag, t.content] := by
    simpa [known, tagFields] using h.same
  rcases relevant?_cases h.named with ⟨hnil, -⟩ | ⟨name, j, rest, hcons, hj, hsub, hread⟩
  · rw [hnil] at hknown
    exact absurd hknown.symm (List.cons_ne_nil _ _ ∘ List.perm_nil.mp)
  · have hrest := fun m hm => h.named m (hsub hm)
    have hname : name ∈ [t.tag, t.content] := hknown.mem_iff.mp (hcons ▸ List.mem_cons_self)
    rw [hcons] at hknown
    rcases List.mem_cons.mp hname with rfl | hname
    · -- the tag comes first
      obtain ⟨k, rest', hk, hread', hnone⟩ := exists_relevant?_of_singleton hrest
        (List.perm_singleton.mp hknown.cons_inv)
      cases htag j hj
      cases hcontent k (hsub hk)
      rw [decide_eq_true rfl] at hread
      rw [decide_eq_false hne] at hread'
      simp only [readTaggedObject, noMore, hread, hread', hnone, readChoice, hlabel, readContent,
        readText, bind, Except.bind]
      rfl
    · -- the content comes first, and is kept until the tag is known
      cases List.mem_singleton.mp hname
      obtain ⟨k, rest', hk, hread', hnone⟩ := exists_relevant?_of_singleton hrest
        (List.perm_singleton.mp (hknown.trans (List.Perm.swap _ _ _)).cons_inv)
      cases hcontent j hj
      cases htag k (hsub hk)
      rw [decide_eq_false hne] at hread
      rw [decide_eq_true rfl] at hread'
      simp only [readTaggedObject, noMore, hread, hread', hnone, readChoice, hlabel, readContent,
        readText, isPlain, bind, Except.bind]
      rfl

end

end Companion.Json
