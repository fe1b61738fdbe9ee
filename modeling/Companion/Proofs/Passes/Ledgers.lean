import Companion.Proofs.Passes.Stores
import Mathlib.Data.Finset.Card

/-!
# Passes — a unit store as two containers

A unit store keeps its units in one list, which gives the order of publication and the texts at
once.  The two can also be kept apart: the texts in a map, in the order of identities, and the
identities in a list, in the order of publication.  Then it has to be shown that they stay in step.

* `Records`: an order and a look-up are what comes of units that are offered one after the other.
* `Records.old` and `Records.new`: one more unit, under an identity that is there or not.
* `Ledger`: the two containers.
* `Ledger.records` and `UnitStore.records`: any units, offered to the one and to the other.
* `Ledger.bookkeeping`: what the two containers hold, and that the unit store does the same.
-/

namespace Companion

variable {σ : Type} {us : List SourceUnit} {u : SourceUnit} {order order' : List String}
  {look look' : String → Option String} {identity : String}

/-! ### Units that are offered -/

/-- What a sink has become when units were offered to it, one after the other. -/
def Sink.after (sink : Sink (StateM σ)) (us : List SourceUnit) (a : σ) : σ :=
  us.foldl (fun a u => ((sink u).run a).2) a

theorem Sink.after_concat (sink : Sink (StateM σ)) (us : List SourceUnit) (u : SourceUnit) (a : σ) :
    sink.after (us ++ [u]) a = ((sink u).run (sink.after us a)).2 := by
  rw [after, List.foldl_append]
  rfl

/-- The text that was offered first under an identity. -/
def firstText? (us : List SourceUnit) (identity : String) : Option String :=
  (us.find? (·.identity == identity)).map (·.text)

theorem isSome_firstText? :
    (firstText? us identity).isSome ↔ identity ∈ us.map (·.identity) := by
  simp [firstText?]

theorem firstText?_concat (us : List SourceUnit) (u : SourceUnit) (identity : String) :
    firstText? (us ++ [u]) identity =
      (firstText? us identity).or (if identity = u.identity then some u.text else none) := by
  rw [firstText?, List.find?_append, Option.map_or, ← firstText?]
  congr 1
  by_cases h : identity = u.identity
  · simp [h]
  · simp [h, Ne.symm h]

/-- An order of identities, and a look-up of texts by identities, are what comes of units that are
offered one after the other. -/
structure Records (us : List SourceUnit) (order : List String) (look : String → Option String) :
    Prop where
  /-- No identity is there twice. -/
  nodup : order.Nodup
  /-- The identities are those offered, in the order in which they were offered first. -/
  firsts : order = (us.map (·.identity)).eraseDups
  /-- They are those under which something is found. -/
  held : ∀ identity, identity ∈ order ↔ (look identity).isSome
  /-- What is found is the text that was offered first. -/
  texts : ∀ identity, look identity = firstText? us identity

namespace Records

theorem nil (h : ∀ identity, look identity = none) : Records [] [] look where
  nodup := List.nodup_nil
  firsts := rfl
  held identity := by simp [h]
  texts identity := by simp [h, firstText?]

theorem mem_iff (h : Records us order look) :
    identity ∈ order ↔ identity ∈ us.map (·.identity) := by
  rw [h.firsts, List.mem_eraseDups]

theorem isSome_iff (h : Records us order look) :
    (look identity).isSome ↔ identity ∈ us.map (·.identity) := by
  rw [← h.held, h.mem_iff]

/-- A unit whose identity is there changes nothing. -/
theorem old (h : Records us order look) (hu : u.identity ∈ us.map (·.identity)) :
    Records (us ++ [u]) order look where
  nodup := h.nodup
  firsts := by
    have hnone : [u.identity].removeAll (us.map (·.identity)) = [] := by
      simpa [List.removeAll] using hu
    rw [List.map_append, List.eraseDups_append, List.map_singleton, hnone, ← h.firsts]
    exact (List.append_nil _).symm
  held := h.held
  texts identity := by
    rw [h.texts, firstText?_concat]
    split
    · rename_i hi
      subst hi
      obtain ⟨text, htext⟩ := Option.isSome_iff_exists.mp (isSome_firstText?.mpr hu)
      rw [htext, Option.some_or]
    · rw [Option.or_none]

/-- A unit whose identity is not there goes to the end of the order. -/
theorem new (h : Records us order look) (hu : u.identity ∉ us.map (·.identity))
    (hlook : ∀ identity,
      look' identity = if identity = u.identity then some u.text else look identity) :
    Records (us ++ [u]) (order ++ [u.identity]) look' where
  nodup := by
    refine List.nodup_append.mpr ⟨h.nodup, List.pairwise_singleton _ _, fun i hi j hj => ?_⟩
    rintro rfl
    rw [List.mem_singleton] at hj
    exact hu (h.mem_iff.mp (hj ▸ hi))
  firsts := by
    have hkept : [u.identity].removeAll (us.map (·.identity)) = [u.identity] := by
      simpa [List.removeAll] using hu
    rw [List.map_append, List.eraseDups_append, List.map_singleton, hkept, ← h.firsts]
    rfl
  held identity := by
    rw [hlook, List.mem_append, List.mem_singleton, h.held]
    by_cases hi : identity = u.identity <;> simp [hi]
  texts identity := by
    rw [hlook, firstText?_concat, ← h.texts]
    split
    · rename_i hi
      subst hi
      have hnone : look u.identity = none :=
        Option.not_isSome_iff_eq_none.mp (mt h.isSome_iff.mp hu)
      rw [hnone, Option.none_or]
    · rw [Option.or_none]

/-- Of units that are offered there is one order and one look-up. -/
theorem unique (h : Records us order look) (h' : Records us order' look') :
    order' = order ∧ look' = look :=
  ⟨h'.firsts.trans h.firsts.symm, funext fun i => (h'.texts i).trans (h.texts i).symm⟩

/-- There are as many identities as were offered. -/
theorem length_order (h : Records us order look) :
    order.length = (us.map (·.identity)).toFinset.card := by
  rw [← List.toFinset_card_of_nodup h.nodup]
  congr 1
  ext identity
  rw [List.mem_toFinset, List.mem_toFinset, h.mem_iff]

end Records

/-! ### The two containers -/

/-- A unit store whose texts and order are kept apart. -/
structure Ledger where
  /-- The text of each identity, in the order of identities. -/
  texts : Std.TreeMap String String := {}
  /-- The identities, in the order of publication. -/
  order : List String := []

namespace Ledger

/-- Adds a unit whose identity is new. -/
def publish (l : Ledger) (u : SourceUnit) : Except Failure Ledger :=
  if l.texts.contains u.identity then .error (.collision u.identity)
  else .ok ⟨l.texts.insert u.identity u.text, l.order ++ [u.identity]⟩

/-- The ledger as a sink. -/
def sink : Sink (StateM Ledger) := fun u l =>
  match l.publish u with
  | .ok l => (.ok (), l)
  | .error failure => (.error failure, l)

/-- The text published under an identity. -/
def get? (l : Ledger) (identity : String) : Option String := l.texts[identity]?

/-- The number of units. -/
def size (l : Ledger) : Nat := l.order.length

/-- The units in the order of their publication, each looked up under its identity; one that is not
found is left out. -/
def inOrder (l : Ledger) : List SourceUnit :=
  l.order.filterMap fun identity => (l.get? identity).map fun text => ⟨identity, text⟩

variable {l : Ledger}

/-- What a ledger answers, and what becomes of it. -/
theorem sink_run (h : Records us l.order l.get?) (u : SourceUnit) :
    (sink u).run l =
      if u.identity ∈ us.map (·.identity) then (.error (.collision u.identity), l)
      else (.ok (), ⟨l.texts.insert u.identity u.text, l.order ++ [u.identity]⟩) := by
  have hheld : l.texts.contains u.identity = true ↔ u.identity ∈ us.map (·.identity) := by
    rw [← h.isSome_iff, get?, Std.TreeMap.isSome_getElem?_eq_contains]
  by_cases hu : u.identity ∈ us.map (·.identity)
  · rw [if_pos hu]
    simp [sink, StateT.run, publish, hheld.mpr hu]
  · rw [if_neg hu]
    simp [sink, StateT.run, publish, mt hheld.mp hu]

theorem records_step (h : Records us l.order l.get?) (u : SourceUnit) :
    Records (us ++ [u]) ((sink u).run l).2.order ((sink u).run l).2.get? := by
  rw [sink_run h]
  split
  · rename_i hu
    exact h.old hu
  · rename_i hu
    refine h.new hu fun identity => ?_
    have hcompare : compare u.identity identity = .eq ↔ identity = u.identity := by
      rw [Std.compare_eq_iff_eq, eq_comm]
    rw [get?, Std.TreeMap.getElem?_insert]
    simp only [hcompare, get?]

/-- The two containers stay in step. -/
theorem records (us : List SourceUnit) :
    Records us (sink.after us {}).order (sink.after us {}).get? := by
  induction us using List.reverseRecOn with
  | nil => exact .nil fun _ => rfl
  | append_singleton us u ih =>
      rw [Sink.after_concat]
      exact records_step ih u

end Ledger

namespace UnitStore

variable {s : UnitStore}

theorem sink_run (h : Records us s.identities s.get?) (u : SourceUnit) :
    (sink u).run s =
      if u.identity ∈ us.map (·.identity) then (.error (.collision u.identity), s)
      else (.ok (), ⟨s.units ++ [u]⟩) := by
  by_cases hu : u.identity ∈ us.map (·.identity)
  · have hheld : u.identity ∈ s.identities := h.mem_iff.mpr hu
    rw [if_pos hu]
    simp [sink, StateT.run, publish, hheld]
  · have hheld : u.identity ∉ s.identities := mt h.mem_iff.mp hu
    rw [if_neg hu]
    simp [sink, StateT.run, publish, hheld]

theorem records_step (h : Records us s.identities s.get?) (u : SourceUnit) :
    Records (us ++ [u]) ((sink u).run s).2.identities ((sink u).run s).2.get? := by
  rw [sink_run h]
  split
  · rename_i hu
    exact h.old hu
  · rename_i hu
    have hids : (⟨s.units ++ [u]⟩ : UnitStore).identities = s.identities ++ [u.identity] := by
      simp [identities]
    rw [hids]
    refine h.new hu (get?_publish ?_)
    rw [publish, if_neg (by simpa [h.mem_iff] using hu)]

/-- The one list gives what the two containers hold. -/
theorem records (us : List SourceUnit) :
    Records us (sink.after us .empty).identities (sink.after us .empty).get? := by
  induction us using List.reverseRecOn with
  | nil => exact .nil get?_empty
  | append_singleton us u ih =>
      rw [Sink.after_concat]
      exact records_step ih u

end UnitStore

/-- **What a unit store holds of the units that were offered to it.**  Offer any units to a new
ledger and to a new unit store, one after the other.

* In the ledger no identity stands twice in the order, and the identities there are those of the map
  of texts, in the order in which they were offered first; each has the text that was offered first.
* One more unit is refused, as a collision of its identity, if and only if the identity was offered
  before; then the ledger stays as it is.
* There are as many units as identities were offered, and none is left out when they are listed.
* The unit store holds the same and gives the same answers. -/
theorem Ledger.bookkeeping (us : List SourceUnit) :
    let l := Ledger.sink.after us {}
    let s := UnitStore.sink.after us .empty
    Records us l.order l.get? ∧
    (∀ u, (Ledger.sink u).run l =
      if u.identity ∈ us.map (·.identity) then (.error (.collision u.identity), l)
      else (.ok (), Ledger.sink.after (us ++ [u]) {})) ∧
    l.size = (us.map (·.identity)).toFinset.card ∧
    l.inOrder.map (·.identity) = l.order ∧
    s.identities = l.order ∧ s.get? = l.get? ∧ s.size = l.size ∧ s.inOrder = l.inOrder ∧
    ∀ u, (UnitStore.sink u).run s =
      (((Ledger.sink u).run l).1, UnitStore.sink.after
        (if u.identity ∈ us.map (·.identity) then us else us ++ [u]) .empty) := by
  intro l s
  have hl : Records us l.order l.get? := Ledger.records us
  have hs : Records us s.identities s.get? := UnitStore.records us
  obtain ⟨horder, hlook⟩ := hl.unique hs
  have hlisted : s.inOrder = l.inOrder := by
    rw [UnitStore.inOrder, Ledger.inOrder, horder, hlook]
  refine ⟨hl, fun u => ?_, hl.length_order, ?_, horder, hlook, ?_, hlisted, fun u => ?_⟩
  · rw [Sink.after_concat, Ledger.sink_run hl]
    split <;> rfl
  · rw [← hlisted, ← horder, UnitStore.inOrder_eq hs.nodup]
    rfl
  · rw [Ledger.size, ← horder, UnitStore.identities, List.length_map]
    rfl
  · rw [Ledger.sink_run hl, UnitStore.sink_run hs]
    split
    · rfl
    · rename_i hu
      rw [Sink.after_concat, UnitStore.sink_run hs, if_neg hu]

end Companion
