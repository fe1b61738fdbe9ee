import Companion.Proofs.Directories.Moments

/-!
# Directories — units that are offered again

A directory takes the identity of a unit before it writes the unit's file, and does not give it back
if that fails.  So a unit that is refused for its identity leaves no trace, but one whose file
cannot be written does: from then on the directory refuses the identity as offered before, though
nothing was published under it.

* `OutputDirectory.AgreesBut`: directories that differ at most in whether an identity is taken.
* `OutputDirectory.AgreesBut.publishAll`: they do the same with units of other identities.
* `OutputDirectory.AgreesBut.answers_ne`: they part at a unit of that identity.
* `OutputDirectory.publish_error_cases`: the two ways in which a unit is refused.
* `OutputDirectory.retrying`: when a refused unit leaves no trace.
-/

namespace Companion

namespace OutputDirectory

variable {d d' : OutputDirectory} {u : SourceUnit} {x : SourceUnit × Moment}
  {xs : List (SourceUnit × Moment)} {identity : String} {failure : Failure}

/-! ### Identities that are taken -/

theorem taken_publish_cases (d : OutputDirectory) (x : SourceUnit × Moment) :
    (d.publish x).2.taken = d.taken ∨ (d.publish x).2.taken = d.taken ++ [x.1.identity] := by
  rcases d.offer_cases x.1 with ⟨-, reason, ho⟩ | ⟨-, ho⟩ | ho
  · rw [publish_of_error ho]
    exact .inl rfl
  · rw [publish_of_error ho]
    exact .inl rfl
  · rw [publish_of_offer ho]
    cases d.outcome x <;> exact .inr rfl

theorem mem_taken_publish (h : identity ∈ d.taken) : identity ∈ (d.publish x).2.taken := by
  rcases d.taken_publish_cases x with ht | ht
  · rwa [ht]
  · rw [ht]
    exact List.mem_append_left _ h

theorem not_mem_taken_publish (h : identity ∉ d.taken) (hx : x.1.identity ≠ identity) :
    identity ∉ (d.publish x).2.taken := by
  rcases d.taken_publish_cases x with ht | ht
  · rwa [ht]
  · rw [ht, List.mem_append, List.mem_singleton]
    rintro (hm | rfl)
    · exact h hm
    · exact hx rfl

/-- A unit whose identity is taken is refused for it, and leaves the directory as it is. -/
theorem publish_of_taken (hs : Separatorless x.1.identity) (ht : x.1.identity ∈ d.taken) :
    d.publish x = (.error (.collision x.1.identity), d) := by
  refine publish_of_error ?_
  rw [offer, if_neg (ne_true_of_eq_false hs), if_pos (by simpa using ht)]

/-- Once an identity is taken, all units that have it are refused for it. -/
theorem collision_of_taken (hs : Separatorless identity) (ht : identity ∈ d.taken) :
    ∀ y ∈ xs.zip (d.publishAll xs).1, y.1.1.identity = identity →
      y.2 = .error (.collision identity) := by
  induction xs generalizing d with
  | nil => exact nofun
  | cons x xs ih =>
      intro y hy hi
      rcases List.mem_cons.mp hy with rfl | hy
      · dsimp only at hi ⊢
        subst hi
        rw [publish_of_taken hs ht]
      · exact ih (mem_taken_publish ht) y hy hi

/-! ### Directories that agree but for an identity -/

/-- The directories differ at most in whether the identity is taken. -/
structure AgreesBut (identity : String) (d d' : OutputDirectory) : Prop where
  /-- They have the same path. -/
  root : d'.root = d.root
  /-- Both are dry runs, or none is. -/
  dryRun : d'.dryRun = d.dryRun
  /-- They tell of the same files. -/
  written : d'.written = d.written
  /-- Other identities are taken in both, or in none. -/
  taken : ∀ i ≠ identity, i ∈ d'.taken ↔ i ∈ d.taken

namespace AgreesBut

theorem of_take (d : OutputDirectory) (u : SourceUnit) : AgreesBut u.identity d (d.take u) where
  root := rfl
  dryRun := rfl
  written := rfl
  taken i hi := by simp [take, hi]

theorem take (h : AgreesBut identity d d') (u : SourceUnit) :
    AgreesBut identity (d.take u) (d'.take u) where
  root := h.root
  dryRun := h.dryRun
  written := h.written
  taken i hi := by simp [OutputDirectory.take, h.taken i hi]

theorem accept (h : AgreesBut identity d d') (u : SourceUnit) :
    AgreesBut identity (d.accept u) (d'.accept u) where
  root := h.root
  dryRun := h.dryRun
  written := by simp [OutputDirectory.accept, pathOf, h.root, h.written]
  taken := h.taken

/-- A unit of another identity may be offered in both, or is refused for the same reason. -/
theorem offer_cases (h : AgreesBut identity d d') (hu : u.identity ≠ identity) :
    (∃ failure, d.offer u = .error failure ∧ d'.offer u = .error failure) ∨
      d.offer u = .ok (d.take u) ∧ d'.offer u = .ok (d'.take u) := by
  by_cases hs : Separatorless u.identity
  · by_cases ht : u.identity ∈ d.taken
    · have ht' : u.identity ∈ d'.taken := (h.taken _ hu).mpr ht
      refine .inl ⟨.collision u.identity, ?_, ?_⟩
      · rw [offer, if_neg (ne_true_of_eq_false hs), if_pos (by simpa using ht)]
      · rw [offer, if_neg (ne_true_of_eq_false hs), if_pos (by simpa using ht')]
    · have ht' : u.identity ∉ d'.taken := fun hm => ht ((h.taken _ hu).mp hm)
      exact .inr ⟨offer_of_new hs ht, offer_of_new hs ht'⟩
  · have hs' : hasSeparator u.identity.toList = true := by simpa [Separatorless] using hs
    exact .inl ⟨_, if_pos hs', if_pos hs'⟩

/-- They do the same with a unit of another identity. -/
theorem publish (h : AgreesBut identity d d') (hx : x.1.identity ≠ identity) :
    (d'.publish x).1 = (d.publish x).1 ∧
      AgreesBut identity (d.publish x).2 (d'.publish x).2 := by
  rcases h.offer_cases hx with ⟨failure, ho, ho'⟩ | ⟨ho, ho'⟩
  · rw [publish_of_error ho, publish_of_error ho']
    exact ⟨rfl, h⟩
  · rw [publish_of_offer ho, publish_of_offer ho', outcome_congr h.root h.dryRun]
    cases d.outcome x with
    | error reason => exact ⟨rfl, h.take _⟩
    | ok _ => exact ⟨rfl, (h.take _).accept _⟩

/-- They do the same with units of other identities. -/
theorem publishAll (h : AgreesBut identity d d') (hxs : identity ∉ xs.map (·.1.identity)) :
    (d'.publishAll xs).1 = (d.publishAll xs).1 ∧
      AgreesBut identity (d.publishAll xs).2 (d'.publishAll xs).2 := by
  induction xs generalizing d d' with
  | nil => exact ⟨rfl, h⟩
  | cons x xs ih =>
      rw [List.map_cons, List.mem_cons, not_or] at hxs
      obtain ⟨hanswer, hx⟩ := h.publish (Ne.symm hxs.1)
      obtain ⟨hanswers, hall⟩ := ih hx hxs.2
      exact ⟨by rw [OutputDirectory.publishAll, OutputDirectory.publishAll, hanswer, hanswers],
        hall⟩

/-- If the identity is taken in one only, they part at a unit that has it. -/
theorem answers_ne (h : AgreesBut identity d d') (hs : Separatorless identity)
    (hn : identity ∉ d.taken) (ht : identity ∈ d'.taken) (hxs : identity ∈ xs.map (·.1.identity)) :
    (d'.publishAll xs).1 ≠ (d.publishAll xs).1 := by
  induction xs generalizing d d' with
  | nil => exact absurd hxs List.not_mem_nil
  | cons x xs ih =>
      rw [OutputDirectory.publishAll, OutputDirectory.publishAll]
      intro he
      obtain ⟨hhead, htail⟩ := List.cons.inj he
      by_cases hx : x.1.identity = identity
      · -- here the one refuses the identity, and the other does not
        subst hx
        rw [publish_of_taken hs ht, publish_of_offer (offer_of_new hs hn)] at hhead
        cases ho : d.outcome x <;> rw [ho] at hhead <;> cases hhead
      · rw [List.map_cons, List.mem_cons] at hxs
        have hrest := hxs.resolve_left fun e => hx e.symm
        exact ih (h.publish hx).2 (not_mem_taken_publish hn hx) (mem_taken_publish ht) hrest htail

end AgreesBut

/-! ### Units that are refused -/

/-- A unit is refused for its identity, and leaves the directory as it is; or its file cannot be
written, and its identity stays taken. -/
theorem publish_error_cases (h : (d.publish x).1 = .error failure) :
    ((∀ reason, failure ≠ .io reason) ∧ (d.publish x).2 = d) ∨
      ∃ reason, failure = .io reason ∧ d.dryRun = false ∧ Separatorless x.1.identity ∧
        x.1.identity ∉ d.taken ∧ (d.publish x).2 = d.take x.1 := by
  by_cases hs : Separatorless x.1.identity
  · by_cases ht : x.1.identity ∈ d.taken
    · rw [publish_of_taken hs ht] at h ⊢
      cases h
      exact .inl ⟨fun _ he => (by cases he), rfl⟩
    · rw [publish_of_offer (offer_of_new hs ht)] at h ⊢
      cases ho : d.outcome x with
      | ok _ =>
          rw [ho] at h
          cases h
      | error reason =>
          rw [ho] at h
          cases h
          refine .inr ⟨reason, rfl, ?_, hs, ht, rfl⟩
          cases hd : d.dryRun with
          | false => rfl
          | true =>
              rw [outcome, hd] at ho
              cases ho
  · rcases d.offer_cases x.1 with ⟨-, reason, ho⟩ | ⟨-, ho⟩ | ho
    · rw [publish_of_error ho] at h ⊢
      cases h
      exact .inl ⟨fun _ he => (by cases he), rfl⟩
    · rw [publish_of_error ho] at h ⊢
      cases h
      exact .inl ⟨fun _ he => (by cases he), rfl⟩
    · rw [offer, if_pos (by simpa [Separatorless] using hs)] at ho
      cases ho

/-- The two directories give the same answers to the units, and then tell of the same files. -/
def SameLater (d d' : OutputDirectory) (later : List (SourceUnit × Moment)) : Prop :=
  (d'.publishAll later).1 = (d.publishAll later).1 ∧
    (d'.publishAll later).2.written = (d.publishAll later).2.written

/-- **What a refused unit leaves.**  Offer a unit to a directory, whatever was offered to it before
and whatever the file system answers, and let the unit be refused.  If that is for its identity, the
directory is as it was.  If its file cannot be written, which does not happen in a dry run, the
directory tells of the same files as before, but all units of this identity that follow are refused
as offered before, even if their files could be written.  So what follows is as if the refused unit
had not been offered just if it was refused for its identity, or no unit of its identity follows.

A file system with states answers as file systems do at some moments, one for each unit. -/
theorem retrying (h : (d.publish x).1 = .error failure) (later : List (SourceUnit × Moment)) :
    ((∀ reason, failure ≠ .io reason) → (d.publish x).2 = d) ∧
    (∀ reason, failure = .io reason → d.dryRun = false ∧
      (d.publish x).2 = d.take x.1 ∧
      ∀ y ∈ later.zip ((d.publish x).2.publishAll later).1, y.1.1.identity = x.1.identity →
        y.2 = .error (.collision x.1.identity)) ∧
    (SameLater d (d.publish x).2 later ↔
      (∀ reason, failure ≠ .io reason) ∨ x.1.identity ∉ later.map (·.1.identity)) ∧
    ∀ (σ : Type) [FileSystem (StateM σ)] (a b : σ) (calls : Calls) (e e' : OutputDirectory),
      inState.Answers (e, a) calls (e', b) → ∃ xs : List (SourceUnit × Moment),
        xs.map Prod.fst = calls.map Prod.fst ∧ e.publishAll xs = (calls.map Prod.snd, e') := by
  refine ⟨?_, ?_, ?_, fun _ _ _ _ _ _ _ => exists_moments⟩
  all_goals
    rcases publish_error_cases h with ⟨hne, hstay⟩ | ⟨reason, rfl, hd, hs, hn, htake⟩
  · exact fun _ => hstay
  · exact fun hne => absurd rfl (hne reason)
  · exact fun reason he => absurd he (hne reason)
  · refine fun _ _ => ⟨hd, htake, ?_⟩
    rw [htake]
    exact collision_of_taken hs (by simp [take])
  · rw [hstay]
    exact ⟨fun _ => .inl hne, fun _ => ⟨rfl, rfl⟩⟩
  · rw [htake]
    constructor
    · intro hsame
      refine .inr fun hm => ?_
      exact (AgreesBut.of_take d x.1).answers_ne hs hn (by simp [take]) hm hsame.1
    · rintro (hne | hm)
      · exact absurd rfl (hne reason)
      · obtain ⟨hanswers, hafter⟩ := (AgreesBut.of_take d x.1).publishAll hm
        exact ⟨hanswers, hafter.written⟩

/-- The theorem at a unit that is offered again after its file could not be written: it is refused,
though it would be accepted had it not been offered before. -/
theorem retrying_cart :
    let d : OutputDirectory := { root := "out" }
    let u : SourceUnit := ⟨"Shop.Cart.g.cs", "class Cart"⟩
    let full : Moment := .steady (.error "No space left on device")
    let free : Moment := .steady (.ok ())
    (d.publish (u, full)).1 = .error (.io "No space left on device") ∧
      ((d.publish (u, full)).2.publish (u, free)).1 = .error (.collision "Shop.Cart.g.cs") ∧
      (d.publish (u, free)).1 = .ok () ∧
      ¬SameLater d (d.publish (u, full)).2 [(u, free)] := by
  intro d u full free
  have hfull : (d.publish (u, full)).1 = .error (.io "No space left on device") := by
    decide +kernel
  obtain ⟨-, hio, hsame, -⟩ := retrying hfull [(u, free)]
  obtain ⟨-, -, hcollision⟩ := hio _ rfl
  refine ⟨hfull, hcollision ((u, free), _) List.mem_cons_self rfl, by decide +kernel,
    fun hs => ?_⟩
  rcases hsame.mp hs with hne | hm
  · exact hne _ rfl
  · exact hm List.mem_cons_self

end OutputDirectory

end Companion
