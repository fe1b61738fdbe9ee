import Companion.Proofs.Directories.Moments
import Companion.Proofs.Directories.Places
import Companion.Proofs.Templates.ShippedBodies

/-!
# Directories — templates that are loaded

Loading looks for a file of each variant in turn.  It ends with a catalog just if every file that is
there is UTF-8 and makes a template, and otherwise with the fault of the first that is not; nothing
else in the directory counts.

* `Catalog.Loads`: what loading comes to, said variant by variant.
* `Catalog.loads_iff`: loading comes to just that.
* `FileTree.present_iff`: in a tree, a template is there if its path leads to a file.
* `Catalog.Sound` and `Catalog.Built`: every catalog that can be made keeps each template under its
  own variant, with what is read from its body and every token in it.
* `Catalog.loading`: all of this together.
-/

namespace Companion

/-- Bytes are read as a text just if they are its bytes. -/
theorem fromUTF8?_eq_some_iff {bytes : ByteArray} {text : String} :
    String.fromUTF8? bytes = some text ↔ bytes = text.toUTF8 := by
  rw [String.fromUTF8?]
  constructor
  · intro h
    split at h <;> cases h
    rfl
  · rintro rfl
    exact dif_pos text.isValidUTF8

namespace Catalog

variable {base c c' : Catalog} {directory : String} {w w' : Moment} {v : Variant} {t : Template}
  {fault : TemplateFault} {vs : List Variant} {answer : Except TemplateFault Catalog}

/-! ### Loading at a moment -/

/-- The directory has a file for the variant. -/
def Present (w : Moment) (directory : String) (v : Variant) : Prop :=
  w.isPresent directory = true ∧ w.isFile (Path.join directory v.resource) = true

instance (w : Moment) (directory : String) (v : Variant) : Decidable (Present w directory v) :=
  inferInstanceAs (Decidable (_ ∧ _))

/-- The file for the variant is UTF-8 and makes the template. -/
def Holds (w : Moment) (directory : String) (v : Variant) (t : Template) : Prop :=
  ∃ content, w.read (Path.join directory v.resource) = .ok content.toUTF8 ∧
    Template.ofContent v content = .ok t

/-- Why the file for the variant gives no template. -/
inductive Offends (w : Moment) (directory : String) (v : Variant) : TemplateFault → Prop where
  | unread {reason : String} : w.read (Path.join directory v.resource) = .error reason →
      Offends w directory v (.unreadable reason)
  | noText {bytes : ByteArray} : w.read (Path.join directory v.resource) = .ok bytes →
      (∀ text : String, bytes ≠ text.toUTF8) →
      Offends w directory v (.unreadable "stream did not contain valid UTF-8")
  | noTemplate {content : String} {fault : TemplateFault} :
      w.read (Path.join directory v.resource) = .ok content.toUTF8 →
      Template.ofContent v content = .error fault → Offends w directory v fault

/-- What loading templates over a catalog comes to. -/
inductive Loads (base : Catalog) (w : Moment) (directory : String) :
    Except TemplateFault Catalog → Prop where
  /-- Every file that is there makes a template, which takes the place of what the catalog had. -/
  | loaded {c : Catalog} :
      (∀ v, Present w directory v → ∃ t, Holds w directory v t ∧ c.get? v = some t) →
      (∀ v, ¬Present w directory v → c.get? v = base.get? v) → Loads base w directory (.ok c)
  /-- The first file, in the order of variants, that is there and makes none is at fault. -/
  | refused {before after : List Variant} {v : Variant} {fault : TemplateFault} :
      Variant.all = before ++ v :: after →
      (∀ u ∈ before, Present w directory u → ∃ t, Holds w directory u t) →
      Present w directory v → Offends w directory v fault →
      Loads base w directory (.error fault)

theorem ext_get? (h : ∀ v, c.get? v = c'.get? v) : c = c' := by
  obtain ⟨get⟩ := c
  obtain ⟨get'⟩ := c'
  congr 1
  exact funext h

/-- A file gives a template, or there is a reason why it does not. -/
theorem holds_or_offends (w : Moment) (directory : String) (v : Variant) :
    (∃ t, Holds w directory v t) ∨ ∃ fault, Offends w directory v fault := by
  cases hr : w.read (Path.join directory v.resource) with
  | error reason => exact .inr ⟨_, .unread hr⟩
  | ok bytes =>
      cases ht : String.fromUTF8? bytes with
      | none =>
          refine .inr ⟨_, .noText hr fun text he => ?_⟩
          rw [fromUTF8?_eq_some_iff.mpr he] at ht
          cases ht
      | some content =>
          rw [fromUTF8?_eq_some_iff.mp ht] at hr
          cases ho : Template.ofContent v content with
          | error fault => exact .inr ⟨_, .noTemplate hr ho⟩
          | ok t => exact .inl ⟨t, content, hr, ho⟩

theorem Holds.variant (h : Holds w directory v t) : t.variant = v := by
  obtain ⟨content, -, ho⟩ := h
  rw [(Template.ofContent_eq_ok_iff.mp ho).1]

/-! ### One variant -/

theorem run_readText_of_ok {path text : String} (h : w.read path = .ok text.toUTF8) :
    (FileSystem.readText path : StateM Moment _).run w = (.ok text, w) := by
  have hread : (FileSystem.read path : StateM Moment _).run w = (.ok text.toUTF8, w) :=
    congrArg (·, w) h
  rw [FileSystem.readText, Sink.run_bind, hread]
  dsimp only
  rw [fromUTF8?_eq_some_iff.mpr rfl]
  rfl

theorem run_readText_of_error {path reason : String} (h : w.read path = .error reason) :
    (FileSystem.readText path : StateM Moment _).run w = (.error reason, w) := by
  have hread : (FileSystem.read path : StateM Moment _).run w = (.error reason, w) :=
    congrArg (·, w) h
  rw [FileSystem.readText, Sink.run_bind, hread]
  rfl

theorem run_readText_of_noText {path : String} {bytes : ByteArray} (h : w.read path = .ok bytes)
    (hn : ∀ text : String, bytes ≠ text.toUTF8) :
    (FileSystem.readText path : StateM Moment _).run w =
      (.error "stream did not contain valid UTF-8", w) := by
  have hread : (FileSystem.read path : StateM Moment _).run w = (.ok bytes, w) :=
    congrArg (·, w) h
  have hnone : String.fromUTF8? bytes = none :=
    Option.eq_none_iff_forall_ne_some.mpr fun text he => hn text (fromUTF8?_eq_some_iff.mp he)
  rw [FileSystem.readText, Sink.run_bind, hread]
  dsimp only
  rw [hnone]
  rfl

theorem run_loadVariant_of_absent (h : w.isFile (Path.join directory v.resource) = false)
    (c : Catalog) : (loadVariant directory c v : StateM Moment _).run w = (.ok c, w) := by
  have hfile : (FileSystem.isFile (Path.join directory v.resource) : StateM Moment _).run w =
    (false, w) := congrArg (·, w) h
  rw [loadVariant, Sink.run_bind, hfile]
  rfl

theorem run_loadVariant (h : w.isFile (Path.join directory v.resource) = true) (c : Catalog) :
    (loadVariant directory c v : StateM Moment _).run w =
      StateT.run (do
        match ← FileSystem.readText (Path.join directory v.resource) with
        | .error reason => pure (.error (.unreadable reason))
        | .ok content =>
          match Template.ofContent v content with
          | .error fault => pure (.error fault)
          | .ok t => pure (.ok (c.insert t))) w := by
  have hfile : (FileSystem.isFile (Path.join directory v.resource) : StateM Moment _).run w =
    (true, w) := congrArg (·, w) h
  rw [loadVariant, Sink.run_bind, hfile]
  rfl

theorem Holds.run_loadVariant (h : Holds w directory v t)
    (hf : w.isFile (Path.join directory v.resource) = true) (c : Catalog) :
    (loadVariant directory c v : StateM Moment _).run w = (.ok (c.insert t), w) := by
  obtain ⟨content, hr, ho⟩ := h
  rw [Catalog.run_loadVariant hf, Sink.run_bind, run_readText_of_ok hr]
  dsimp only
  rw [ho]
  rfl

theorem Offends.run_loadVariant (h : Offends w directory v fault)
    (hf : w.isFile (Path.join directory v.resource) = true) (c : Catalog) :
    (loadVariant directory c v : StateM Moment _).run w = (.error fault, w) := by
  rw [Catalog.run_loadVariant hf, Sink.run_bind]
  cases h with
  | unread hr =>
      rw [run_readText_of_error hr]
      rfl
  | noText hr hn =>
      rw [run_readText_of_noText hr hn]
      rfl
  | noTemplate hr ho =>
      rw [run_readText_of_ok hr]
      dsimp only
      rw [ho]
      rfl

theorem Holds.not_offends (h : Holds w directory v t) : ¬Offends w directory v fault := fun ho => by
  -- what one file says, read as a text, is one text
  obtain ⟨content, hr, hok⟩ := h
  cases ho with
  | unread hr' =>
      rw [hr] at hr'
      cases hr'
  | noText hr' hn =>
      rw [hr] at hr'
      exact hn content (Except.ok.inj hr').symm
  | @noTemplate content' _ hr' he =>
      rw [hr] at hr'
      have hc := String.toByteArray_inj.mp (Except.ok.inj hr')
      rw [← hc, hok] at he
      cases he

/-! ### All variants -/

/-- The catalog is what loading these variants comes to. -/
structure LoadedFrom (base : Catalog) (w : Moment) (directory : String) (vs : List Variant)
    (c : Catalog) : Prop where
  /-- The templates that are there are in their places. -/
  held : ∀ v ∈ vs, Present w directory v → ∃ t, Holds w directory v t ∧ c.get? v = some t
  /-- All else is as it was. -/
  kept : ∀ v, (v ∈ vs → ¬Present w directory v) → c.get? v = base.get? v

namespace LoadedFrom

theorem nil (base : Catalog) (w : Moment) (directory : String) :
    LoadedFrom base w directory [] base where
  held := nofun
  kept _ _ := rfl

theorem absent (h : LoadedFrom base w directory vs c) (hv : ¬Present w directory v) :
    LoadedFrom base w directory (vs ++ [v]) c where
  held u hu hp := by
    rcases List.mem_append.mp hu with hu | hu
    · exact h.held u hu hp
    · rw [List.mem_singleton.mp hu] at hp
      exact absurd hp hv
  kept u hu := h.kept u fun hm => hu (List.mem_append_left _ hm)

theorem insert (h : LoadedFrom base w directory vs c) (hp : Present w directory v)
    (ht : Holds w directory v t) : LoadedFrom base w directory (vs ++ [v]) (c.insert t) where
  held u hu hp' := by
    rw [get?_insert, ht.variant]
    by_cases hv : u = v
    · subst hv
      exact ⟨t, ht, if_pos rfl⟩
    · rw [if_neg hv]
      have hu' := (List.mem_append.mp hu).resolve_right fun e => hv (List.mem_singleton.mp e)
      exact h.held u hu' hp'
  kept u hu := by
    have hv : u ≠ v := fun e => hu (by simp [e]) (e ▸ hp)
    rw [get?_insert, ht.variant, if_neg hv]
    exact h.kept u fun hm => hu (List.mem_append_left _ hm)

/-- Loading the variants that are left comes to what loading all of them does. -/
theorem run_loadVariants (hd : w.isPresent directory = true) :
    ∀ {before after : List Variant} {c : Catalog}, Variant.all = before ++ after →
      LoadedFrom base w directory before c →
      ∃ answer, (loadVariants directory c after : StateM Moment _).run w = (answer, w) ∧
        Loads base w directory answer
  | before, [], c, hsplit, h => by
      rw [List.append_nil] at hsplit
      refine ⟨.ok c, rfl, .loaded (fun v hp => ?_) fun v hp => h.kept v fun _ => hp⟩
      exact h.held v (hsplit ▸ v.mem_all) hp
  | before, v :: after, c, hsplit, h => by
      have hsplit' : Variant.all = (before ++ [v]) ++ after := by simpa using hsplit
      rw [loadVariants, Sink.run_bind]
      by_cases hf : w.isFile (Path.join directory v.resource) = true
      · rcases holds_or_offends w directory v with ⟨t, ht⟩ | ⟨fault, ho⟩
        · rw [ht.run_loadVariant hf]
          exact run_loadVariants hd hsplit' (h.insert ⟨hd, hf⟩ ht)
        · rw [ho.run_loadVariant hf]
          refine ⟨.error fault, rfl, .refused hsplit (fun u hu hp => ?_) ⟨hd, hf⟩ ho⟩
          obtain ⟨t, ht, -⟩ := h.held u hu hp
          exact ⟨t, ht⟩
      · rw [run_loadVariant_of_absent (Bool.not_eq_true _ ▸ hf)]
        exact run_loadVariants hd hsplit' (h.absent fun hp => hf hp.2)

end LoadedFrom

theorem run_load (base : Catalog) (w : Moment) (directory : String) :
    ∃ answer, (base.load directory : StateM Moment _).run w = (answer, w) ∧
      Loads base w directory answer := by
  rw [load, Sink.run_bind]
  by_cases hd : w.isPresent directory = true
  · have hpresent : (FileSystem.isPresent directory : StateM Moment _).run w = (true, w) :=
      congrArg (·, w) hd
    rw [hpresent]
    exact LoadedFrom.run_loadVariants hd rfl (.nil base w directory)
  · have hpresent : (FileSystem.isPresent directory : StateM Moment _).run w = (false, w) :=
      congrArg (·, w) (Bool.not_eq_true _ ▸ hd)
    rw [hpresent]
    exact ⟨.ok base, rfl, .loaded (fun v hp => absurd hp.1 hd) fun _ _ => rfl⟩

theorem Holds.unique {t' : Template} (h : Holds w directory v t) (h' : Holds w directory v t') :
    t = t' := by
  obtain ⟨content, hr, ho⟩ := h
  obtain ⟨content', hr', ho'⟩ := h'
  rw [hr] at hr'
  rw [String.toByteArray_inj.mp (Except.ok.inj hr'), ho'] at ho
  exact (Except.ok.inj ho).symm

theorem Offends.unique {fault' : TemplateFault} (h : Offends w directory v fault)
    (h' : Offends w directory v fault') (hf : w.isFile (Path.join directory v.resource) = true) :
    fault = fault' := by
  have hrun := (h.run_loadVariant hf empty).symm.trans (h'.run_loadVariant hf empty)
  exact Except.error.inj (Prod.mk.inj hrun).1

open Classical in
/-- The variant at fault is the first whose file is there and gives no template. -/
theorem find?_eq_some_of_offends {before after : List Variant}
    (hsplit : Variant.all = before ++ v :: after)
    (hfirst : ∀ u ∈ before, Present w directory u → ∃ t, Holds w directory u t)
    (hp : Present w directory v) (ho : Offends w directory v fault) :
    Variant.all.find? (fun u => Present w directory u ∧ ¬∃ t, Holds w directory u t) = some v := by
  refine List.find?_eq_some_iff_append.mpr ⟨?_, before, after, hsplit, fun u hu => ?_⟩
  · exact decide_eq_true ⟨hp, fun ⟨_, ht⟩ => ht.not_offends ho⟩
  · simpa [Decidable.imp_iff_not_or] using hfirst u hu

/-- Loading comes to one thing. -/
theorem Loads.unique {answer' : Except TemplateFault Catalog} (h : Loads base w directory answer)
    (h' : Loads base w directory answer') : answer = answer' := by
  cases h with
  | loaded hheld hkept =>
      cases h' with
      | loaded hheld' hkept' =>
          refine congrArg Except.ok (ext_get? fun v => ?_)
          by_cases hp : Present w directory v
          · obtain ⟨t, ht, hc⟩ := hheld v hp
            obtain ⟨t', ht', hc'⟩ := hheld' v hp
            rw [hc, hc', ht.unique ht']
          · rw [hkept v hp, hkept' v hp]
      | refused _ _ hp ho =>
          obtain ⟨t, ht, -⟩ := hheld _ hp
          exact absurd ho ht.not_offends
  | refused hsplit hfirst hp ho =>
      cases h' with
      | loaded hheld' _ =>
          obtain ⟨t, ht, -⟩ := hheld' _ hp
          exact absurd ho ht.not_offends
      | refused hsplit' hfirst' hp' ho' =>
          have hv := find?_eq_some_of_offends hsplit hfirst hp ho
          rw [find?_eq_some_of_offends hsplit' hfirst' hp' ho'] at hv
          cases hv
          rw [ho.unique ho' hp.2]

/-- **What loading comes to.** -/
theorem loads_iff :
    ((base.load directory : StateM Moment _).run w).1 = answer ↔ Loads base w directory answer := by
  obtain ⟨answer', hrun, hloads⟩ := base.run_load w directory
  rw [hrun]
  exact ⟨fun h => h ▸ hloads, hloads.unique⟩

/-- Loading ends with a catalog just if every file that is there makes a template. -/
theorem exists_load_iff :
    (∃ c, ((base.load directory : StateM Moment _).run w).1 = .ok c) ↔
      ∀ v, Present w directory v → ∃ t, Holds w directory v t := by
  obtain ⟨answer, hrun, hloads⟩ := base.run_load w directory
  rw [hrun]
  cases hloads with
  | loaded hheld _ =>
      refine ⟨fun _ v hp => ?_, fun _ => ⟨_, rfl⟩⟩
      obtain ⟨t, ht, -⟩ := hheld v hp
      exact ⟨t, ht⟩
  | refused _ _ hp ho =>
      refine ⟨fun ⟨c, hc⟩ => (nomatch hc), fun hall => ?_⟩
      obtain ⟨t, ht⟩ := hall _ hp
      exact absurd ho ht.not_offends

/-! ### What does not count -/

/-- The moments agree on the directory, and on the files of the variants in it. -/
structure SameFiles (directory : String) (w w' : Moment) : Prop where
  /-- The directory is there in both, or in none. -/
  isPresent : w'.isPresent directory = w.isPresent directory
  /-- A variant has a file in both, or in none. -/
  isFile : ∀ v : Variant,
    w'.isFile (Path.join directory v.resource) = w.isFile (Path.join directory v.resource)
  /-- The file is the same. -/
  read : ∀ v : Variant,
    w'.read (Path.join directory v.resource) = w.read (Path.join directory v.resource)

/-- Other files do not count. -/
theorem SameFiles.run_load (h : SameFiles directory w w') (base : Catalog) :
    ((base.load directory : StateM Moment _).run w').1 =
      ((base.load directory : StateM Moment _).run w).1 := by
  have hpresent : Present w' directory = Present w directory := by
    funext v
    rw [Present, Present, h.isPresent, h.isFile]
  have hholds : Holds w' directory = Holds w directory := by
    funext v t
    rw [Holds, Holds, h.read]
  have hoffends : ∀ v fault, Offends w directory v fault → Offends w' directory v fault := by
    intro v fault ho
    cases ho with
    | unread hr => exact .unread ((h.read v).trans hr)
    | noText hr hn => exact .noText ((h.read v).trans hr) hn
    | noTemplate hr ho => exact .noTemplate ((h.read v).trans hr) ho
  obtain ⟨answer, hrun, hloads⟩ := base.run_load w directory
  rw [hrun]
  refine loads_iff.mpr ?_
  cases hloads with
  | loaded hheld hkept =>
      rw [← hpresent] at hheld hkept
      rw [← hholds] at hheld
      exact .loaded hheld hkept
  | refused hsplit hfirst hp ho =>
      rw [← hpresent] at hfirst hp
      rw [← hholds] at hfirst
      exact .refused hsplit hfirst hp (hoffends _ _ ho)

/-! ### Catalogs that can be made -/

/-- Every template stands under its own variant, holds what is read from its body, and has every
token in it. -/
def Sound (c : Catalog) : Prop :=
  ∀ v t, c.get? v = some t →
    t.variant = v ∧ t.body = parse t.content ∧ ∀ p : Placeholder, Occurs p.token t.content

theorem sound_empty : Sound empty := nofun

theorem Sound.insert {content : String} (h : Sound c) (ht : Template.ofContent v content = .ok t) :
    Sound (c.insert t) := by
  obtain ⟨rfl, hall⟩ := Template.ofContent_eq_ok_iff.mp ht
  intro u t' hu
  rw [get?_insert] at hu
  split at hu
  · rename_i he
    cases hu
    exact ⟨he.symm, rfl, hall⟩
  · exact h u t' hu

theorem sound_shipped : Sound shipped := by
  intro v t ht
  rw [Shipped.get?_shipped] at ht
  cases ht
  exact ⟨rfl, rfl, Shipped.occurs_token v⟩

/-- Catalogs that are made step by step, whatever the file systems answer that templates are loaded
from. -/
inductive Built : Catalog → Prop where
  | empty : Built .empty
  | shipped : Built .shipped
  | load {σ : Type} [FileSystem (StateM σ)] {a : σ} {base c : Catalog} {directory : String} :
      Built base → ((base.load directory : StateM σ _).run a).1 = .ok c → Built c
  | insert {c : Catalog} {v : Variant} {content : String} {t : Template} :
      Built c → Template.ofContent v content = .ok t → Built (c.insert t)

section

variable {σ : Type} [FileSystem (StateM σ)] {a : σ}

/-- A variant that is loaded leaves the catalog, or adds a template that was made of a text. -/
theorem loadVariant_eq_ok (h : ((loadVariant directory c v : StateM σ _).run a).1 = .ok c') :
    c' = c ∨ ∃ content t, Template.ofContent v content = .ok t ∧ c' = c.insert t := by
  rw [loadVariant, Sink.run_bind] at h
  generalize (FileSystem.isFile (Path.join directory v.resource) : StateM σ Bool).run a = found at h
  obtain ⟨_ | _, b⟩ := found
  · exact .inl (Except.ok.inj h).symm
  · rw [if_pos rfl, Sink.run_bind] at h
    generalize (FileSystem.readText (Path.join directory v.resource) : StateM σ _).run b = text at h
    obtain ⟨reason | content, b'⟩ := text
    · cases h
    · dsimp only at h
      cases ho : Template.ofContent v content with
      | error fault =>
          rw [ho] at h
          cases h
      | ok t =>
          rw [ho] at h
          exact .inr ⟨content, t, ho, (Except.ok.inj h).symm⟩

theorem Sound.loadVariants (h : Sound c)
    (hl : ((loadVariants directory c vs : StateM σ _).run a).1 = .ok c') : Sound c' := by
  induction vs generalizing c a with
  | nil =>
      cases hl
      exact h
  | cons v vs ih =>
      rw [Catalog.loadVariants, Sink.run_bind] at hl
      cases hv : ((loadVariant directory c v : StateM σ _).run a).1 with
      | error fault =>
          rw [hv] at hl
          cases hl
      | ok c'' =>
          rw [hv] at hl
          rcases loadVariant_eq_ok hv with rfl | ⟨content, t, ho, rfl⟩
          · exact ih h hl
          · exact ih (h.insert ho) hl

theorem Sound.load (h : Sound c)
    (hl : ((c.load directory : StateM σ _).run a).1 = .ok c') : Sound c' := by
  rw [Catalog.load, Sink.run_bind] at hl
  generalize (FileSystem.isPresent directory : StateM σ Bool).run a = found at hl
  obtain ⟨_ | _, b⟩ := found
  · cases hl
    exact h
  · exact h.loadVariants hl

end

theorem Built.sound (h : Built c) : Sound c := by
  induction h with
  | empty => exact sound_empty
  | shipped => exact sound_shipped
  | load _ hl ih => exact ih.load hl
  | insert _ ht ih => exact ih.insert ht

end Catalog

/-! ### Trees -/

namespace FileTree

variable {tree : FileTree} {p q : Place} {l : List String} {name : String}

theorem run_load (tree : FileTree) (base : Catalog) (directory : String) :
    ((base.load directory : StateM FileTree _).run tree).1 =
        ((base.load directory : StateM Moment _).run tree.moment).1 ∧
      ((base.load directory : StateM FileTree _).run tree).2 = tree := by
  have hrun := (reads_moment.load base directory tree).1
  exact ⟨congrArg Prod.fst hrun, congrArg Prod.snd hrun⟩

/-- The name of a member leads on only if that is a directory. -/
theorem follow_member_cons {target : Target} (hn : IsMember name) {x : String}
    (h : tree.follow p (name :: x :: l) = some target) (l' : List String) :
    tree.follow p (name :: l') = tree.follow (p ++ [name]) l' := by
  have hstay : ¬(name == "" || name == ".") = true := by simp [hn.ne_empty, hn.ne_dot]
  have hup : ¬(name == "..") = true := by simp [hn.ne_dots]
  rw [follow, if_neg hstay, if_neg hup] at h ⊢
  split at h
  · cases h
  · rename_i hname
    dsimp only at h ⊢
    rw [if_neg hname]
    split at h
    · rename_i hdir
      rw [if_pos hdir]
    · split at h
      · rename_i heq
        cases heq
      · rename_i heq
        cases heq
      · cases h

/-- What stands before the name of a file leads to a directory. -/
theorem exists_directory_of_file {bytes : ByteArray}
    (h : tree.follow p (l ++ [name]) = some (.file q bytes)) :
    ∃ d, ∀ l', tree.follow p (l ++ l') = tree.follow d l' := by
  induction l generalizing p with
  | nil => exact ⟨p, fun _ => rfl⟩
  | cons x l ih =>
      rcases stay_or_up_or_member x with hx | rfl | hx
      · rw [List.cons_append, follow_stay hx] at h
        obtain ⟨d, hd⟩ := ih h
        exact ⟨d, fun l' => by rw [List.cons_append, follow_stay hx, hd]⟩
      · obtain ⟨d, hd⟩ := ih h
        exact ⟨d, hd⟩
      · obtain ⟨y, m, hm⟩ := List.exists_cons_of_ne_nil (List.append_ne_nil_of_right_ne_nil l
          (List.cons_ne_nil name []))
        rw [List.cons_append, hm] at h
        have hlead := follow_member_cons hx h
        rw [hlead, ← hm] at h
        obtain ⟨d, hd⟩ := ih h
        exact ⟨d, fun l' => by rw [List.cons_append, hlead, hd]⟩

theorem isPath_of_append {path rest : String} (hne : path ≠ "") (h : isPath (path ++ rest) = true) :
    isPath path = true := by
  simp only [isPath, Bool.and_eq_true, decide_eq_true_eq, String.utf8ByteSize_append,
    String.toList_append, Bool.not_eq_true', List.contains_eq_mem, decide_eq_false_iff_not,
    List.mem_append, not_or] at h ⊢
  exact ⟨⟨by simp [hne], by omega⟩, h.2.1⟩

/-- Where there is a file in a directory, there is the directory. -/
theorem isPresent_of_isFile_join {directory member : String} (hne : directory ≠ "")
    (hm : '/' ∉ member.toList) (h : tree.isFile (Path.join directory member) = true) :
    tree.isPresent directory = true := by
  obtain ⟨rest, hrest⟩ : ∃ rest, Path.join directory member = directory ++ rest := by
    rw [Path.join]
    split
    · exact ⟨_, rfl⟩
    · exact ⟨_, rfl⟩
    · exact ⟨_, String.append_assoc⟩
  obtain ⟨l, hl, hd⟩ := Path.names_join directory hm
  rw [isFile, target?, origin_join hm, hl] at h
  by_cases hp : isPath (Path.join directory member) = true
  · rw [if_pos hp] at h
    cases hf : tree.follow (tree.origin directory) (l ++ [member]) with
    | none => simp [hf] at h
    | some target =>
        cases target with
        | directory | absent => simp [hf] at h
        | file q bytes =>
            obtain ⟨d, hlead⟩ := exists_directory_of_file hf
            have htarget : tree.target? directory = some (.directory d) := by
              rw [target?, if_pos (isPath_of_append hne (hrest ▸ hp))]
              rcases hd with hd | hd
              · rw [hd, ← List.append_nil l, hlead]
                rfl
              · rw [hd, hlead]
                rfl
            rw [isPresent, htarget]
  · rw [if_neg hp] at h
    cases h

end FileTree

theorem Variant.slash_not_mem_resource (v : Variant) : '/' ∉ v.resource.toList := by
  obtain ⟨_ | _, _ | _⟩ := v <;> decide

/-- In a tree, a template is there if its path leads to a file. -/
theorem FileTree.present_iff {tree : FileTree} {directory : String} {v : Variant}
    (hne : directory ≠ "") :
    Catalog.Present tree.moment directory v ↔
      tree.isFile (Path.join directory v.resource) = true :=
  ⟨And.right, fun h => ⟨isPresent_of_isFile_join hne v.slash_not_mem_resource h, h⟩⟩

namespace Catalog

/-- **Templates that are loaded.**  Loading templates from a directory over a catalog, at a moment
of a file system, ends with a catalog just if each file of a variant that is there holds UTF-8 text
that makes a template.  The variants that have files then have these templates, and the others what
they had: nothing over the empty catalog, the shipped templates over those.  Otherwise loading ends
with the fault of the first variant, in their order, whose file makes none.  Other files do not
count.  In a tree loading does what it does at the tree's moment; and there the file of a variant
counts if its path leads to a file, unless the directory's path is empty, which leads nowhere.

A catalog that is made by loading, from whatever file systems, and by adding templates that were
made of texts, over the empty catalog or the shipped templates, holds each template under its own
variant, with what is read from its body, and with every token in the body. -/
theorem loading (directory : String) :
    (∀ (w : Moment) (base : Catalog) (answer : Except TemplateFault Catalog),
      ((base.load directory : StateM Moment _).run w).1 = answer ↔
        Loads base w directory answer) ∧
    (∀ (w : Moment) (base : Catalog),
      (∃ c, ((base.load directory : StateM Moment _).run w).1 = .ok c) ↔
        ∀ v, Present w directory v → ∃ t, Holds w directory v t) ∧
    (∀ (w : Moment) (c : Catalog) (v : Variant), ¬Present w directory v →
      (((empty.load directory : StateM Moment _).run w).1 = .ok c → c.get? v = none) ∧
      (((shippedWith (some directory) : StateM Moment _).run w).1 = .ok c →
        c.get? v = some (Shipped.template v))) ∧
    (∀ (w w' : Moment) (base : Catalog), SameFiles directory w w' →
      ((base.load directory : StateM Moment _).run w').1 =
        ((base.load directory : StateM Moment _).run w).1) ∧
    (∀ (tree : FileTree) (base : Catalog),
      ((base.load directory : StateM FileTree _).run tree).1 =
        ((base.load directory : StateM Moment _).run tree.moment).1 ∧
      ((base.load directory : StateM FileTree _).run tree).2 = tree ∧
      (directory ≠ "" → ∀ v, Present tree.moment directory v ↔
        tree.isFile (Path.join directory v.resource) = true)) ∧
    ∀ c, Built c → Sound c := by
  refine ⟨fun _ _ _ => loads_iff, fun _ _ => exists_load_iff, fun w c v hp => ⟨fun h => ?_,
    fun h => ?_⟩, fun _ _ base h => h.run_load base, fun tree base =>
    ⟨(tree.run_load base directory).1, (tree.run_load base directory).2,
      fun hne _ => FileTree.present_iff hne⟩, fun _ => Built.sound⟩
  · cases loads_iff.mp h with
    | loaded _ hkept => exact hkept v hp
  · cases loads_iff.mp h with
    | loaded _ hkept => exact (hkept v hp).trans (Shipped.get?_shipped v)

/-! ### A small example -/

/-- A body that is no more than the tokens. -/
def tokensOnly : String := unparse (Placeholder.all.map .hole)

/-- A tree with a template for lists, and a file of another name beside it. -/
def ofLists : FileTree where
  directories := [["t"]]
  files := [(["t", "List.Default.txt"], tokensOnly.toUTF8), (["t", "List.txt"], "".toUTF8)]

/-- The theorem at this tree, which gives the template for lists and no other; and at the tree with
an empty file for read-only lists, which is at fault. -/
theorem loading_lists :
    (∃ c, ((empty.load "t" : StateM FileTree _).run ofLists).1 = .ok c ∧
      c.get? ⟨.list, .autoBacked⟩ = some ⟨⟨.list, .autoBacked⟩, tokensOnly, parse tokensOnly⟩ ∧
      c.get? ⟨.list, .userBacked⟩ = none) ∧
    ((shipped.load "t" : StateM FileTree _).run
      (ofLists.put ["t", "ReadOnlyList.Default.txt"] "".toUTF8)).1 =
        .error (.empty "ReadOnlyList.Default.txt") := by
  obtain ⟨hloads, hexists, habsent, -, htree, -⟩ := loading "t"
  have hpresent : ∀ v, Present ofLists.moment "t" v ↔ v = ⟨.list, .autoBacked⟩ := by
    rintro ⟨_ | _, _ | _⟩ <;> decide +kernel
  have hholds : Holds ofLists.moment "t" ⟨.list, .autoBacked⟩
      ⟨⟨.list, .autoBacked⟩, tokensOnly, parse tokensOnly⟩ := by
    refine ⟨tokensOnly, by decide +kernel, Template.ofContent_eq_ok_iff.mpr ⟨rfl, fun p => ?_⟩⟩
    exact infix_unparse_of_mem (List.mem_map_of_mem p.mem_all)
  have hempty : Template.ofContent ⟨.readOnlyList, .autoBacked⟩ "" =
    .error (.empty "ReadOnlyList.Default.txt") := ((validation _ _).2.1 _).mpr (.inl ⟨rfl, rfl⟩)
  constructor
  · obtain ⟨c, hc⟩ := (hexists ofLists.moment empty).mpr fun v hp =>
      ⟨_, ((hpresent v).mp hp) ▸ hholds⟩
    refine ⟨c, (htree ofLists empty).1.trans hc, ?_, (habsent _ c _ fun hp => ?_).1 hc⟩
    · cases (hloads _ _ _).mp hc with
      | loaded hheld _ =>
          obtain ⟨t, ht, hget⟩ := hheld ⟨.list, .autoBacked⟩ ((hpresent _).mpr rfl)
          rw [hget, ht.unique hholds]
    · cases (hpresent _).mp hp
  · refine (htree _ shipped).1.trans ?_
    have hsplit : Variant.all = [] ++ ⟨.readOnlyList, .autoBacked⟩ :: Variant.all.tail := rfl
    refine (hloads _ _ _).mpr (.refused hsplit nofun ?_ (.noTemplate ?_ hempty)) <;>
      decide +kernel

end Catalog

end Companion
