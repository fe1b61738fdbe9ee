import Companion.Generators
import Companion.Proofs.Memo.Soundness
import Companion.Proofs.Passes.Publication

/-!
# Passes — identities without separators

An identity is put together from a namespace, the name of a class and a suffix.  Namespaces that are
made up have hexadecimal digits in them, and the suffix is checked with the settings.  So an
identity holds a path separator only if a name or a namespace of the snapshot does.

* `TokenPolicy.separatorless_token`: tokens hold no separator.
* `Generator.separatorless_announced`: the identities of a generator without memories.
-/

namespace Companion

variable {text other : String}

/-- The text holds no path separator. -/
def Separatorless (text : String) : Prop := hasSeparator text.toList = false

instance : Decidable (Separatorless text) :=
  inferInstanceAs (Decidable (hasSeparator text.toList = false))

/-- No name and no namespace of a declaration holds a path separator. -/
def Snapshot.Separatorless (s : Snapshot) : Prop :=
  ∀ d ∈ s.declarations,
    Companion.Separatorless d.name ∧ Companion.Separatorless (d.namespace.getD "")

theorem Separatorless.slash_not_mem (h : Separatorless text) : '/' ∉ text.toList := fun hm => by
  have hany : hasSeparator text.toList = true := List.any_eq_true.mpr ⟨'/', hm, by decide⟩
  rw [h] at hany
  cases hany

theorem Separatorless.append (h : Separatorless text) (h' : Separatorless other) :
    Separatorless (text ++ other) := by
  rw [Separatorless, String.toList_append, hasSeparator, List.any_append]
  exact Bool.or_eq_false_iff.mpr ⟨h, h'⟩

/-! ### Tokens -/

theorem hasSeparator_hexDigits (width n : Nat) : hasSeparator (Text.hexDigits width n) = false := by
  induction width generalizing n with
  | zero => rfl
  | succ width ih =>
      have hdigit : ∀ k < 16, hasSeparator [Text.hexDigit k] = false := by decide
      rw [Text.hexDigits, hasSeparator, List.any_append]
      exact Bool.or_eq_false_iff.mpr ⟨ih _, hdigit _ (Nat.mod_lt n (by decide))⟩

theorem separatorless_hex (width n : Nat) : Separatorless (Text.hex width n) := by
  rw [Separatorless, Text.hex, String.toList_ofList]
  exact hasSeparator_hexDigits width n

/-- Random tokens that hold no separator. -/
def RandomTokens.Separatorless (random : RandomTokens) : Prop :=
  ∀ a i, Companion.Separatorless (random a i)

/-- Whatever the policy, tokens hold no separator, if random ones do not. -/
theorem TokenPolicy.separatorless_token (policy : TokenPolicy) {stream : Nat → String}
    (h : ∀ i, Separatorless (stream i)) (i : Nat) :
    Separatorless ((policy.source stream).token i) := by
  cases policy with
  | random => exact h i
  | sequential => exact separatorless_hex 32 _

/-! ### Identities -/

theorem Settings.separatorless_identitySuffix {settings : Settings}
    (h : settings.validate = .ok ()) : Separatorless settings.identitySuffix := by
  rw [validate] at h
  split at h
  · cases h
  · split at h
    · cases h
    · rename_i hsuffix
      exact Bool.eq_false_iff.mpr hsuffix

theorem Annotation.separatorless_definitionIdentity :
    ∀ a ∈ all, Separatorless (SourceUnit.definitionIdentity a.name) := by
  decide +kernel

namespace Generator

variable {g : Generator} {s : Snapshot}

/-- The name and the namespace of a class that a unit is prepared for are those of a declaration. -/
theorem separatorless_key {r : Ready} (hs : s.Separatorless) (hr : r ∈ g.prepared s) :
    Separatorless r.key.name ∧ Separatorless r.key.namespace := by
  obtain ⟨x, hx, hready⟩ := List.mem_filterMap.mp hr
  obtain ⟨hc, hasked⟩ := eq_asked_of_mem_requests (mem_requests_of_mem_plans hx)
  obtain ⟨d, hd, hcandidate⟩ := List.mem_map.mp hc
  rw [key_of_readyOf? hready, hasked, ← hcandidate]
  exact hs d (List.mem_of_mem_filter hd)

/-- The identities of a generator that remembers nothing hold no separator, unless a name or a
namespace of the snapshot does. -/
theorem separatorless_announced (hmemo : g.memo = {}) (hmarker : g.marker ∈ Annotation.all)
    (hsettings : g.settings.validate = .ok ()) (htokens : ∀ i, Separatorless (g.tokens.token i))
    (hs : s.Separatorless) : ∀ u ∈ g.announced s, Separatorless u.identity := by
  intro u hu
  rcases List.mem_cons.mp hu with rfl | hu
  · exact Annotation.separatorless_definitionIdentity _ hmarker
  · obtain ⟨r, hr, rfl⟩ := List.mem_map.mp hu
    obtain ⟨hname, hnamespace⟩ := separatorless_key hs hr
    have hsound : g.Sound [] := sound_of_memo_eq hmemo
    obtain ⟨-, scope, t, hscope, -, hunit⟩ := hsound.gives_prepared hr
    have hsep : Separatorless scope := by
      by_cases hk : r.key.namespace = ""
      · obtain ⟨token, htoken, rfl⟩ := (if_pos hk).mp hscope
        rw [List.nil_append] at htoken
        obtain ⟨i, -, -, rfl⟩ := TokenSource.mem_drawnUntil_iff.mp htoken
        exact .append (by decide +kernel) (htokens i)
      · rw [(if_neg hk).mp hscope]
        exact hnamespace
    rw [hunit]
    exact ((hsep.append (by decide +kernel)).append hname).append
      (Settings.separatorless_identitySuffix hsettings)

end Generator

end Companion
