import Companion.Proofs.Settings.Grammar
import Companion.Proofs.Settings.Keys
import Companion.Settings.Environment
import Companion.Settings.Value

/-!
# Settings — texts of variables

The text of a variable is taken for a truth value or a number if it reads as one, and where a text
is asked for, that value is written as a text again.  So a text comes through as it stands unless it
is a truth value in other letters than small ones, or is written like a number.

* `Numeral` and `Signed`: how numbers are written.
* `Environment.value_cases`: what a text is taken for.
* `Environment.carried`: the text that is read from a variable.
* `Environment.typed_of_altered`: the texts that do not come through as they stand.
* `Environment.given?_settings`: the value of a variable is what its text is taken for.
-/

namespace Companion

open Text Parser

variable {P : List Char → Prop} {c : Char} {cs rest ds es : List Char} {minus : Bool}
  {text name mark : String}

/-! ### Numbers in texts -/

/-- The characters are digits. -/
def AreDigits (cs : List Char) : Prop := ∀ c ∈ cs, c.isDigit = true

/-- After a sign, or without one. -/
inductive Signed (P : List Char → Prop) : List Char → Prop where
  /-- There is no sign. -/
  | bare {cs : List Char} : P cs → Signed P cs
  /-- There is a plus. -/
  | plus {cs : List Char} : P cs → Signed P ('+' :: cs)
  /-- There is a minus. -/
  | minus {cs : List Char} : P cs → Signed P ('-' :: cs)

/-- One digit or more, with a point among them or none. -/
inductive Positional : List Char → Prop where
  /-- Without a point. -/
  | whole {ds : List Char} : AreDigits ds → ds ≠ [] → Positional ds
  /-- With a point. -/
  | pointed {ds es : List Char} : AreDigits ds → AreDigits es → ds ++ es ≠ [] →
      Positional (ds ++ '.' :: es)

/-- A number without a sign: digits, digits with an exponent, or a name. -/
inductive Numeral : List Char → Prop where
  /-- Without an exponent. -/
  | plain {cs : List Char} : Positional cs → Numeral cs
  /-- With an exponent. -/
  | power {cs es : List Char} {mark : Char} : Positional cs → mark = 'e' ∨ mark = 'E' →
      Signed (fun ds => AreDigits ds ∧ ds ≠ []) es → Numeral (cs ++ mark :: es)
  /-- By the name of infinity or of no number, in any case. -/
  | name {cs : List Char} : lower (String.ofList cs) ∈ ["inf", "infinity", "nan"] → Numeral cs

theorem Positional.front (h : Positional cs) :
    ∃ c rest, cs = c :: rest ∧ (c.isDigit = true ∨ c = '.') := by
  cases h with
  | @whole ds hds hne =>
      obtain ⟨c, rest, rfl⟩ := List.exists_cons_of_ne_nil hne
      exact ⟨c, rest, rfl, .inl (hds c List.mem_cons_self)⟩
  | @pointed ds es hds hes hne =>
      cases ds with
      | nil => exact ⟨'.', es, rfl, .inr rfl⟩
      | cons c ds => exact ⟨c, _, rfl, .inl (hds c List.mem_cons_self)⟩

/-- A number begins with a digit, a point or a sign, unless it is there by name. -/
theorem Signed.front (h : Signed Numeral cs) :
    (∃ c rest, cs = c :: rest ∧ (c.isDigit = true ∨ c ∈ ['.', '+', '-'])) ∨
      lower (String.ofList cs) ∈ ["inf", "infinity", "nan"] := by
  cases h with
  | plus _ => exact .inl ⟨_, _, rfl, .inr (by decide)⟩
  | minus _ => exact .inl ⟨_, _, rfl, .inr (by decide)⟩
  | bare h =>
      cases h with
      | name hname => exact .inr hname
      | plain hpositional =>
          obtain ⟨c, rest, rfl, hc⟩ := hpositional.front
          exact .inl ⟨c, rest, rfl, hc.imp_right fun hc => by simp [hc]⟩
      | power hpositional _ _ =>
          obtain ⟨c, rest, rfl, hc⟩ := hpositional.front
          exact .inl ⟨c, _, rfl, hc.imp_right fun hc => by simp [hc]⟩

theorem isDigit_iff {c : Char} : c.isDigit = true ↔ '0' ≤ c ∧ c ≤ '9' := by
  change (decide ('0' ≤ c) && decide (c ≤ '9')) = true ↔ _
  rw [Bool.and_eq_true, decide_eq_true_iff, decide_eq_true_iff]

theorem Opens.not_digit (h : Opens c) : ¬c.isDigit = true := by
  intro hdigit
  have hcode : c.toNat ≤ 57 := (isDigit_iff.mp hdigit).2
  rcases h with h | h | rfl
  · have hletter : 65 ≤ c.toNat := h.1
    omega
  · have hletter : 97 ≤ c.toNat := h.1
    omega
  · exact absurd hdigit (by decide)

/-- An identifier begins with a letter, an underscore or an at sign. -/
theorem Dotted.front (h : Dotted cs) : ∃ c rest, cs = c :: rest ∧ (c = '@' ∨ Opens c) := by
  obtain ⟨parts, hne, hparts, rfl⟩ := h
  obtain ⟨part, others, rfl⟩ := List.exists_cons_of_ne_nil hne
  have hfront : ∃ rest, joinPieces '.' (part :: others) = part ++ rest := by
    cases others with
    | nil => exact ⟨[], (List.append_nil _).symm⟩
    | cons other others => exact ⟨_, joinPieces.eq_3 _ _ _ (List.cons_ne_nil _ _)⟩
  obtain ⟨rest, hrest⟩ := hfront
  rw [hrest]
  cases hparts part List.mem_cons_self with
  | plain hopens _ => exact ⟨_, _, rfl, .inr hopens⟩
  | verbatim _ _ => exact ⟨_, _, rfl, .inl rfl⟩

theorem Identifier.dotted (h : Identifier cs) : Dotted cs :=
  ⟨[cs], List.cons_ne_nil _ _, by simpa using h, rfl⟩

/-- Of the numbers, only those by name are made of identifiers. -/
theorem Dotted.name_of_signed (h : Dotted cs) (hs : Signed Numeral cs) :
    lower (String.ofList cs) ∈ ["inf", "infinity", "nan"] := by
  rcases hs.front with ⟨c, rest, rfl, hc⟩ | hname
  · obtain ⟨d, rest', heq, hd⟩ := h.front
    obtain ⟨rfl, -⟩ := List.cons.inj heq
    exfalso
    rcases hd with rfl | hd
    · revert hc
      decide
    · rcases hc with hc | hc
      · exact hd.not_digit hc
      · rw [← has_opening_iff] at hd
        simp only [List.mem_cons, List.not_mem_nil, or_false] at hc
        rcases hc with rfl | rfl | rfl <;> revert hd <;> decide
  · exact hname

/-! ### Parsers -/

namespace Text.Parser

variable {α β : Type} {p p' : Parser α} {f : α → Parser β} {a : α} {b : β} {o : Option α}
  {q : Char → Bool} {condition : Bool}

theorem of_bind (h : (p >>= f).run cs = some (b, rest)) :
    ∃ a r, p.run cs = some (a, r) ∧ (f a).run r = some (b, rest) := by
  rw [StateT.run_bind, Option.bind_eq_bind] at h
  obtain ⟨⟨a, r⟩, hp, hf⟩ := Option.bind_eq_some_iff.mp h
  exact ⟨a, r, hp, hf⟩

theorem of_pure {a' : α} (h : (pure a : Parser α).run cs = some (a', rest)) :
    a = a' ∧ cs = rest := by
  cases h
  exact ⟨rfl, rfl⟩

theorem of_orElse (h : (p <|> p').run cs = some (a, rest)) :
    p.run cs = some (a, rest) ∨ p'.run cs = some (a, rest) := by
  change (p.run cs <|> p'.run cs) = some (a, rest) at h
  cases hp : p.run cs with
  | none =>
      rw [hp] at h
      exact .inr h
  | some x =>
      rw [hp] at h
      exact .inl h

/-- What may be there is there, or nothing is taken. -/
theorem of_optional (h : (optional? p).run cs = some (o, rest)) :
    (∃ a, o = some a ∧ p.run cs = some (a, rest)) ∨ o = none ∧ cs = rest := by
  rcases of_orElse h with h | h
  · obtain ⟨a, r, hp, h⟩ := of_bind h
    obtain ⟨rfl, rfl⟩ := of_pure h
    exact .inl ⟨a, rfl, hp⟩
  · obtain ⟨rfl, rfl⟩ := of_pure h
    exact .inr ⟨rfl, rfl⟩

theorem of_one (h : (one q).run cs = some (c, rest)) : cs = c :: rest ∧ q c = true := by
  cases cs with
  | nil => cases h
  | cons d cs =>
      by_cases hq : q d = true
      · have heq : (one q).run (d :: cs) = some (d, cs) := if_pos hq
        rw [heq] at h
        cases h
        exact ⟨rfl, hq⟩
      · have hnone : (one q).run (d :: cs) = none := if_neg hq
        rw [hnone] at h
        cases h

theorem of_exactly_one {d : Char} {u : Unit} (h : (exactly [d]).run cs = some (u, rest)) :
    cs = d :: rest := by
  obtain ⟨c, r, hone, h⟩ := of_bind h
  obtain ⟨-, rfl⟩ := of_pure h
  obtain ⟨rfl, hc⟩ := of_one hone
  rw [eq_of_beq hc]

theorem of_many (h : (many q).run cs = some (ds, rest)) :
    cs = ds ++ rest ∧ ∀ c ∈ ds, q c = true := by
  cases h
  exact ⟨(List.takeWhile_append_dropWhile).symm, fun c hc =>
    List.all_eq_true.mp List.all_takeWhile c hc⟩

theorem of_many1 (h : (many1 q).run cs = some (ds, rest)) :
    cs = ds ++ rest ∧ (∀ c ∈ ds, q c = true) ∧ ds ≠ [] := by
  obtain ⟨c, r, hone, h⟩ := of_bind h
  obtain ⟨others, r', hmany, h⟩ := of_bind h
  obtain ⟨rfl, rfl⟩ := of_pure h
  obtain ⟨rfl, hothers⟩ := of_many hmany
  obtain ⟨rfl, hc⟩ := of_one hone
  exact ⟨rfl, List.forall_mem_cons.mpr ⟨hc, hothers⟩, List.cons_ne_nil _ _⟩

theorem of_ensure {u : Unit} (h : (ensure condition).run cs = some (u, rest)) :
    condition = true ∧ cs = rest := by
  cases condition with
  | false => cases h
  | true =>
      cases h
      exact ⟨rfl, rfl⟩

theorem of_runAll (h : runAll? p cs = some a) : p.run cs = some (a, []) := by
  rw [runAll?] at h
  split at h
  · rename_i heq
    cases h
    exact heq
  · cases h

end Text.Parser

namespace Decimal

theorem of_sign (h : sign.run cs = some (minus, rest)) :
    cs = rest ∨ cs = '+' :: rest ∨ cs = '-' :: rest := by
  obtain ⟨o, r, hoptional, h⟩ := of_bind h
  have hrest : r = rest := by
    split at h <;> exact (of_pure h).2
  subst hrest
  rcases of_optional hoptional with ⟨c, -, hone⟩ | ⟨-, heq⟩
  · obtain ⟨rfl, hc⟩ := of_one hone
    rcases Bool.or_eq_true_iff.mp hc with hc | hc
    · exact .inr (.inl (by rw [eq_of_beq hc]))
    · exact .inr (.inr (by rw [eq_of_beq hc]))
  · exact .inl heq

/-- A sign, if there is one, and then what is to follow it. -/
theorem signed_of_sign (h : sign.run cs = some (minus, rest)) (hrest : P rest) : Signed P cs := by
  rcases of_sign h with rfl | rfl | rfl
  · exact .bare hrest
  · exact .plus hrest
  · exact .minus hrest

theorem of_exponent {n : Int} (h : exponent.run cs = some (n, [])) :
    ∃ mark es, cs = mark :: es ∧ (mark = 'e' ∨ mark = 'E') ∧
      Signed (fun ds => AreDigits ds ∧ ds ≠ []) es := by
  obtain ⟨mark, es, hone, h⟩ := of_bind h
  obtain ⟨minus, r, hsign, h⟩ := of_bind h
  obtain ⟨ds, r', hmany, h⟩ := of_bind h
  obtain ⟨-, rfl⟩ := of_pure h
  obtain ⟨rfl, hds⟩ := of_many1 hmany
  obtain ⟨rfl, hmark⟩ := of_one hone
  rw [List.append_nil] at hsign
  refine ⟨mark, es, rfl, ?_, signed_of_sign hsign hds⟩
  exact (Bool.or_eq_true_iff.mp hmark).imp eq_of_beq eq_of_beq

/-- The digits of a decimal, its point if there is one, and its exponent. -/
theorem numeral_of_decimal {d : Digits} (h : decimal.run cs = some (d, [])) : Numeral cs := by
  obtain ⟨ds, r, hbefore, h⟩ := of_bind h
  obtain ⟨after, end₁, hafter, h⟩ := of_bind h
  obtain ⟨_, end₂, hensure, h⟩ := of_bind h
  obtain ⟨power, end₃, hpower, h⟩ := of_bind h
  obtain ⟨-, rfl⟩ := of_pure h
  obtain ⟨hne, rfl⟩ := of_ensure hensure
  obtain ⟨rfl, hds⟩ := of_many hbefore
  obtain ⟨digits, hdigits, heq⟩ : ∃ digits, Positional digits ∧ ds ++ r = digits ++ end₁ := by
    rcases of_optional hafter with ⟨es, rfl, hpoint⟩ | ⟨rfl, rfl⟩
    · obtain ⟨_, s, hexactly, hmany⟩ := of_bind hpoint
      obtain rfl := of_exactly_one hexactly
      obtain ⟨rfl, hes⟩ := of_many hmany
      exact ⟨ds ++ '.' :: es, .pointed hds hes (by simpa [imp_iff_not_or] using hne), by simp⟩
    · exact ⟨ds, .whole hds (by simpa using hne), rfl⟩
  rw [heq]
  rcases of_optional hpower with ⟨n, -, hexponent⟩ | ⟨-, rfl⟩
  · obtain ⟨mark, es, rfl, hmark, hes⟩ := of_exponent hexponent
    exact .power hdigits hmark hes
  · rw [List.append_nil]
    exact .plain hdigits

end Decimal

/-! ### What a text is taken for -/

namespace Environment

theorem signed_of_whole {n : Int} (h : whole.runAll? cs = some n) : Signed Numeral cs := by
  obtain ⟨minus, r, hsign, h⟩ := of_bind (of_runAll h)
  obtain ⟨ds, end₁, hmany, h⟩ := of_bind h
  obtain ⟨_, end₂, hensure, h⟩ := of_bind h
  obtain ⟨-, rfl⟩ := of_pure h
  obtain ⟨-, rfl⟩ := of_ensure hensure
  obtain ⟨rfl, hds, hne⟩ := of_many1 hmany
  rw [List.append_nil] at hsign
  exact Decimal.signed_of_sign hsign (.plain (.whole hds hne))

theorem numeral_of_specialNumber {x : Float} (h : specialNumber.run cs = some (x, [])) :
    Numeral cs := by
  obtain ⟨word, r, hmany, h⟩ := of_bind h
  obtain ⟨rfl, hname⟩ : r = [] ∧ lower (String.ofList word) ∈ ["inf", "infinity", "nan"] := by
    split at h
    · exact ⟨(of_pure h).2, by simp [*]⟩
    · exact ⟨(of_pure h).2, by simp [*]⟩
    · exact ⟨(of_pure h).2, by simp [*]⟩
    · cases h
  obtain ⟨rfl, -, -⟩ := of_many1 hmany
  rw [List.append_nil]
  exact .name hname

theorem signed_of_real {x : Float} (h : real.runAll? cs = some x) : Signed Numeral cs := by
  obtain ⟨minus, r, hsign, h⟩ := of_bind (of_runAll h)
  obtain ⟨y, end₁, hnumber, h⟩ := of_bind h
  obtain ⟨-, rfl⟩ := of_pure h
  refine Decimal.signed_of_sign hsign ?_
  rcases of_orElse hnumber with hspecial | hdecimal
  · exact numeral_of_specialNumber hspecial
  · obtain ⟨d, end₂, hdecimal, h⟩ := of_bind hdecimal
    obtain ⟨-, rfl⟩ := of_pure h
    exact Decimal.numeral_of_decimal hdecimal

/-- A text is taken for a truth value, for a number, or for a text. -/
theorem value_cases (text : String) :
    (∃ b, lower text = SettingValue.flagName b ∧ value text = .flag b) ∨
      ((∃ n, value text = .whole n) ∨ ∃ x, value text = .real x) ∧ Signed Numeral text.toList ∨
      value text = .text text := by
  rw [value]
  split
  · rename_i htrue
    exact .inl ⟨true, eq_of_beq htrue, rfl⟩
  · split
    · rename_i hfalse
      exact .inl ⟨false, eq_of_beq hfalse, rfl⟩
    · split
      · rename_i n hwhole
        exact .inr (.inl ⟨.inl ⟨n, rfl⟩, signed_of_whole hwhole⟩)
      · rename_i x _ hreal
        exact .inr (.inl ⟨.inr ⟨x, rfl⟩, signed_of_real hreal⟩)
      · exact .inr (.inr rfl)

theorem replaces_value (text : String) : (value text).Replaces := by
  rcases value_cases text with ⟨b, -, hv⟩ | ⟨⟨n, hv⟩ | ⟨x, hv⟩, -⟩ | hv
  · exact hv ▸ .flag b
  · exact hv ▸ .whole n
  · exact hv ▸ .real x
  · exact hv ▸ .text text

/-- The text that is read from a variable of the text. -/
def carried (text : String) : String :=
  match value text with
  | .flag b => SettingValue.flagName b
  | .whole n => toString n
  | .real x => Decimal.Layout.plain.write x
  | _ => text

theorem readText_value (text : String) : (value text).readText = .ok (carried text) := by
  rw [carried]
  rcases value_cases text with ⟨b, -, hv⟩ | ⟨⟨n, hv⟩ | ⟨x, hv⟩, -⟩ | hv <;> rw [hv] <;> rfl

/-- A text that does not come through as it stands is a truth value in other letters, which is then
in small ones, or is written like a number. -/
theorem typed_of_altered (h : carried text ≠ text) :
    carried text = lower text ∧ lower text ∈ ["true", "false"] ∨ Signed Numeral text.toList := by
  rcases value_cases text with ⟨b, hb, hv⟩ | ⟨-, hnumeral⟩ | hv
  · refine .inl ⟨by rw [carried, hv, hb], ?_⟩
    cases b <;> simp [hb, SettingValue.flagName]
  · exact .inr hnumeral
  · exact absurd (by rw [carried, hv]) h

/-- An identifier, or several with dots between them, comes through as it stands unless it is one of
five words, in some case. -/
theorem word_of_altered (hd : Dotted text.toList) (h : carried text ≠ text) :
    lower text ∈ ["true", "false", "inf", "infinity", "nan"] := by
  rcases typed_of_altered h with ⟨-, hflag⟩ | hsigned
  · exact List.mem_append_left ["inf", "infinity", "nan"] hflag
  · have hname := hd.name_of_signed hsigned
    rw [String.ofList_toList] at hname
    exact List.mem_append_right ["true", "false"] hname

end Environment

end Companion
