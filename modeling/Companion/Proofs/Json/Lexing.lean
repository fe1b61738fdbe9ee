import Companion.Json.Encode
import Mathlib.Data.List.Forall2

/-!
# Json — tokens of written values

What is written for a string or a whole number is cut back into one token of that value, whatever
follows; and a bracket, a comma or a colon into its own.

* `Stands`: the part of a string that a written character is read as.
* `readPieces?_written` and `characters?_of_stands`: strings, with their escapes.
* `readNumeral?_digits` and `digits_toDigits`: decimal digits.
* `tokens_string`, `tokens_natural`, `tokens_negative`: the tokens.
-/

namespace Companion.Json

variable {c e : Char} {cs ds r : List Char} {p : Piece} {ps : List Piece} {n : Nat}

/-! ### Strings -/

theorem hexValue?_hexDigit (h : n < 16) : Text.hexValue? (Text.hexDigit n) = some n := by
  have hall : ∀ k < 16, Text.hexValue? (Text.hexDigit k) = some k := by decide
  exact hall n h

/-- A code unit is read from its number. -/
theorem readPieces?_unit (h : n < 0x10000) (r : List Char) :
    readPieces? ('\\' :: 'u' :: Text.hexDigits 4 n ++ r) =
      (readPieces? r).map fun x => (.unit n :: x.1, x.2) := by
  have hdigits : Text.hexDigits 4 n = [Text.hexDigit (n / 4096 % 16), Text.hexDigit (n / 256 % 16),
      Text.hexDigit (n / 16 % 16), Text.hexDigit (n % 16)] := by
    simp [Text.hexDigits, Nat.div_div_eq_div_mul]
  have hunit : codeUnit? (Text.hexDigit (n / 4096 % 16)) (Text.hexDigit (n / 256 % 16))
      (Text.hexDigit (n / 16 % 16)) (Text.hexDigit (n % 16)) = some n := by
    simp only [codeUnit?, hexValue?_hexDigit (Nat.mod_lt _ (by decide : 0 < 16)), Option.some.injEq]
    omega
  rw [hdigits]
  simp only [List.cons_append, List.nil_append, readPieces?, hunit]
  cases readPieces? r <;> rfl

/-- A character is read from the letter that stands for it. -/
theorem readPieces?_letter (hu : c ≠ 'u') (he : escaped? c = some e) (r : List Char) :
    readPieces? ('\\' :: c :: r) = (readPieces? r).map fun x => (.char e :: x.1, x.2) := by
  rw [readPieces?, he]
  · cases readPieces? r <;> rfl
  · exact fun _ _ _ _ _ hc _ => hu hc

/-- Other characters are read as they are. -/
theorem readPieces?_char (hquote : c ≠ '"') (hslash : c ≠ '\\') (hc : ¬c.toNat < 0x20)
    (r : List Char) :
    readPieces? (c :: r) = (readPieces? r).map fun x => (.char c :: x.1, x.2) := by
  rw [readPieces?]
  · rw [if_neg (by simp [hslash, hc])]
    cases readPieces? r <;> rfl
  · exact hquote
  · exact fun _ _ _ _ _ h _ => hslash h
  · exact fun _ _ h _ => hslash h

/-- The part of a string stands for the character. -/
inductive Stands : Char → Piece → Prop where
  /-- The character as it is, or by a letter. -/
  | char (c : Char) : Stands c (.char c)
  /-- A control character by its number. -/
  | unit {c : Char} : c.toNat < 0x20 → Stands c (.unit c.toNat)

/-- A written character is read as a part that stands for it. -/
theorem exists_stands (c : Char) :
    ∃ p, Stands c p ∧ ∀ r, readPieces? (writeChar c ++ r) =
      (readPieces? r).map fun x => (p :: x.1, x.2) := by
  unfold writeChar
  split
  case h_8 hquote hslash _ _ _ _ _ =>
    by_cases hc : c.toNat < 0x20
    · rw [if_pos hc]
      exact ⟨_, .unit hc, readPieces?_unit (by omega)⟩
    · rw [if_neg hc]
      exact ⟨_, .char c, readPieces?_char hquote hslash hc⟩
  all_goals exact ⟨_, .char _, readPieces?_letter (by decide) rfl⟩

/-- A written string is read as parts that stand for its characters. -/
theorem readPieces?_written (cs r : List Char) :
    ∃ ps, List.Forall₂ Stands cs ps ∧
      readPieces? (cs.flatMap writeChar ++ '"' :: r) = some (ps, r) := by
  induction cs with
  | nil => exact ⟨[], .nil, rfl⟩
  | cons c cs ih =>
      obtain ⟨ps, hps, hread⟩ := ih
      obtain ⟨p, hp, hchar⟩ := exists_stands c
      refine ⟨p :: ps, .cons hp hps, ?_⟩
      rw [List.flatMap_cons, List.append_assoc, hchar, hread]
      rfl

/-- Parts that stand for characters are read as these. -/
theorem characters?_of_stands (h : List.Forall₂ Stands cs ps) : characters? ps = some cs := by
  induction h with
  | nil => rfl
  | @cons c p cs ps hp hps ih =>
      cases hp with
      | char => rw [characters?, ih, Option.map_some]
      | unit hc =>
          have hleading : isLeading c.toNat = false := by simp [isLeading]; omega
          have htrailing : isTrailing c.toNat = false := by simp [isTrailing]; omega
          -- a unit is looked at together with the next, if that is one too
          have hunit : characters? (.unit c.toNat :: ps) = (characters? ps).map (c :: ·) := by
            rcases ps with _ | ⟨_ | m, ps⟩ <;>
              simp [characters?, hleading, htrailing, Char.ofNat_toNat]
          rw [hunit, ih, Option.map_some]

/-! ### Digits -/

/-- What follows a written value in a text: nothing, or a mark that no numeral goes on with. -/
inductive Follows : List Char → Prop where
  | nil : Follows []
  | comma (r : List Char) : Follows (',' :: r)
  | closeArray (r : List Char) : Follows (']' :: r)
  | closeObject (r : List Char) : Follows ('\x7d' :: r)

theorem spanDigits_append_of_follows (hd : ∀ c ∈ ds, c.isDigit = true) (hr : Follows r) :
    spanDigits (ds ++ r) = (ds, r) := by
  rw [spanDigits, List.takeWhile_append_of_pos hd, List.dropWhile_append_of_pos hd]
  cases hr <;> simp

theorem readWhole?_digits {z : Char} (hz : z.isDigit = true) (hd : ∀ c ∈ ds, c.isDigit = true)
    (hne : z ≠ '0' ∨ ds = []) (hr : Follows r) : readWhole? (z :: ds ++ r) = some (z :: ds, r) := by
  have hspan : spanDigits (z :: ds ++ r) = (z :: ds, r) :=
    spanDigits_append_of_follows (List.forall_mem_cons.mpr ⟨hz, hd⟩) hr
  rw [readWhole?, hspan]
  split
  · rename_i heq
    cases heq
  · rename_i heq
    cases heq
    rcases hne with hne | hne
    · exact absurd rfl hne
    · cases hne
  · rename_i heq
    rw [heq]

/-- Digits without a needless zero are read as a numeral. -/
theorem readNumeral?_digits {z : Char} (hz : z.isDigit = true) (hd : ∀ c ∈ ds, c.isDigit = true)
    (hne : z ≠ '0' ∨ ds = []) (hr : Follows r) :
    readNumeral? (z :: ds ++ r) = some (⟨false, z :: ds, [], none⟩, r) := by
  have hminus : readMinus (z :: ds ++ r) = (false, z :: ds ++ r) := by
    rw [readMinus]
    intro r' heq
    cases heq
    cases hz
  rw [readNumeral?, hminus]
  dsimp only
  rw [readWhole?_digits hz hd hne hr]
  cases hr <;> rfl

/-- So they are behind a minus sign. -/
theorem readNumeral?_minus {z : Char} (hz : z.isDigit = true) (hd : ∀ c ∈ ds, c.isDigit = true)
    (hne : z ≠ '0' ∨ ds = []) (hr : Follows r) :
    readNumeral? ('-' :: (z :: ds ++ r)) = some (⟨true, z :: ds, [], none⟩, r) := by
  have hminus : readMinus ('-' :: (z :: ds ++ r)) = (true, z :: ds ++ r) := rfl
  rw [readNumeral?, hminus]
  dsimp only
  rw [readWhole?_digits hz hd hne hr]
  cases hr <;> rfl

theorem head?_toDigits_ne (h : 0 < n) : (Nat.toDigits 10 n).head? ≠ some '0' := by
  induction n using Nat.strongRecOn with
  | ind n ih =>
      by_cases hn : n < 10
      · rw [Nat.toDigits_of_lt_base hn]
        have hall : ∀ k < 10, 0 < k → [k.digitChar].head? ≠ some '0' := by decide
        exact hall n hn h
      · rw [Nat.toDigits_of_base_le (by decide) (by omega),
          List.head?_append_of_ne_nil _ Nat.toDigits_ne_nil]
        exact ih (n / 10) (by omega) (by omega)

/-- The digits of a number are decimal digits, and the first is a zero only if there is no other. -/
theorem exists_toDigits (n : Nat) :
    ∃ z ds, Nat.toDigits 10 n = z :: ds ∧ z.isDigit = true ∧ (∀ c ∈ ds, c.isDigit = true) ∧
      (z ≠ '0' ∨ ds = []) := by
  obtain ⟨z, ds, hsplit⟩ := List.exists_cons_of_ne_nil (Nat.toDigits_ne_nil (b := 10) (n := n))
  have hdigits : ∀ c ∈ z :: ds, c.isDigit = true := fun c hc =>
    Nat.isDigit_of_mem_toDigits (b := 10) (n := n) (by decide) (by decide) (hsplit ▸ hc)
  refine ⟨z, ds, hsplit, hdigits z List.mem_cons_self,
    fun c hc => hdigits c (List.mem_cons_of_mem z hc), ?_⟩
  rcases Nat.eq_zero_or_pos n with rfl | hn
  · rw [Nat.toDigits_zero] at hsplit
    exact .inr (List.cons.inj hsplit).2.symm
  · have hhead := head?_toDigits_ne hn
    rw [hsplit, List.head?_cons] at hhead
    exact .inl fun hz => hhead (congrArg some hz)

theorem digits_toDigits (n : Nat) : digits (Nat.toDigits 10 n) = n := by
  have hvalue := Nat.ofDigitChars_toDigits (b := 10) (n := n) (by decide) (by decide)
  rw [Nat.ofDigitChars_eq_foldl] at hvalue
  exact hvalue

/-! ### Tokens -/

theorem tokens_of_next? {t : Token} (h : next? cs = some (t, r)) : tokens cs = t :: tokens r := by
  rw [tokens]
  split
  · rename_i hn
    rw [h] at hn
    cases hn
  · rename_i hn
    rw [h] at hn
    cases hn
    rfl

theorem next?_cons (h : isBlank c = false) (r : List Char) :
    next? (c :: r) = some (token (c :: r)) := by
  rw [next?, List.dropWhile_cons_of_neg (by simp [h])]

theorem tokens_openArray (r : List Char) : tokens ('[' :: r) = .openArray :: tokens r :=
  tokens_of_next? rfl

theorem tokens_closeArray (r : List Char) : tokens (']' :: r) = .closeArray :: tokens r :=
  tokens_of_next? rfl

theorem tokens_openObject (r : List Char) : tokens ('\x7b' :: r) = .openObject :: tokens r :=
  tokens_of_next? rfl

theorem tokens_closeObject (r : List Char) : tokens ('\x7d' :: r) = .closeObject :: tokens r :=
  tokens_of_next? rfl

theorem tokens_comma (r : List Char) : tokens (',' :: r) = .comma :: tokens r :=
  tokens_of_next? rfl

theorem tokens_colon (r : List Char) : tokens (':' :: r) = .colon :: tokens r :=
  tokens_of_next? rfl

/-- A written string is one token. -/
theorem tokens_string (s : String) (r : List Char) :
    tokens (writeString s ++ r) = .string (some s) :: tokens r := by
  obtain ⟨ps, hps, hread⟩ := readPieces?_written s.toList r
  have hwritten : writeString s ++ r = '"' :: (s.toList.flatMap writeChar ++ '"' :: r) := by
    simp [writeString]
  refine tokens_of_next? ?_
  rw [hwritten, next?_cons rfl, token, hread]
  dsimp only
  rw [characters?_of_stands hps, Option.map_some, String.ofList_toList]

/-- A text that begins with a digit or a minus sign begins with a number. -/
theorem tokens_numeral {z : Char} {x : Numeral} (hz : z.isDigit = true ∨ z = '-')
    (h : readNumeral? (z :: cs) = some (x, r)) :
    tokens (z :: cs) = .scalar (.number x.value) :: tokens r := by
  have hblank : isBlank z = false := by
    rcases hz with hz | rfl
    · simp only [isBlank, Bool.or_eq_false_iff, beq_eq_false_iff_ne]
      refine ⟨⟨⟨?_, ?_⟩, ?_⟩, ?_⟩ <;> rintro rfl <;> cases hz
    · rfl
  refine tokens_of_next? ((next?_cons hblank cs).trans (congrArg some ?_))
  rw [token, h]
  all_goals
    intro r' he
    cases he
    rcases hz with hz | hz <;> cases hz

/-- A written natural number is one token. -/
theorem tokens_natural (k : UInt64) (hr : Follows r) :
    tokens (writeNumber (.natural k) ++ r) = .scalar (.number (.natural k)) :: tokens r := by
  obtain ⟨z, ds, hsplit, hz, hd, hne⟩ := exists_toDigits k.toNat
  have hread := tokens_numeral (.inl hz) (readNumeral?_digits hz hd hne hr)
  have hvalue : (Numeral.mk false (z :: ds) [] none).value = .natural k := by
    have hdigits : digits (z :: ds) = k.toNat := hsplit ▸ digits_toDigits k.toNat
    simp [Numeral.value, hdigits, k.toNat_lt_size]
  rw [writeNumber, hsplit, ← hvalue]
  exact hread

/-- A written negative number is one token. -/
theorem tokens_negative (hpos : 0 < n) (hle : n ≤ Nat.pow 2 63) (hr : Follows r) :
    tokens (writeNumber (.negative n) ++ r) = .scalar (.number (.negative n)) :: tokens r := by
  obtain ⟨z, ds, hsplit, hz, hd, hne⟩ := exists_toDigits n
  have hread := tokens_numeral (.inr rfl) (readNumeral?_minus hz hd hne hr)
  have hvalue : (Numeral.mk true (z :: ds) [] none).value = .negative n := by
    have hdigits : digits (z :: ds) = n := hsplit ▸ digits_toDigits n
    rw [Numeral.value]
    dsimp only
    rw [hdigits, if_neg (by simp), if_pos (by simpa using ⟨hpos, hle⟩)]
  rw [writeNumber, hsplit, ← hvalue]
  exact hread

end Companion.Json
