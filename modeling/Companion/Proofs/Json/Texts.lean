import Companion.Proofs.Json.Lexing

/-!
# Json — values from their texts

What is written for a value is read back as that value, if it is made of texts, truth values and
whole numbers, and is not nested too deeply.  While a value is read, the frames around it stay; so
lists and objects are read member by member.

* `Fits`: the values that are written faithfully, with the room that they need.
* `Fits.taken`: a written value is taken up as one value wherever one may stand.
* `read_text`: a text that is written for a value is a document of it.
-/

namespace Companion.Json

variable {room : Nat} {j : Json} {items earlier : List Json}
  {members before : List (Option String × Json)} {name : Option String} {p : Progress} {t : Token}
  {turn : Turn} {frames : List Frame} {cs r : List Char}

/-- The value is made of texts, truth values and whole numbers, and lists and objects stand in each
other no deeper than the room. -/
inductive Fits : Nat → Json → Prop where
  | null {room : Nat} : Fits room .null
  | boolean {room : Nat} (b : Bool) : Fits room (.boolean b)
  | natural {room : Nat} (k : UInt64) : Fits room (.number (.natural k))
  | negative {room n : Nat} : 0 < n → n ≤ Nat.pow 2 63 → Fits room (.number (.negative n))
  | string {room : Nat} (s : String) : Fits room (.string (some s))
  | array {room : Nat} {items : List Json} : (∀ j ∈ items, Fits room j) →
      Fits (room + 1) (.array items)
  | object {room : Nat} {members : List (Option String × Json)} :
      (∀ m ∈ members, m.1.isSome = true) → (∀ m ∈ members, Fits room m.2) →
      Fits (room + 1) (.object members)

/-! ### Reading on -/

/-- How far characters take a text that has been read to some point. -/
def after (p : Progress) (cs : List Char) : Progress := (tokens cs).foldl step p

theorem after_of_tokens (h : tokens cs = t :: tokens r) : after p cs = after (step p t) r := by
  rw [after, h, List.foldl_cons, after]

theorem after_nil (p : Progress) : after p [] = p := by
  rw [after, tokens]
  rfl

theorem after_openArray (h : turn.takesValue = true) (r : List Char) :
    after (.within turn frames) ('[' :: r) =
      after (.within .firstItem (.array [] :: frames)) r := by
  rw [after_of_tokens (tokens_openArray r)]
  cases turn <;> first | rfl | cases h

theorem after_openObject (h : turn.takesValue = true) (r : List Char) :
    after (.within turn frames) ('\x7b' :: r) =
      after (.within .firstName (.object [] none :: frames)) r := by
  rw [after_of_tokens (tokens_openObject r)]
  cases turn <;> first | rfl | cases h

theorem after_comma_array (r : List Char) :
    after (.within .separator (.array earlier :: frames)) (',' :: r) =
      after (.within .value (.array earlier :: frames)) r :=
  after_of_tokens (tokens_comma r)

theorem after_comma_object (r : List Char) :
    after (.within .separator (.object before name :: frames)) (',' :: r) =
      after (.within .name (.object before none :: frames)) r :=
  after_of_tokens (tokens_comma r)

theorem after_name (h : turn = .firstName ∨ turn = .name) (n : String) (r : List Char) :
    after (.within turn (.object before name :: frames)) (writeString n ++ ':' :: r) =
      after (.within .value (.object before (some n) :: frames)) r := by
  rw [after_of_tokens (tokens_string n _)]
  rcases h with rfl | rfl <;> exact after_of_tokens (tokens_colon r)

theorem enclosed_of_lt (h : frames.length < depthLimit) (j : Json) : enclosed frames j = j :=
  if_neg (Nat.not_le_of_lt h)

theorem after_closeArray_empty (h : frames.length < depthLimit) (r : List Char) :
    after (.within .firstItem (.array [] :: frames)) (']' :: r) =
      after (settle (.array []) frames) r := by
  rw [← enclosed_of_lt h (.array [])]
  exact after_of_tokens (tokens_closeArray r)

theorem after_closeArray (h : frames.length < depthLimit) (r : List Char) :
    after (.within .separator (.array earlier :: frames)) (']' :: r) =
      after (settle (.array earlier.reverse) frames) r := by
  rw [← enclosed_of_lt h (.array earlier.reverse)]
  exact after_of_tokens (tokens_closeArray r)

theorem after_closeObject_empty (h : frames.length < depthLimit) (r : List Char) :
    after (.within .firstName (.object [] name :: frames)) ('\x7d' :: r) =
      after (settle (.object []) frames) r := by
  rw [← enclosed_of_lt h (.object [])]
  exact after_of_tokens (tokens_closeObject r)

theorem after_closeObject (h : frames.length < depthLimit) (r : List Char) :
    after (.within .separator (.object before name :: frames)) ('\x7d' :: r) =
      after (settle (.object before.reverse) frames) r := by
  rw [← enclosed_of_lt h (.object before.reverse)]
  exact after_of_tokens (tokens_closeObject r)

/-! ### Values -/

/-- What is written for the value is taken up as the value, wherever one may stand that leaves the
room, and whatever follows. -/
def Taken (room : Nat) (j : Json) : Prop :=
  ∀ (turn : Turn) (frames : List Frame) (r : List Char), turn.takesValue = true →
    frames.length + room ≤ depthLimit → Follows r →
    after (.within turn frames) (j.write ++ r) = after (settle j frames) r

/-- A value that is one token is taken up. -/
theorem taken_of_scalar (h : ∀ r, Follows r → tokens (j.write ++ r) = .scalar j :: tokens r) :
    Taken room j := by
  intro turn frames r hturn _ hr
  rw [after_of_tokens (h r hr)]
  cases turn <;> first | rfl | cases hturn

theorem taken_string (s : String) : Taken room (.string (some s)) := by
  intro turn frames r hturn _ _
  rw [show write (.string (some s)) = writeString s from rfl, after_of_tokens (tokens_string s r)]
  cases turn <;> first | rfl | cases hturn

/-- The last items of a list, and its end. -/
theorem after_items (h : ∀ j ∈ items, Taken room j) (hne : items ≠ [])
    (hroom : frames.length + (room + 1) ≤ depthLimit) (hturn : turn.takesValue = true) :
    after (.within turn (.array earlier :: frames)) (writeItems items ++ ']' :: r) =
      after (settle (.array (earlier.reverse ++ items)) frames) r := by
  have hlt : frames.length < depthLimit := by omega
  induction items generalizing turn earlier with
  | nil => exact absurd rfl hne
  | cons j items ih =>
      have hj := fun r => h j List.mem_cons_self turn (.array earlier :: frames) r hturn
        (by rw [List.length_cons]; omega)
      cases items with
      | nil =>
          have hwrite : writeItems [j] = j.write := rfl
          rw [hwrite, hj _ (.closeArray r), settle, after_closeArray hlt r, List.reverse_cons]
      | cons j' items =>
          have hwrite : writeItems (j :: j' :: items) =
              j.write ++ ',' :: writeItems (j' :: items) := rfl
          rw [hwrite, List.append_assoc, List.cons_append, hj _ (.comma _), settle,
            after_comma_array, ih (fun j hm => h j (List.mem_cons_of_mem _ hm))
            (List.cons_ne_nil _ _) rfl, List.reverse_cons, List.append_assoc,
            List.singleton_append]

theorem taken_array (h : ∀ j ∈ items, Taken room j) : Taken (room + 1) (.array items) := by
  intro turn frames r hturn hroom hr
  have hwrite : write (.array items) = '[' :: writeItems items ++ [']'] := rfl
  rw [hwrite, List.append_assoc, List.singleton_append, List.cons_append, after_openArray hturn]
  cases items with
  | nil => exact after_closeArray_empty (by omega) r
  | cons j items => exact after_items h (List.cons_ne_nil j items) hroom rfl

/-- The last members of an object, and its end. -/
theorem after_members (hnames : ∀ m ∈ members, m.1.isSome = true)
    (h : ∀ m ∈ members, Taken room m.2) (hne : members ≠ [])
    (hroom : frames.length + (room + 1) ≤ depthLimit) (hturn : turn = .firstName ∨ turn = .name) :
    after (.within turn (.object before name :: frames)) (writeMembers members ++ '\x7d' :: r) =
      after (settle (.object (before.reverse ++ members)) frames) r := by
  have hlt : frames.length < depthLimit := by omega
  induction members generalizing turn before name with
  | nil => exact absurd rfl hne
  | cons m members ih =>
      obtain ⟨name', j⟩ := m
      obtain ⟨n, rfl⟩ := Option.isSome_iff_exists.mp (hnames _ List.mem_cons_self)
      have hj := fun r => h _ List.mem_cons_self .value (.object before (some n) :: frames) r rfl
        (by rw [List.length_cons]; omega)
      cases members with
      | nil =>
          have hwrite : writeMembers [(some n, j)] = writeString n ++ ':' :: j.write := rfl
          rw [hwrite, List.append_assoc, List.cons_append, after_name hturn,
            hj _ (.closeObject r), settle, after_closeObject hlt r, List.reverse_cons]
      | cons m members =>
          have hwrite : writeMembers ((some n, j) :: m :: members) =
              writeString n ++ ':' :: j.write ++ ',' :: writeMembers (m :: members) := rfl
          rw [hwrite, List.append_assoc, List.append_assoc, List.cons_append, List.cons_append,
            after_name hturn, hj _ (.comma _), settle, after_comma_object,
            ih (fun m hm => hnames m (List.mem_cons_of_mem _ hm))
            (fun m hm => h m (List.mem_cons_of_mem _ hm)) (List.cons_ne_nil _ _) (.inr rfl),
            List.reverse_cons, List.append_assoc, List.singleton_append]

theorem taken_object (hnames : ∀ m ∈ members, m.1.isSome = true)
    (h : ∀ m ∈ members, Taken room m.2) : Taken (room + 1) (.object members) := by
  intro turn frames r hturn hroom hr
  have hwrite : write (.object members) = '\x7b' :: writeMembers members ++ ['\x7d'] := rfl
  rw [hwrite, List.append_assoc, List.singleton_append, List.cons_append, after_openObject hturn]
  cases members with
  | nil => exact after_closeObject_empty (by omega) r
  | cons m members => exact after_members hnames h (List.cons_ne_nil m members) hroom (.inl rfl)

/-- A written value is taken up as one value. -/
theorem Fits.taken (h : Fits room j) : Taken room j := by
  induction h with
  | null => exact taken_of_scalar fun r _ => tokens_of_next? rfl
  | boolean b => cases b <;> exact taken_of_scalar fun r _ => tokens_of_next? rfl
  | natural k => exact taken_of_scalar fun r hr => tokens_natural k hr
  | negative hpos hle => exact taken_of_scalar fun r hr => tokens_negative hpos hle hr
  | string s => exact taken_string s
  | array _ ih => exact taken_array ih
  | object hnames _ ih => exact taken_object hnames ih

/-- A text that is written for a value is a document of it. -/
theorem read_text (h : Fits depthLimit j) : read (text j) = ⟨j, true⟩ := by
  have htaken := h.taken .value [] [] rfl (by simp) .nil
  rw [List.append_nil, after_nil] at htaken
  rw [read, text, String.toList_ofList]
  exact congrArg Progress.document htaken

end Companion.Json
