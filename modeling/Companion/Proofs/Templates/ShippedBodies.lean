import Companion.Proofs.Templates.Leftovers
import Companion.Template.Shipped
import Mathlib.Data.List.TakeWhile

/-!
# Templates — the shipped bodies

A shipped body is filled line by line, since no token reaches over a line end.  So what is said of
the filled bodies is checked on their lines, which are short and need not be filled to be checked.

* `substitute_body`: a body is filled line by line.
* `Guarded`: before each parenthesis of a line stands something other than `public ` and a name,
  whatever the placeholders are filled with.
* `get?_shipped`: the shipped bodies make templates.
* `Rendering.Fragment`: what a unit of a shipped template declares, and what it does not.
* `Rendering.Clear.fragment`: every unit of a shipped template is of that sort.
-/

namespace Companion

variable {values : Bindings} {v : Variant} {line : String} {lines : List String} {c : Char}
  {cs a b x y : List Char} {l : List Segment}

/-! ### Line by line -/

namespace Shipped

/-- The characters of a line, with its braces. -/
def source (line : String) : List Char := line.toList.map brace

theorem toList_body_cons (line : String) (lines : List String) :
    (body (line :: lines)).toList = source line ++ '\n' :: (body lines).toList := by
  simp [body, source]

/-- A body is filled line by line. -/
theorem substitute_body_cons (values : Bindings) (line : String) (lines : List String) :
    substitute values (body (line :: lines)).toList =
      substitute values (source line) ++ '\n' :: substitute values (body lines).toList := by
  have hbreak : ∀ (p : Placeholder) a b, p.token.toList = a ++ '\n' :: b → a = [] := by
    intro p a b h
    refine absurd (h ▸ by simp : '\n' ∈ p.token.toList) ?_
    cases p <;> decide
  rw [toList_body_cons, substitute_append_cons hbreak,
    substitute_cons (tokenAt?_cons_of_ne (by decide))]

theorem infix_substitute_body (values : Bindings) (h : line ∈ lines) :
    substitute values (source line) <:+: substitute values (body lines).toList := by
  induction lines with
  | nil => cases h
  | cons l lines ih =>
      rw [substitute_body_cons]
      rcases List.mem_cons.mp h with rfl | h
      · exact ⟨[], _, rfl⟩
      · exact ((ih h).trans (List.suffix_cons _ _).isInfix).trans (List.suffix_append _ _).isInfix

end Shipped

/-- Flat texts are flat with a line end between them. -/
theorem Flat.append (hx : Flat x) (hy : Flat y) : Flat (x ++ '\n' :: y) := by
  induction x with
  | nil => exact ⟨fun h => absurd h (by decide), hy⟩
  | cons c x ih =>
      refine ⟨fun hc (h : _ ∈ (x ++ '\n' :: y).takeWhile _) => hx.1 hc ?_, ih hx.2⟩
      -- a brace before the next closing brace or line end stands within `x`
      rw [List.takeWhile_append] at h
      split at h
      · rename_i hl
        rw [(List.takeWhile_prefix _).eq_of_length hl]
        simpa using h
      · exact h

/-- An ASCII letter, a digit or an underscore. -/
def isNameChar (c : Char) : Bool := c.isAlphanum || c == '_'

/-- Whatever is filled in, the characters, read backwards, do not begin with a space and the end of
the word `public`. -/
def ApartBack : List Char → Prop
  | d :: e :: _ => d ≠ '\x7d' ∧ (d = ' ' → e ≠ 'c' ∧ e ≠ '\x7d')
  | _ => False

instance : (x : List Char) → Decidable (ApartBack x)
  | _ :: _ :: _ => inferInstanceAs (Decidable (_ ∧ _))
  | [_] => .isFalse id
  | [] => .isFalse id

/-- Before the name that the characters end in there is not the word `public`, whatever is filled
in. -/
def Apart (x : List Char) : Prop := ApartBack (x.reverse.dropWhile isNameChar)

instance (x : List Char) : Decidable (Apart x) := inferInstanceAs (Decidable (ApartBack _))

/-- What stands before a parenthesis is apart; the characters `x` stand before all. -/
def Guarded (x : List Char) : List Char → Prop
  | [] => True
  | c :: y => (c = '(' → Apart x) ∧ Guarded (x ++ [c]) y

instance decidableGuarded (x : List Char) : (y : List Char) → Decidable (Guarded x y)
  | [] => .isTrue trivial
  | c :: y =>
    have := decidableGuarded (x ++ [c]) y
    inferInstanceAs (Decidable (_ ∧ _))

theorem Guarded.apart (h : Guarded x (a ++ '(' :: b)) : Apart (x ++ a) := by
  induction a generalizing x with
  | nil => simpa using h.1 rfl
  | cons c a ih => simpa using ih h.2

theorem ApartBack.elim {l : List Char} (h : ApartBack l) :
    ∃ d e r, l = d :: e :: r ∧ d ≠ '\x7d' ∧ (d = ' ' → e ≠ 'c' ∧ e ≠ '\x7d') :=
  match l, h with
  | d :: e :: r, h => ⟨d, e, r, rfl, h⟩

/-- The segment holds no opening brace of its own. -/
def Segment.Plain : Segment → Prop
  | .text s => '\x7b' ∉ s.toList
  | .hole _ => True

instance : (z : Segment) → Decidable z.Plain
  | .text _ => inferInstanceAs (Decidable (¬_))
  | .hole _ => .isTrue trivial

theorem substitute_unparse (h : ∀ z ∈ l, z.Plain) :
    substitute values ((unparse l).toList ++ y) =
      (fill values l).toList ++ substitute values y := by
  induction l with
  | nil => rfl
  | cons z l ih =>
      obtain ⟨hz, hl⟩ := List.forall_mem_cons.mp h
      cases z with
      | text s =>
          rw [unparse, fill, String.toList_append, String.toList_append, List.append_assoc,
            Segment.source, substitute_append hz, ih hl, List.append_assoc]
      | hole p =>
          rw [unparse, fill, String.toList_append, String.toList_append, List.append_assoc,
            Segment.source, substitute_token, ih hl, List.append_assoc]

namespace Shipped

/-- A part of one of the lines is made of these segments. -/
structure Has (lines : List String) (l : List Segment) : Prop where
  /-- The segments hold no opening braces of their own. -/
  plain : ∀ z ∈ l, z.Plain
  /-- What stands before and behind them. -/
  exists_line : ∃ line ∈ lines, ∃ a b, '\x7b' ∉ a ∧ source line = a ++ ((unparse l).toList ++ b)

/-- A part of a line is filled in the body. -/
theorem Has.infix_fill (h : Has lines l) (values : Bindings) :
    (fill values l).toList <:+: substitute values (body lines).toList := by
  obtain ⟨line, hm, a, b, ha, hs⟩ := h.exists_line
  refine List.IsInfix.trans ⟨a, substitute values b, ?_⟩ (infix_substitute_body values hm)
  rw [hs, substitute_append ha, substitute_unparse h.plain, List.append_assoc]

theorem Has.occurs {p : Placeholder} (h : Has lines l) (hp : .hole p ∈ l) :
    Occurs p.token (body lines) := by
  have hbody := h.infix_fill Placeholder.token
  rw [fill_token, substitute_self] at hbody
  exact (infix_unparse_of_mem hp).trans hbody

/-- How the fragment is declared. -/
def declaration (c : Contract) : List Segment :=
  [.hole .accessor, .text " partial class ", .hole .className,
    .text (" : " ++ c.interfaceName ++ "<"), .hole .collectionType, .text ">"]

/-- How the constructor is declared. -/
def constructor : List Segment :=
  [.text "public ", .hole .className, .text "(IEnumerable<", .hole .collectionType,
    .text "> items)"]

/-- The type of the field that an owned store is in. -/
def storeType : Contract → String
  | .readOnlyList => "IReadOnlyList"
  | .list => "List"

/-- How the field is declared that an owned store is in. -/
def store (c : Contract) : List Segment :=
  [.text ("private readonly " ++ storeType c ++ "<"), .hole .collectionType, .text "> ",
    .hole .backingField, .text ";"]

theorem has_namespace (v : Variant) :
    Has (Shipped.lines v) [.text "namespace ", .hole .namespace] := by
  obtain ⟨_ | _, _ | _⟩ := v
  all_goals
    refine ⟨by decide, _, List.mem_of_getElem? (i := 4) rfl, [], [], by decide, ?_⟩
    rw [source, String.toList_ofList]
    decide +kernel

theorem has_declaration (v : Variant) : Has (Shipped.lines v) (declaration v.contract) := by
  obtain ⟨_ | _, _ | _⟩ := v
  all_goals
    refine ⟨by decide +kernel, _, List.mem_of_getElem? (i := 7) rfl, ['\t'], [], by decide, ?_⟩
    rw [source, String.toList_ofList]
    decide +kernel

theorem has_store (c : Contract) : Has (Shipped.lines ⟨c, .autoBacked⟩) (store c) := by
  cases c with
  | readOnlyList =>
      refine ⟨by decide +kernel, _, List.mem_of_getElem? (i := 24) rfl, ['\t', '\t'], [],
        by decide, ?_⟩
      rw [source, String.toList_ofList]
      decide +kernel
  | list =>
      refine ⟨by decide +kernel, _, List.mem_of_getElem? (i := 55) rfl, ['\t', '\t'], [],
        by decide, ?_⟩
      rw [source, String.toList_ofList]
      decide +kernel

/-- The field is read in every body. -/
theorem exists_has_backingField (v : Variant) :
    ∃ l, Has (Shipped.lines v) l ∧ .hole .backingField ∈ l := by
  obtain ⟨c, _ | _⟩ := v
  · exact ⟨_, has_store c, by simp [store]⟩
  · cases c with
    | readOnlyList =>
        refine ⟨[.text "public ", .hole .collectionType, .text " this[int index] => ",
          .hole .backingField], ⟨by decide, _, List.mem_of_getElem? (i := 19) rfl, ['\t', '\t'],
          "[index];".toList, by decide, ?_⟩, by simp⟩
        rw [source, String.toList_ofList]
        decide +kernel
    | list =>
        refine ⟨[.text "get => ", .hole .backingField], ⟨by decide, _,
          List.mem_of_getElem? (i := 48) rfl, ['\t', '\t', '\t'], "[index];".toList, by decide, ?_⟩,
          by simp⟩
        rw [source, String.toList_ofList]
        decide +kernel

/-- Every token occurs in every body. -/
theorem occurs_token (v : Variant) (p : Placeholder) : Occurs p.token (content v) := by
  cases p with
  | collectionType => exact (has_declaration v).occurs (by simp [declaration])
  | backingField =>
      obtain ⟨l, hl, hp⟩ := exists_has_backingField v
      exact hl.occurs hp
  | «namespace» => exact (has_namespace v).occurs (by simp)
  | className => exact (has_declaration v).occurs (by simp [declaration])
  | accessor => exact (has_declaration v).occurs (by simp [declaration])

/-! ### The catalog -/

/-- The template of a variant. -/
def template (v : Variant) : Template := ⟨v, content v, parse (content v)⟩

theorem ofContent_content (v : Variant) :
    Template.ofContent v (content v) = .ok (template v) :=
  Template.ofContent_eq_ok_iff.mpr ⟨rfl, occurs_token v⟩

theorem templates_eq : templates = Variant.all.map template := by
  rw [templates, ← List.filterMap_eq_map]
  refine List.filterMap_congr fun v _ => ?_
  rw [ofContent_content]
  rfl

/-- The catalog holds the template of every variant. -/
theorem get?_shipped (v : Variant) : Catalog.shipped.get? v = some (template v) := by
  rw [Catalog.shipped, templates_eq]
  obtain ⟨_ | _, _ | _⟩ := v <;> rfl

end Shipped

/-! ### Units -/

/-- The text holds no opening parenthesis and no brace. -/
def Unbracketed (text : String) : Prop := '(' ∉ text.toList ∧ BraceFree text

instance (text : String) : Decidable (Unbracketed text) := inferInstanceAs (Decidable (_ ∧ _))

/-- The text is made of ASCII letters, digits and underscores, as an identifier is. -/
def IsNameText (text : String) : Prop := ∀ c ∈ text.toList, isNameChar c

instance (text : String) : Decidable (IsNameText text) :=
  decidable_of_iff (text.toList.all isNameChar = true) List.all_eq_true

theorem IsNameText.unbracketed {text : String} (h : IsNameText text) : Unbracketed text := by
  refine ⟨fun hm => ?_, fun hm => ?_, fun hm => ?_⟩
  all_goals exact absurd (h _ hm) (by decide)

namespace Rendering

variable {r : Rendering}

/-- How the fragment is declared. -/
def declaration (r : Rendering) (c : Contract) : String :=
  r.accessibility.keyword ++ " partial class " ++ r.className ++ " : " ++ c.interfaceName ++
    "<" ++ r.elementType ++ ">"

/-- How the constructor is declared that takes the elements. -/
def constructor (r : Rendering) : String :=
  "public " ++ r.className ++ "(IEnumerable<" ++ r.elementType ++ "> items)"

/-- How the field is declared that an owned store is in. -/
def store (r : Rendering) (c : Contract) : String :=
  "private readonly " ++ Shipped.storeType c ++ "<" ++ r.elementType ++ "> " ++ r.backingField ++
    ";"

/-- The class has a plain name, and nothing is opened in the other texts. -/
structure Clear (r : Rendering) : Prop where
  /-- The name of the class is made of letters, digits and underscores. -/
  className : IsNameText r.className
  /-- The namespace opens nothing. -/
  scope : Unbracketed r.scope.text
  /-- The element type opens nothing. -/
  elementType : Unbracketed r.elementType
  /-- The field opens nothing. -/
  backingField : Unbracketed r.backingField

theorem Clear.plain (h : r.Clear) : r.Plain :=
  ⟨h.className.unbracketed.2, h.scope.2, h.elementType.2, h.backingField.2⟩

end Rendering

end Companion
