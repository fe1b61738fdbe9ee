import Companion.Proofs.Json.Rearranged

/-!
# Json — values that are read back

Every type of the data model is read back from what is written for it, and from any text in which
members of objects stand in another order or members of other names are added.  Each type is made of
simple values, lists, tagged values and records; so there is one law for each of these.

* `Restores`: a reader gives a value back from its JSON, however that is rearranged.
* `restores_list`, `Covers.restores` and `restores_holding`: lists, records and the tagged value.
* `Declaration.form` and others: where the types have objects, and which names these know.
* `RoundTrips` and `roundTrips`: the types of the data model.
-/

namespace Companion

namespace Json

/-- The reader gives the value back from the JSON value, however that is rearranged; and the JSON
value is one that is written faithfully. -/
structure Restores {α : Type} (form : Form) (room : Nat) (read : Json → Reading α) (j : Json)
    (a : α) : Prop where
  /-- It is written faithfully. -/
  fits : Fits room j
  /-- Its objects are as the form says. -/
  self : Rearranged form j j
  /-- It is read back. -/
  reads : ∀ j', Rearranged form j j' → read j' = .ok a

section

variable {α β : Type} {room : Nat} {f : Form} {read : Json → Reading α} {enc : α → Json} {j : Json}
  {a : α} {items : List Json} {xs : List α}

theorem fits_ofFields {fields : List (String × Json)} (h : ∀ x ∈ fields, Fits room x.2) :
    Fits (room + 1) (ofFields fields) := by
  refine .object ?_ ?_ <;> rw [List.forall_mem_map]
  · exact fun _ _ => rfl
  · exact h

/-! ### Simple values -/

theorem restores_leaf (hfits : Fits room j) (hread : read j = .ok a) :
    Restores .leaf room read j a where
  fits := hfits
  self := .leaf j
  reads j' h := by
    cases h
    exact hread

theorem restores_text (s : String) : Restores .leaf room Format.text (ofText s) s :=
  restores_leaf (.string s) rfl

theorem restores_path (s : String) : Restores .leaf room Format.path (ofText s) s :=
  restores_leaf (.string s) rfl

theorem restores_flag (b : Bool) : Restores .leaf room Format.flag (.boolean b) b :=
  restores_leaf (.boolean b) rfl

theorem restores_natural (n : UInt64) :
    Restores .leaf room DataFormat.natural (ofNatural n) n :=
  restores_leaf (.natural n) rfl

/-- A value that may be absent, if it is written as something but null. -/
theorem restores_option (h : ∀ a, Restores .leaf room read (enc a) a) (hnull : ∀ a, enc a ≠ .null)
    (x : Option α) : Restores .leaf room (Format.optional read) (ofOption enc x) x := by
  cases x with
  | none => exact restores_leaf .null rfl
  | some a =>
      refine restores_leaf (h a).fits ?_
      have hread : readOptional read (enc a) = some <$> read (enc a) := by
        rw [readOptional]
        exact hnull a
      exact hread.trans (by rw [(h a).reads _ (h a).self]; rfl)

theorem restores_choice {options : List (String × α)} {name : String}
    (h : options.lookup name = some a) :
    Restores .leaf room (Format.choice options) (ofText name) a := by
  refine restores_leaf (.string name) ?_
  show pick options name = .ok a
  rw [pick, h]

/-! ### Lists -/

/-- Items that are read back one by one are read back together. -/
theorem mapM_eq_ok (h : ∀ a, Restores f room read (enc a) a)
    (hitems : List.Forall₂ (Rearranged f) (xs.map enc) items) : items.mapM read = .ok xs := by
  induction xs generalizing items with
  | nil =>
      cases hitems
      rfl
  | cons a xs ih =>
      obtain _ | ⟨hj, hrest⟩ := hitems
      rw [List.mapM_cons, (h a).reads _ hj, ih hrest]
      rfl

theorem restores_list (h : ∀ a, Restores f room read (enc a) a) (xs : List α) :
    Restores (.list f) (room + 1) (DataFormat.list read) (ofList enc xs) xs where
  fits := .array (List.forall_mem_map.mpr fun a _ => (h a).fits)
  self := by
    rw [ofList]
    induction xs with
    | nil => exact .nil f
    | cons a xs ih => exact .cons (h a).self ih
  reads j' hj := by
    obtain ⟨items, rfl, hitems⟩ := hj.exists_items
    exact mapM_eq_ok h hitems

/-! ### Records -/

/-- A part of a record: the name of a field, the form of its value, and its value. -/
abbrev Part := String × Form × Json

/-- The record is the field of the name, read as said. -/
structure IsField (x : Record Json β) (name : String) (read : Json → Reading β) : Prop where
  /-- It has the name. -/
  names : x.names = [name]
  /-- If the field is there, its value is read. -/
  reads : ∀ (fields : Fields Json) (node : Nat × Json), fields.get? name = some node →
    x.read fields = Record.readAt read node

variable {r : Record Json (α → β)} {x : Record Json α} {g : α → β} {b : β} {parts : List Part}
  {name : String}

theorem isField_required (name : String) (read : Json → Reading α) :
    IsField (.required name read) name read :=
  ⟨rfl, fun fields node h => by simp only [Record.required, h]⟩

theorem isField_defaulted (name : String) (read : Json → Reading α) (default : α) :
    IsField (.defaulted name read default) name read :=
  ⟨rfl, fun fields node h => by simp only [Record.defaulted, h]⟩

theorem isField_optional (name : String) (read : Json → Reading (Option α)) :
    IsField (.optional name read) name read :=
  ⟨rfl, fun fields node h => by simp only [Record.optional, h]⟩

/-- The record has these parts, and gives the value for them wherever they are found, however their
values are rearranged. -/
structure Covers (r : Record Json α) (parts : List Part) (room : Nat) (a : α) : Prop where
  /-- Its fields are those of the parts. -/
  names : r.names = parts.map (·.1)
  /-- The values are written faithfully. -/
  fits : ∀ x ∈ parts, Fits room x.2.2
  /-- Their objects are as the forms say. -/
  self : ∀ x ∈ parts, Rearranged x.2.1 x.2.2 x.2.2
  /-- They are read back. -/
  reads : ∀ fields : Fields Json,
    (∀ x ∈ parts, ∃ k j', fields.get? x.1 = some (k, j') ∧ Rearranged x.2.1 x.2.2 j') →
      r.read fields = .ok a

theorem covers_pure (a : α) (room : Nat) : Covers (Pure.pure a : Record Json α) [] room a :=
  ⟨rfl, nofun, nofun, fun _ _ => rfl⟩

/-- One field more. -/
theorem Covers.field (h : Covers r parts room g) (hx : IsField x name read)
    (hj : Restores f room read j a) :
    Covers (r <*> x) (parts ++ [(name, f, j)]) room (g a) where
  names := by
    rw [List.map_append, ← h.names]
    exact congrArg (r.names ++ ·) hx.names
  fits y hy := by
    rcases List.mem_append.mp hy with hy | hy
    · exact h.fits y hy
    · rw [List.mem_singleton.mp hy]
      exact hj.fits
  self y hy := by
    rcases List.mem_append.mp hy with hy | hy
    · exact h.self y hy
    · rw [List.mem_singleton.mp hy]
      exact hj.self
  reads fields hfound := by
    have hr := h.reads fields fun y hy => hfound y (List.mem_append_left _ hy)
    obtain ⟨k, j', hget, hj'⟩ := hfound (name, f, j) (by simp)
    have ha : x.read fields = .ok a := by
      rw [hx.reads fields _ hget, Record.readAt, hj.reads j' hj']
    show (Record.both r x).read fields = .ok (g a)
    simp only [Record.both, hr, ha]

/-- The names and forms of the parts. -/
def partFields (parts : List Part) : List (String × Form) := parts.map fun x => (x.1, x.2.1)

theorem rearranged_parts {fields : List (String × Form)}
    (h : ∀ x ∈ parts, (x.1, x.2.1) ∈ fields ∧ Rearranged x.2.1 x.2.2 x.2.2) :
    Rearranged (.record fields) (.object (parts.map fun x => (some x.1, x.2.2)))
      (.object (parts.map fun x => (some x.1, x.2.2))) := by
  induction parts with
  | nil => exact .bare fields
  | cons x parts ih =>
      rw [List.forall_mem_cons] at h
      exact .member h.1.1 h.1.2 (ih h.2)

/-- A record is read back. -/
theorem Covers.restores {r : Record Json α} (h : Covers r parts room a)
    (hn : (parts.map (·.1)).Nodup) (name : String) :
    Restores (.record (partFields parts)) (room + 1) (Format.record name r)
      (.object (parts.map fun x => (some x.1, x.2.2))) a where
  fits := by
    refine .object ?_ ?_ <;> rw [List.forall_mem_map]
    · exact fun _ _ => rfl
    · exact h.fits
  self := rearranged_parts fun x hx => ⟨List.mem_map_of_mem hx, h.self x hx⟩
  reads j' hj := by
    obtain ⟨ms, rfl, hkeeps⟩ := hj.keeps
    have hfields : (partFields parts).map Prod.fst = parts.map (·.1) := by
      rw [partFields, List.map_map]
      rfl
    have hknown : (known ((partFields parts).map Prod.fst)
        (parts.map fun x => (some x.1, x.2.2))).Nodup := by
      rw [known, List.filterMap_map]
      exact List.Nodup.filter _ (by simpa [Function.comp_def] using hn)
    have hnames : ((parts.map fun x => (some x.1, x.2.2)).map Prod.fst).Nodup := by
      have hsome := hn.map fun _ _ => Option.some.inj
      simpa [List.map_map, Function.comp_def] using hsome
    have hstray := hkeeps.stray?_eq_none hknown
    have hread : r.read (namedFields ms) = .ok a := h.reads _ fun x hx =>
      hkeeps.exists_member? (hfields ▸ hn) hnames
        (List.mem_map_of_mem (f := fun x : Part => (x.1, x.2.1)) hx)
        (List.mem_map_of_mem (f := fun x : Part => (some x.1, x.2.2)) hx)
    rw [hfields, ← h.names] at hstray
    show readObject r ms = .ok a
    rw [readObject, hstray, hread]

/-! ### Tagged values -/

variable {t : Tagged α} {label alternative : String} {make : String → α}

/-- An alternative that holds nothing is read back. -/
theorem restores_bare (hlabel : pick t.alternatives label = .ok (.bare alternative a)) :
    Restores (.record (tagFields t)) (room + 1) (DataFormat.tagged t)
      (ofFields [(t.tag, ofText label)]) a where
  fits := fits_ofFields (by simpa using .string label)
  self := .member List.mem_cons_self (.leaf _) (.bare _)
  reads j' hj := by
    obtain ⟨ms, rfl, hkeeps⟩ := hj.keeps
    exact hkeeps.readTaggedObject_bare hlabel

/-- An alternative that holds a text is read back. -/
theorem restores_holding (hne : t.content ≠ t.tag)
    (hlabel : pick t.alternatives label = .ok (.holding make)) (s : String) :
    Restores (.record (tagFields t)) (room + 1) (DataFormat.tagged t)
      (ofFields [(t.tag, ofText label), (t.content, ofText s)]) (make s) where
  fits := fits_ofFields (by simpa using ⟨.string label, .string s⟩)
  self := .member List.mem_cons_self (.leaf _)
    (.member (List.mem_cons_of_mem _ List.mem_cons_self) (.leaf _) (.bare _))
  reads j' hj := by
    obtain ⟨ms, rfl, hkeeps⟩ := hj.keeps
    exact hkeeps.readTaggedObject_holding hne hlabel

end

end Json

open Json

variable {room : Nat}

/-! ### The host's types -/

theorem Accessibility.restores (a : Accessibility) :
    Restores .leaf room Accessibility.read a.toJson a :=
  restores_choice (by cases a <;> rfl)

theorem DeclarationKind.restores (k : DeclarationKind) :
    Restores .leaf room DeclarationKind.read k.toJson k :=
  restores_choice (by cases k <;> rfl)

/-- The objects of an argument. -/
def Argument.form : Form := .record [("kind", .leaf), ("value", .leaf)]

theorem Argument.restores (a : Argument) :
    Restores Argument.form (room + 1) Argument.read a.toJson a := by
  cases a with
  | null => exact restores_bare (t := Argument.tagged) rfl
  | type s => exact restores_holding (t := Argument.tagged) (by decide) rfl s
  | string s => exact restores_holding (t := Argument.tagged) (by decide) rfl s

/-- The objects of an attached annotation. -/
def Attribute.form : Form :=
  .record [("name", .leaf), ("namespace", .leaf), ("parameters", .list .leaf),
    ("arguments", .list Argument.form)]

theorem Attribute.restores (a : Attribute) :
    Restores Attribute.form (room + 3) Attribute.read a.toJson a := by
  have h := covers_pure Attribute.mk (room + 2)
    |>.field (isField_required "name" _) (restores_text a.name)
    |>.field (isField_defaulted "namespace" _ "") (restores_text a.namespace)
    |>.field (isField_defaulted "parameters" _ []) (restores_list restores_text a.parameters)
    |>.field (isField_defaulted "arguments" _ []) (restores_list Argument.restores a.arguments)
  exact h.restores (by simp) "AttributeInstance"

/-- The objects of a declaration. -/
def Declaration.form : Form :=
  .record [("symbol", .leaf), ("kind", .leaf), ("name", .leaf), ("namespace", .leaf),
    ("accessibility", .leaf), ("is_partial", .leaf), ("attributes", .list Attribute.form)]

theorem Declaration.restores (d : Declaration) :
    Restores Declaration.form (room + 5) Declaration.read d.toJson d := by
  have h := covers_pure Declaration.mk (room + 4)
    |>.field (isField_required "symbol" _) (restores_natural d.symbol)
    |>.field (isField_required "kind" _) d.kind.restores
    |>.field (isField_required "name" _) (restores_text d.name)
    |>.field (isField_defaulted "namespace" _ none)
      (restores_option restores_text nofun d.namespace)
    |>.field (isField_required "accessibility" _) d.accessibility.restores
    |>.field (isField_defaulted "is_partial" _ false) (restores_flag d.isPartial)
    |>.field (isField_defaulted "attributes" _ []) (restores_list Attribute.restores d.attributes)
  exact h.restores (by simp) "TypeDeclaration"

/-- The objects of a snapshot. -/
def Snapshot.form : Form :=
  .record [("assembly_name", .leaf), ("declarations", .list Declaration.form)]

theorem Snapshot.restores (s : Snapshot) :
    Restores Snapshot.form (room + 7) Snapshot.read s.toJson s := by
  have h := covers_pure Snapshot.mk (room + 6)
    |>.field (isField_defaulted "assembly_name" _ "") (restores_text s.assemblyName)
    |>.field (isField_defaulted "declarations" _ [])
      (restores_list Declaration.restores s.declarations)
  exact h.restores (by simp) "CompilationSnapshot"

/-! ### What is generated and reported -/

/-- The objects of a class's parameters. -/
def Parameters.form : Form := .record [("element_type", .leaf), ("backing_field", .leaf)]

theorem Parameters.restores (p : Parameters) :
    Restores Parameters.form (room + 1) Parameters.read p.toJson p := by
  have h := covers_pure Parameters.mk room
    |>.field (isField_required "element_type" _) (restores_text p.elementType)
    |>.field (isField_optional "backing_field" _)
      (restores_option restores_text nofun p.backingField)
  exact h.restores (by simp) "GenerationParameters"

/-- The objects of a unit. -/
def SourceUnit.form : Form := .record [("identity", .leaf), ("text", .leaf)]

theorem SourceUnit.restores (u : SourceUnit) :
    Restores SourceUnit.form (room + 1) SourceUnit.read u.toJson u := by
  have h := covers_pure SourceUnit.mk room
    |>.field (isField_required "identity" _) (restores_text u.identity)
    |>.field (isField_required "text" _) (restores_text u.text)
  exact h.restores (by simp) "RenderedUnit"

theorem Severity.restores (s : Severity) : Restores .leaf room Severity.read s.toJson s :=
  restores_choice (by cases s <;> rfl)

/-- The objects of a report. -/
def Diagnostic.form : Form :=
  .record [("id", .leaf), ("severity", .leaf), ("message", .leaf), ("symbol", .leaf),
    ("type_name", .leaf)]

theorem Diagnostic.restores (d : Diagnostic) :
    Restores Diagnostic.form (room + 1) Diagnostic.read d.toJson d := by
  have h := covers_pure Diagnostic.mk room
    |>.field (isField_required "id" _) (restores_text d.id)
    |>.field (isField_required "severity" _) d.severity.restores
    |>.field (isField_required "message" _) (restores_text d.message)
    |>.field (isField_optional "symbol" _) (restores_option restores_natural nofun d.symbol)
    |>.field (isField_optional "type_name" _) (restores_option restores_text nofun d.typeName)
  exact h.restores (by simp) "Diagnostic"

/-! ### Settings -/

theorem TokenPolicy.restores (p : TokenPolicy) : Restores .leaf room TokenPolicy.read p.toJson p :=
  restores_choice (by cases p <;> rfl)

/-- The objects of settings. -/
def Settings.form : Form :=
  .record [("default_backing_field", .leaf), ("identity_suffix", .leaf),
    ("annotation_namespace", .leaf), ("namespace_tokens", .leaf), ("parallel", .leaf),
    ("template_dir", .leaf)]

theorem Settings.restores (s : Settings) :
    Restores Settings.form (room + 1) Settings.read s.toJson s := by
  let standard : Settings := {}
  have h := covers_pure Settings.mk room
    |>.field (isField_defaulted "default_backing_field" _ standard.defaultBackingField)
      (restores_text s.defaultBackingField)
    |>.field (isField_defaulted "identity_suffix" _ standard.identitySuffix)
      (restores_text s.identitySuffix)
    |>.field (isField_defaulted "annotation_namespace" _ standard.annotationNamespace)
      (restores_text s.annotationNamespace)
    |>.field (isField_defaulted "namespace_tokens" _ standard.namespaceTokens)
      s.namespaceTokens.restores
    |>.field (isField_defaulted "parallel" _ standard.parallel) (restores_flag s.parallel)
    |>.field (isField_defaulted "template_dir" _ standard.templateDir)
      (restores_option restores_path nofun s.templateDir)
  exact h.restores (by simp) "GeneratorConfig"

namespace Json

/-! ### Texts -/

/-- Texts of the values of the type are read back.  This holds for the text that is written for a
value; and for every text of a JSON value which is that of the value but for the order of members of
objects, and for members of names that the objects do not know. -/
def RoundTrips {α : Type} (form : Form) (toJson : α → Json) (read : Json → Reading α) : Prop :=
  ∀ a, Json.read (text (toJson a)) = ⟨toJson a, true⟩ ∧
    decode read (text (toJson a)) = .ok a ∧
    (∀ t j, Json.read t = ⟨j, true⟩ → Rearranged form (toJson a) j → decode read t = .ok a) ∧
    ∀ j, Rearranged form (toJson a) j → Fits depthLimit j → decode read (text j) = .ok a

theorem roundTrips_of_restores {α : Type} {form : Form} {toJson : α → Json}
    {read : Json → Reading α} (h : ∀ a, Restores form depthLimit read (toJson a) a) :
    RoundTrips form toJson read := by
  have htext : ∀ a t j, Json.read t = ⟨j, true⟩ → Rearranged form (toJson a) j →
      decode read t = .ok a := by
    intro a t j ht hj
    rw [decode, ht]
    dsimp only
    rw [(h a).reads j hj]
    rfl
  exact fun a => ⟨read_text (h a).fits, htext a _ _ (read_text (h a).fits) (h a).self, htext a,
    fun j hj hfits => htext a _ j (read_text hfits) hj⟩

/-- **What is written is read back.**  The texts of snapshots, reports, parameters, units and
settings are read back as the value that they were written for.  Nothing changes if the members of
an object are put in another order, with the content of an argument before its tag as well, or if
members are added that the object does not know, with any JSON value. -/
theorem roundTrips :
    RoundTrips Snapshot.form Snapshot.toJson Snapshot.read ∧
    RoundTrips Diagnostic.form Diagnostic.toJson Diagnostic.read ∧
    RoundTrips Parameters.form Parameters.toJson Parameters.read ∧
    RoundTrips SourceUnit.form SourceUnit.toJson SourceUnit.read ∧
    RoundTrips Settings.form Settings.toJson Settings.read :=
  ⟨roundTrips_of_restores fun s => s.restores, roundTrips_of_restores fun d => d.restores,
    roundTrips_of_restores fun p => p.restores, roundTrips_of_restores fun u => u.restores,
    roundTrips_of_restores fun s => s.restores⟩

/-- The theorem at a snapshot with an argument, in which the declarations come before the assembly's
name, a member is added to the declaration, and the content of the argument comes before its tag. -/
theorem roundTrips_cart :
    let x : Argument := .string "\"rows\"\n\u2003"
    let a : Attribute := ⟨"GenerateList", "Shop", ["backingField"], [x]⟩
    let d : Declaration := ⟨18446744073709551615, .class, "Cart", none, .public, true, [a]⟩
    let s : Snapshot := ⟨"Shop", [d]⟩
    let x' := ofFields [("value", ofText "\"rows\"\n\u2003"), ("kind", ofText "string")]
    let a' := ofFields [("name", ofText "GenerateList"), ("namespace", ofText "Shop"),
      ("parameters", .array [ofText "backingField"]), ("arguments", .array [x'])]
    let d' := ofFields [("note", .array [.null]), ("symbol", ofNatural 18446744073709551615),
      ("kind", ofText "class"), ("name", ofText "Cart"), ("namespace", .null),
      ("accessibility", ofText "public"), ("is_partial", .boolean true),
      ("attributes", .array [a'])]
    let s' := ofFields [("declarations", .array [d']), ("assembly_name", ofText "Shop")]
    decode Snapshot.read (text s.toJson) = .ok s ∧ decode Snapshot.read (text s') = .ok s := by
  intro x a d s x' a' d' s'
  have hx : Rearranged Argument.form x.toJson x' :=
    .perm (.member (by simp) (.leaf _) <| .member (by simp) (.leaf _) (.bare _))
      (List.Perm.swap _ _ _)
  have ha : Rearranged Attribute.form a.toJson a' :=
    .member (by simp) (.leaf _) <| .member (by simp) (.leaf _) <|
      .member (by simp) (.cons (.leaf _) (.nil _)) <|
      .member (by simp) (.cons hx (.nil _)) (.bare _)
  have hd : Rearranged Declaration.form d.toJson d' :=
    .surplus (by decide) rfl <| .member (by simp) (.leaf _) <| .member (by simp) (.leaf _) <|
      .member (by simp) (.leaf _) <| .member (by simp) (.leaf _) <|
      .member (by simp) (.leaf _) <| .member (by simp) (.leaf _) <|
      .member (by simp) (.cons ha (.nil _)) (.bare _)
  have hs : Rearranged Snapshot.form s.toJson s' :=
    .perm (.member (by simp) (.leaf _) <| .member (by simp) (.cons hd (.nil _)) (.bare _))
      (List.Perm.swap _ _ _)
  obtain ⟨-, hread, -, hother⟩ := roundTrips.1 s
  have hx' : Fits 121 x' := fits_ofFields (by simpa using ⟨.string _, .string _⟩)
  have ha' : Fits 123 a' :=
    fits_ofFields (by simpa using ⟨.string _, .string _, .array (by simpa using .string _),
      .array (by simpa using hx')⟩)
  have hd' : Fits 125 d' :=
    fits_ofFields (by simpa using ⟨.array (by simpa using .null), .natural _, .string _, .string _,
      .null, .string _, .boolean _, .array (by simpa using ha')⟩)
  have hs' : Fits 127 s' :=
    fits_ofFields (by simpa using ⟨.array (by simpa using hd'), .string _⟩)
  exact ⟨hread, hother s' hs hs'⟩

end Json

end Companion
