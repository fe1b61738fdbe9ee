import Companion.Proofs.Directories.Inputs
import Companion.Proofs.Passes.Endings
import Companion.Proofs.Settings.Variables
import Mathlib

/-!
# Settings — layers

The defaults, a file and the variables lie over one another.  Each text setting is that of the
uppermost layer that gives it.  What a variable gives is what its text is taken for, as a text.

* `TextSetting` and `Settings.overlaid`: the settings that are texts, and settings with a layer over
  them.
* `Settings.read_cases`: what is read from a table that gives texts.
* `SettingsSource.shows_layered`: what the layers give for text settings.
* `SettingsSource.settings_cases`: what is made of it.
* `SettingsSource.layering`: which settings are loaded, and when they are those of the layers as
  they stand.
-/

namespace Companion

/-! ### Settings that are texts -/

/-- The settings that are texts. -/
inductive TextSetting where
  /-- The name of the owned store. -/
  | backingField
  /-- What the identity of a class's unit ends in. -/
  | suffix
  /-- The namespace that annotations are declared in. -/
  | annotationNamespace
  /-- A directory whose templates replace the shipped ones. -/
  | templateDir
  deriving DecidableEq, Repr

/-- The name in a source. -/
def TextSetting.name : TextSetting → String
  | .backingField => "default_backing_field"
  | .suffix => "identity_suffix"
  | .annotationNamespace => "annotation_namespace"
  | .templateDir => "template_dir"

/-- Texts for some of these settings. -/
abbrev Layer := TextSetting → Option String

namespace Settings

/-- The text of a setting; none if there is no directory. -/
def text? (s : Settings) : Layer
  | .backingField => some s.defaultBackingField
  | .suffix => some s.identitySuffix
  | .annotationNamespace => some s.annotationNamespace
  | .templateDir => s.templateDir

/-- The settings with a layer over them. -/
def overlaid (s : Settings) (layer : Layer) : Settings :=
  { s with
    defaultBackingField := (layer .backingField).getD s.defaultBackingField
    identitySuffix := (layer .suffix).getD s.identitySuffix
    annotationNamespace := (layer .annotationNamespace).getD s.annotationNamespace
    templateDir := (layer .templateDir).or s.templateDir }

variable {s : Settings} {layer layer' : Layer}

@[simp]
theorem text?_overlaid (s : Settings) (layer : Layer) (k : TextSetting) :
    (s.overlaid layer).text? k = (layer k).or (s.text? k) := by
  cases k with
  | templateDir => rfl
  | backingField => cases h : layer .backingField <;> simp [overlaid, text?, h]
  | suffix => cases h : layer .suffix <;> simp [overlaid, text?, h]
  | annotationNamespace => cases h : layer .annotationNamespace <;> simp [overlaid, text?, h]

theorem overlaid_overlaid (s : Settings) (layer layer' : Layer) :
    (s.overlaid layer).overlaid layer' = s.overlaid fun k => (layer' k).or (layer k) := by
  simp only [overlaid, Option.or_assoc, Option.getD_or]

/-- Layers that give texts for the same settings make the same of them just if they agree. -/
theorem overlaid_congr (h : ∀ k, (layer k).isSome = (layer' k).isSome) :
    s.overlaid layer = s.overlaid layer' ↔ layer = layer' := by
  constructor
  · intro heq
    funext k
    have hk := congrArg (fun s : Settings => s.text? k) heq
    have hs := h k
    simp only [text?_overlaid] at hk
    cases hl : layer k with
    | none =>
        rw [hl] at hs
        exact (Option.not_isSome_iff_eq_none.mp (by simp [← hs])).symm
    | some text =>
        cases hl' : layer' k with
        | none =>
            rw [hl, hl'] at hs
            cases hs
        | some text' =>
            rw [hl, hl'] at hk
            exact hk
  · rintro rfl
    rfl

/-- Texts that are changed make the same settings just if each of them stays as it is. -/
theorem overlaid_map_eq_iff {f : String → String} :
    (s.overlaid fun k => (layer k).map f) = s.overlaid layer ↔ ∀ k text, layer k = some text →
      f text = text := by
  rw [overlaid_congr fun k => Option.isSome_map]
  constructor
  · intro h k text htext
    have hk := congrFun h k
    rw [htext] at hk
    exact Option.some.inj hk
  · intro h
    funext k
    cases hk : layer k with
    | none => rfl
    | some text => rw [Option.map_some, h k text hk]

/-- In settings that are accepted, the backing field and the namespace are made of identifiers. -/
theorem dotted_of_validate {k : TextSetting} {text : String} (h : s.validate = .ok ())
    (hk : k = .backingField ∨ k = .annotationNamespace) (htext : s.text? k = some text) :
    Dotted text.toList := by
  rcases s.validate_cases with ⟨-, hfield, -, hnamespace⟩ | ⟨fault, herror, -⟩
  · rcases hk with rfl | rfl
    · obtain rfl := Option.some.inj htext
      exact hfield.dotted
    · obtain rfl := Option.some.inj htext
      exact hnamespace
  · rw [h] at herror
    cases herror

end Settings

/-! ### What the sources give -/

/-- The text, if the value is one. -/
def SettingValue.text? : SettingValue → Option String
  | .text s => some s
  | _ => none

/-- The texts that a file gives. -/
def fileLayer (file : List (String × SettingValue)) : Layer :=
  fun k => (SettingValue.given? file k.name).bind SettingValue.text?

/-- For text settings, the file gives texts. -/
def GivesTexts (file : List (String × SettingValue)) : Prop :=
  ∀ e ∈ file, ∀ k : TextSetting, Key.isFor k.name e.1 →
    (Key.ofText e.1).steps = [] ∧ ∃ text, e.2 = .text text

namespace Environment

/-- The texts of variables for text settings; of several for one setting, the last. -/
def layer (mark : String) (env : Variables) : Layer := fun k =>
  (env.reverse.find? fun v => (key? mark v.1).any (Key.isFor k.name)).map Prod.snd

/-- For text settings, the variables give texts, and no places below them. -/
def GivesTexts (mark : String) (env : Variables) : Prop :=
  ∀ v ∈ env, ∀ key, key? mark v.1 = some key → ∀ k : TextSetting, Key.isFor k.name key →
    (Key.ofText key).steps = []

variable {mark : String} {env : Variables}

theorem layer_concat (mark : String) (env : Variables) (name text : String) (k : TextSetting) :
    layer mark (env ++ [(name, text)]) k =
      if (key? mark name).any (Key.isFor k.name) then some text else layer mark env k := by
  rw [layer, List.reverse_concat, List.find?_cons]
  dsimp only
  cases (key? mark name).any (Key.isFor k.name) <;> rfl

theorem settings_concat (mark : String) (env : Variables) (name text : String) :
    settings mark (env ++ [(name, text)]) =
      settings mark env ++ ((key? mark name).map fun key => (key, value text)).toList := by
  rw [settings, List.filterMap_append]
  cases h : key? mark name <;> simp [settings, h]

/-- The value of a variable is what its text is taken for. -/
theorem given?_settings (mark : String) (env : Variables) (k : TextSetting) :
    SettingValue.given? (settings mark env) k.name = (layer mark env k).map value := by
  induction env using List.reverseRecOn with
  | nil => rfl
  | append_singleton env v ih =>
      obtain ⟨name, text⟩ := v
      rw [settings_concat, layer_concat]
      cases hkey : key? mark name with
      | none => simpa using ih
      | some key =>
          rw [Option.map_some, Option.toList_some, SettingValue.given?_concat, ih, Option.any_some]
          split <;> rfl

end Environment

theorem given?_file {file : List (String × SettingValue)} (h : GivesTexts file) (k : TextSetting) :
    SettingValue.given? file k.name = (fileLayer file k).map .text := by
  rw [fileLayer]
  cases hgiven : SettingValue.given? file k.name with
  | none => rfl
  | some v =>
      obtain ⟨e, he, rfl⟩ := Option.map_eq_some_iff.mp hgiven
      obtain ⟨-, text, htext⟩ := h e (List.mem_reverse.mp (List.mem_of_find?_eq_some he)) k
        (by simpa using List.find?_some he)
      rw [htext]
      rfl

/-! ### What is read -/

namespace Record

variable {ν α β : Type} {f : Record ν (α → β)} {x : Record ν α} {fields : Fields ν} {g : α → β}
  {a : α}

theorem read_seq_ok (hf : f.read fields = .ok g) (hx : x.read fields = .ok a) :
    (f <*> x).read fields = .ok (g a) := by
  change (both f x).read fields = _
  simp only [both, hf, hx]

theorem read_map_ok (h : x.read fields = .ok a) : (g <$> x).read fields = .ok (g a) :=
  read_seq_ok rfl h

theorem read_seq_error
    (h : (∃ e, f.read fields = .error e) ∨ ∃ e, x.read fields = .error e) :
    ∃ e, (f <*> x).read fields = .error e := by
  change ∃ e, (both f x).read fields = .error e
  simp only [both]
  rcases h with ⟨e, he⟩ | ⟨e, he⟩
  · rw [he]
    cases x.read fields <;> exact ⟨_, rfl⟩
  · rw [he]
    cases f.read fields <;> exact ⟨_, rfl⟩

end Record

namespace SettingValue

variable {α : Type} {t : SettingValue} {es : List (String × SettingValue)} {name : String}
  {read : SettingValue → Reading α} {standard a : α} {layer : Layer}

/-- The fields of a table. -/
def fields (es : List (String × SettingValue)) : Fields SettingValue :=
  ⟨atKey? es, fun name => ⟨0, .missingField name⟩, true⟩

/-- What is read under a name, or the default if nothing is there. -/
def readUnder (t : SettingValue) (name : String) (read : SettingValue → Reading α)
    (standard : α) : Reading α :=
  match t.get? name with
  | none => .ok standard
  | some v => read v

theorem read_defaulted (es : List (String × SettingValue)) (name : String)
    (read : SettingValue → Reading α) (standard : α) :
    (Record.defaulted name read standard).read (fields es) =
      ((table es).readUnder name read standard).mapError (⟨0, ·⟩) := by
  have hget : (table es).get? name = es.lookup name := rfl
  rw [Record.defaulted, readUnder, hget]
  simp only [fields, atKey?]
  cases es.lookup name with
  | none => rfl
  | some v =>
      simp only [Option.map_some, Record.readAt]
      cases read v <;> rfl

theorem read_defaulted_ok (h : (table es).readUnder name read standard = .ok a) :
    (Record.defaulted name read standard).read (fields es) = .ok a := by
  rw [read_defaulted, h]
  rfl

theorem read_defaulted_error {problem : Problem}
    (h : (table es).readUnder name read standard = .error problem) :
    ∃ e, (Record.defaulted name read standard).read (fields es) = .error e := by
  rw [read_defaulted, h]
  exact ⟨_, rfl⟩

/-- What is found for the text settings reads as the texts of a layer. -/
structure Shows (t : SettingValue) (layer : Layer) : Prop where
  /-- Where nothing is found, there is no text. -/
  absent : ∀ k : TextSetting, t.get? k.name = none → layer k = none
  /-- What is found reads as the text. -/
  present : ∀ (k : TextSetting) (v : SettingValue), t.get? k.name = some v →
    v.Replaces ∧ ∃ text, layer k = some text ∧ v.readText = .ok text

theorem Shows.readUnder_text (h : t.Shows layer) (k : TextSetting) (standard : String) :
    t.readUnder k.name readText standard = .ok ((layer k).getD standard) := by
  rw [readUnder]
  cases hget : t.get? k.name with
  | none => rw [h.absent k hget, Option.getD_none]
  | some v =>
      obtain ⟨-, text, hlayer, hread⟩ := h.present k v hget
      dsimp only
      rw [hread, hlayer, Option.getD_some]

theorem Shows.readUnder_optional (h : t.Shows layer) (k : TextSetting)
    (standard : Option String) :
    t.readUnder k.name (readOptional readText) standard = .ok ((layer k).or standard) := by
  rw [readUnder]
  cases hget : t.get? k.name with
  | none => rw [h.absent k hget, Option.none_or]
  | some v =>
      obtain ⟨hv, text, hlayer, hread⟩ := h.present k v hget
      have hoptional : readOptional readText v = some <$> readText v := by
        cases hv <;> rfl
      dsimp only
      rw [hoptional, hread, hlayer, Option.some_or]
      rfl

theorem readRecord_table (r : Record SettingValue α) (es : List (String × SettingValue)) :
    readRecord r (table es) = (r.read (fields es)).mapError Fault.problem := by
  have hfields : (⟨atKey? es, fun name => ⟨0, .missingField name⟩, true⟩ : Fields SettingValue) =
    fields es := rfl
  rw [readRecord, hfields]
  cases r.read (fields es) <;> rfl

theorem get?_ne_none_of_error {problem : Problem}
    (h : t.readUnder name read standard = .error problem) : t.get? name ≠ none := by
  intro hget
  rw [readUnder, hget] at h
  cases h

theorem eq_of_get?_eq_none (h : t.readUnder name read standard = .ok a)
    (hget : t.get? name = none) : a = standard := by
  rw [readUnder, hget] at h
  exact (Except.ok.inj h).symm

end SettingValue

namespace Settings

open SettingValue

variable {es : List (String × SettingValue)} {layer : Layer} {tokens : TokenPolicy} {flag : Bool}
  {problem : Problem}

theorem read_of_shows (h : (table es).Shows layer)
    (htokens : (table es).readUnder "namespace_tokens" TokenPolicy.read .random = .ok tokens)
    (hflag : (table es).readUnder "parallel" readFlag true = .ok flag) :
    Settings.read (table es) =
      .ok (({ namespaceTokens := tokens, parallel := flag } : Settings).overlaid layer) := by
  have htexts (k : TextSetting) (standard : String) :=
    read_defaulted_ok (h.readUnder_text k standard)
  have hdirectory := read_defaulted_ok (h.readUnder_optional .templateDir none)
  have hall : (Settings.record : Record SettingValue Settings).read (fields es) = .ok
      ⟨(layer .backingField).getD _, (layer .suffix).getD _, (layer .annotationNamespace).getD _,
        tokens, flag, (layer .templateDir).or none⟩ :=
    Record.read_seq_ok (Record.read_seq_ok (Record.read_seq_ok (Record.read_seq_ok
      (Record.read_seq_ok (Record.read_map_ok (htexts .backingField _)) (htexts .suffix _))
        (htexts .annotationNamespace _)) (read_defaulted_ok htokens)) (read_defaulted_ok hflag))
      hdirectory
  exact (readRecord_table _ es).trans (by rw [hall]; rfl)

theorem read_of_tokens
    (h : (table es).readUnder "namespace_tokens" TokenPolicy.read .random = .error problem) :
    ∃ problem, Settings.read (table es) = .error problem := by
  obtain ⟨fault, hall⟩ : ∃ fault, (Settings.record : Record SettingValue Settings).read
      (fields es) = .error fault :=
    Record.read_seq_error (.inl (Record.read_seq_error (.inl (Record.read_seq_error (.inr
      (read_defaulted_error h))))))
  exact ⟨_, (readRecord_table _ es).trans (by rw [hall]; rfl)⟩

theorem read_of_flag
    (h : (table es).readUnder "parallel" readFlag true = .error problem) :
    ∃ problem, Settings.read (table es) = .error problem := by
  obtain ⟨fault, hall⟩ : ∃ fault, (Settings.record : Record SettingValue Settings).read
      (fields es) = .error fault :=
    Record.read_seq_error (.inl (Record.read_seq_error (.inr (read_defaulted_error h))))
  exact ⟨_, (readRecord_table _ es).trans (by rw [hall]; rfl)⟩

/-- A table whose text settings read as texts is read, unless something else is found where the
policy of tokens or a truth value is to be. -/
theorem read_cases (h : (table es).Shows layer) :
    (∃ problem, Settings.read (table es) = .error problem ∧
      ∃ name ∈ ["namespace_tokens", "parallel"], (table es).get? name ≠ none) ∨
    ∃ tokens flag,
      Settings.read (table es) =
        .ok (({ namespaceTokens := tokens, parallel := flag } : Settings).overlaid layer) ∧
      ((table es).get? "namespace_tokens" = none → tokens = .random) ∧
      ((table es).get? "parallel" = none → flag = true) := by
  cases htokens : (table es).readUnder "namespace_tokens" TokenPolicy.read .random with
  | error problem =>
      obtain ⟨problem, hread⟩ := read_of_tokens htokens
      exact .inl ⟨problem, hread, _, by simp, get?_ne_none_of_error htokens⟩
  | ok tokens =>
      cases hflag : (table es).readUnder "parallel" readFlag true with
      | error problem =>
          obtain ⟨problem, hread⟩ := read_of_flag hflag
          exact .inl ⟨problem, hread, _, by simp, get?_ne_none_of_error hflag⟩
      | ok flag =>
          exact .inr ⟨tokens, flag, read_of_shows h htokens hflag, eq_of_get?_eq_none htokens,
            eq_of_get?_eq_none hflag⟩

end Settings

/-! ### What is loaded -/

theorem TextSetting.lower_name (k : TextSetting) : Text.lower k.name = k.name := by
  cases k <;> decide +kernel

namespace SettingsSource

variable {σ : Type} [FileSystem (StateM σ)] {a b c : σ} {source : SettingsSource}
  {env : Environment.Variables} {mark name : String} {file given : List (String × SettingValue)}
  {outcome : Except SettingsFault Settings}

/-- The entries of the file; none if there is no file. -/
def Reads (source : SettingsSource) (a : σ) (file : List (String × SettingValue)) (b : σ) : Prop :=
  ∃ text, (source.text? : StateM σ _).run a = (text, b) ∧
    (match text with
      | none => some []
      | some text => Toml.read? text) = some file

theorem load_run (h : source.Reads a file b) :
    (source.load env : StateM σ _).run a =
      (settings file (Environment.settings source.mark env), b) := by
  obtain ⟨text, htext, hread⟩ := h
  rw [load, Sink.run_bind, htext]
  cases text with
  | none =>
      cases hread
      rfl
  | some text =>
      dsimp only at hread ⊢
      rw [hread]
      rfl

/-- What is found for a text setting: the value of a variable, or else the text of the file. -/
theorem layered_get? (hfile : GivesTexts file) (henv : Environment.GivesTexts mark env)
    (k : TextSetting) :
    (layered file (Environment.settings mark env)).get? k.name =
      ((Environment.layer mark env k).map Environment.value).or
        ((fileLayer file k).map .text) := by
  rw [layered, SettingValue.get?_setAll k.lower_name, SettingValue.get?_setAll k.lower_name,
    Environment.given?_settings, given?_file hfile]
  · exact congrArg _ (Option.or_none)
  · intro e he hfor
    obtain ⟨hsteps, text, htext⟩ := hfile e he k hfor
    exact ⟨hsteps, htext ▸ .text text⟩
  · intro e he hfor
    obtain ⟨v, hv, hkey⟩ := List.mem_filterMap.mp he
    obtain ⟨key, hmark, rfl⟩ := Option.map_eq_some_iff.mp hkey
    exact ⟨henv v hv key hmark k hfor, Environment.replaces_value v.2⟩

/-- The texts that the layers give for the text settings. -/
def carriedLayer (mark : String) (env : Environment.Variables)
    (file : List (String × SettingValue)) : Layer := fun k =>
  ((Environment.layer mark env k).map Environment.carried).or (fileLayer file k)

theorem shows_layered (hfile : GivesTexts file) (henv : Environment.GivesTexts mark env) :
    (layered file (Environment.settings mark env)).Shows (carriedLayer mark env file) where
  absent k h := by
    rw [layered_get? hfile henv] at h
    rw [carriedLayer]
    cases hlayer : Environment.layer mark env k with
    | some text =>
        rw [hlayer] at h
        cases h
    | none =>
        rw [hlayer] at h
        exact Option.map_eq_none_iff.mp h
  present k v h := by
    rw [layered_get? hfile henv] at h
    rw [carriedLayer]
    cases hlayer : Environment.layer mark env k with
    | some text =>
        rw [hlayer] at h
        cases h
        exact ⟨Environment.replaces_value text, _, rfl, Environment.readText_value text⟩
    | none =>
        rw [hlayer] at h
        obtain ⟨text, htext, rfl⟩ := Option.map_eq_some_iff.mp h
        exact ⟨.text text, text, htext, rfl⟩

/-- Nothing is found under a name for which nothing is given. -/
theorem exists_isFor_of_get? (hname : Text.lower name = name)
    (h : (layered file given).get? name ≠ none) : ∃ e ∈ file ++ given, Key.isFor name e.1 := by
  by_contra hno
  have hfor : ∀ e ∈ file ++ given, Key.isFor name e.1 = false := fun e he =>
    Bool.eq_false_iff.mpr fun hfor => hno ⟨e, he, hfor⟩
  refine h ?_
  rw [layered,
    SettingValue.get?_setAll_of_none hname _ fun e he => hfor e (List.mem_append_right _ he),
    SettingValue.get?_setAll_of_none hname _ fun e he => hfor e (List.mem_append_left _ he)]
  rfl

theorem settings_eq_of_read {s : Settings} (h : Settings.read (layered file given) = .ok s) :
    settings file given = s.validate.map fun _ => s := by
  rw [settings, h]
  dsimp only
  cases s.validate with
  | error fault => rfl
  | ok u => rfl

theorem exists_layered_eq_table (file given : List (String × SettingValue)) :
    ∃ es, layered file given = .table es := by
  obtain ⟨es, hes⟩ := SettingValue.exists_setAll_eq_table [] file
  rw [layered, hes]
  exact SettingValue.exists_setAll_eq_table es given

/-- What the layers make is read and checked, unless something else than a text setting keeps it
from being read. -/
theorem settings_cases (hfile : GivesTexts file) (henv : Environment.GivesTexts mark env) :
    (settings file (Environment.settings mark env) = .error .unreadable ∧
      ∃ name ∈ ["namespace_tokens", "parallel"],
        ∃ e ∈ file ++ Environment.settings mark env, Key.isFor name e.1) ∨
    ∃ tokens flag,
      let loaded := ({ namespaceTokens := tokens, parallel := flag } : Settings).overlaid
        (carriedLayer mark env file)
      settings file (Environment.settings mark env) = (loaded.validate.map fun _ => loaded) ∧
      ((∀ name ∈ ["namespace_tokens", "parallel"],
        ∀ e ∈ file ++ Environment.settings mark env, ¬Key.isFor name e.1) →
          tokens = .random ∧ flag = true) := by
  have hlower : ∀ name ∈ ["namespace_tokens", "parallel"], Text.lower name = name := by
    decide +kernel
  have hgiven : ∀ name ∈ ["namespace_tokens", "parallel"],
      (layered file (Environment.settings mark env)).get? name ≠ none →
        ∃ e ∈ file ++ Environment.settings mark env, Key.isFor name e.1 :=
    fun name hname => exists_isFor_of_get? (hlower name hname)
  obtain ⟨es, hes⟩ := exists_layered_eq_table file (Environment.settings mark env)
  have hshows := shows_layered hfile henv
  rw [hes] at hshows hgiven
  rcases Settings.read_cases hshows with ⟨problem, hread, name, hname, hget⟩ |
    ⟨tokens, flag, hread, htokens, hflag⟩
  · refine .inl ⟨?_, name, hname, hgiven name hname hget⟩
    rw [settings, hes, hread]
  · refine .inr ⟨tokens, flag, settings_eq_of_read (by rw [hes]; exact hread), fun hnone => ?_⟩
    have hnothing : ∀ name ∈ ["namespace_tokens", "parallel"],
        (SettingValue.table es).get? name = none := fun name hname => by
      by_contra hget
      obtain ⟨e, he, hfor⟩ := hgiven name hname hget
      exact hnone name hname e he hfor
    exact ⟨htokens (hnothing _ (by simp)), hflag (hnothing _ (by simp))⟩

/-- **Which settings are loaded.**  Let the file, if there is one, and the variables give texts for
text settings, or nothing.

* The settings are the defaults with the file's texts over them, and over these the texts of the
  variables, each as it comes through; they are then checked.  Something else that is given for the
  policy of tokens or for the truth value may count, or stop the settings from being read.
* They are the settings that the layers make as they stand if and only if every text of a variable
  comes through as it stands.
* A text does not only if it is a truth value, which is then in small letters, or is written like a
  number.
* If the settings that the layers make would be accepted, a backing field or a namespace that does
  not come through is one of five words, in some case. -/
theorem layering (hfile : source.Reads a file b) (htexts : GivesTexts file)
    (henv : Environment.GivesTexts source.mark env)
    (hload : (source.load env : StateM σ _).run a = (outcome, c)) :
    (outcome = .error .unreadable ∧ ∃ name ∈ ["namespace_tokens", "parallel"],
      ∃ e ∈ file ++ Environment.settings source.mark env, Key.isFor name e.1) ∨
    ∃ tokens flag,
      let base : Settings := { namespaceTokens := tokens, parallel := flag }
      let upper : Layer := Environment.layer source.mark env
      let plain : Settings := (base.overlaid (fileLayer file)).overlaid upper
      let loaded : Settings :=
        (base.overlaid (fileLayer file)).overlaid fun k => (upper k).map Environment.carried
      outcome = (loaded.validate.map fun _ => loaded) ∧
      ((∀ name ∈ ["namespace_tokens", "parallel"],
        ∀ e ∈ file ++ Environment.settings source.mark env, ¬Key.isFor name e.1) →
          tokens = .random ∧ flag = true) ∧
      (∀ k, loaded.text? k =
        ((upper k).map Environment.carried).or ((fileLayer file k).or (({} : Settings).text? k))) ∧
      (loaded = plain ↔ ∀ k text, upper k = some text → Environment.carried text = text) ∧
      ∀ k text, upper k = some text → Environment.carried text ≠ text →
        (Environment.carried text = Text.lower text ∧ Text.lower text ∈ ["true", "false"] ∨
          Signed Numeral text.toList) ∧
        (plain.validate = .ok () → k = .backingField ∨ k = .annotationNamespace →
          Text.lower text ∈ ["true", "false", "inf", "infinity", "nan"]) := by
  rw [load_run hfile] at hload
  obtain ⟨rfl, rfl⟩ := Prod.mk.inj hload
  rcases settings_cases htexts henv with hunreadable | ⟨tokens, flag, houtcome, hrest⟩
  · exact .inl hunreadable
  · refine .inr ⟨tokens, flag, ?_⟩
    intro base upper plain loaded
    have hloaded : loaded = base.overlaid (carriedLayer source.mark env file) :=
      Settings.overlaid_overlaid base _ _
    refine ⟨by rw [hloaded]; exact houtcome, hrest, fun k => ?_, Settings.overlaid_map_eq_iff,
      fun k text htext haltered => ⟨Environment.typed_of_altered haltered, fun hvalid hk => ?_⟩⟩
    · rw [Settings.text?_overlaid, Settings.text?_overlaid]
      cases k <;> rfl
    · have hplain : plain.text? k = some text := by
        rw [Settings.text?_overlaid, htext, Option.some_or]
      exact Environment.word_of_altered (Settings.dotted_of_validate hvalid hk hplain) haltered

/-- The theorem at a file with a suffix and a variable with a word for the backing field: the word
is loaded in small letters. -/
theorem layering_word :
    let source : SettingsSource := { path := some "c.toml" }
    let env := [("AUTOCOLLECTION_DEFAULT_BACKING_FIELD", "True")]
    let t : FileTree := { files := [(["c.toml"], "identity_suffix = \".cs\"".toUTF8)] }
    (source.load env : StateM FileTree _).run t =
        (.ok { defaultBackingField := "true", identitySuffix := ".cs" }, t) ∧
      Environment.layer source.mark env .backingField = some "True" := by
  intro source env t
  let file : List (String × SettingValue) := [("identity_suffix", .text ".cs")]
  have hfile : source.Reads t file t := by
    refine ⟨some "identity_suffix = \".cs\"", Prod.ext (by decide +kernel) ?_, by cbv⟩
    exact FileTree.reads_readOnly.settingsText source t
  have htexts : GivesTexts file := by
    intro e he k _
    obtain rfl := List.mem_singleton.mp he
    exact ⟨by decide +kernel, _, rfl⟩
  have hkeys : ∀ v ∈ env, ∀ key ∈ Environment.key? source.mark v.1,
      (Key.ofText key).steps = [] := by
    decide +kernel
  have hnone : ∀ name ∈ ["namespace_tokens", "parallel"],
      ∀ e ∈ file ++ Environment.settings source.mark env, ¬Key.isFor name e.1 := by
    decide +kernel
  have hload : (source.load env : StateM FileTree _).run t = _ := load_run hfile
  rcases layering hfile htexts (fun v hv key hkey _ _ => hkeys v hv key hkey) hload with
    ⟨-, name, hname, e, he, hfor⟩ | ⟨tokens, flag, houtcome, hrest, -⟩
  · exact absurd hfor (hnone name hname e he)
  · obtain ⟨rfl, rfl⟩ := hrest hnone
    have hloaded : ((({} : Settings).overlaid (fileLayer file)).overlaid fun k =>
        (Environment.layer source.mark env k).map Environment.carried) =
          { defaultBackingField := "true", identitySuffix := ".cs" } := by
      decide +kernel
    have hok := houtcome.trans (congrArg (fun s : Settings => s.validate.map fun _ => s) hloaded)
    exact ⟨hload.trans (congrArg (·, t) (hok.trans (by decide +kernel))), by decide +kernel⟩

end SettingsSource

end Companion
