import Companion.Proofs.Directories.Listings

/-!
# Directories — listed paths and their directories

A unit's path is that of its contract's directory and its identity.  The identity is made of texts
that the host and the settings give: the namespace, a dot, the name, and the suffix.  Whatever these
are, it is the name of a file, unless only the two dots are left of it.

* `Path.parent?` and `Path.IsChild`: when a path is that of a member of a directory.
* `Generator.Sound.isMember_or_up`: which identities are names of members.
* `Options.runOne_lists`: what is listed of one contract's pass.
* `Options.run_listed`: which paths a run lists.
-/

namespace Companion

variable {c : Char} {cs rest : List Char} {directory name path : String}

/-! ### Parents -/

namespace Path

/-- The path of the directory that the last name of the path stands in; none if there is no name. -/
def parent? (path : String) : Option String :=
  match trimmedReverse path.toList.reverse with
  | [] => none
  | r =>
    let above := trimmedReverse (r.dropWhile (· != '/'))
    some (if above.isEmpty && isAbsolute path then "/" else String.ofList above.reverse)

/-- The path is that of a member of the directory, under the name. -/
structure IsChild (directory name path : String) : Prop where
  /-- The name is that of a member. -/
  member : IsMember name
  /-- It is the last name of the path. -/
  last : fileName? path = some name
  /-- What is before it is the directory. -/
  parent : parent? path = some directory
  /-- In each tree, the path leads one name further than the directory. -/
  place : ∀ t : FileTree, t.place path = t.place directory ++ [name]

theorem trimmedReverse_of_ne (h : c ≠ '/') (h' : c ≠ '.') :
    trimmedReverse (c :: cs) = c :: cs := by
  rw [trimmedReverse.eq_def]
  split
  · rename_i heq
    exact absurd (List.cons.inj heq).1 h
  · rename_i heq
    exact absurd (List.cons.inj heq).1 h'
  · rfl

/-- A last name is not trimmed away, unless it is empty or a dot. -/
theorem trimmedReverse_append (h : '/' ∉ cs) (hne : cs ≠ []) (hdot : cs ≠ ['.']) :
    trimmedReverse (cs ++ rest) = cs ++ rest := by
  match cs with
  | [] => exact absurd rfl hne
  | [c] =>
      rw [List.mem_singleton] at h
      exact trimmedReverse_of_ne (Ne.symm h) fun hc => hdot (by rw [hc])
  | c :: d :: cs =>
      rw [List.mem_cons, List.mem_cons, not_or, not_or] at h
      rw [List.cons_append, List.cons_append, trimmedReverse.eq_def]
      split
      · rename_i heq
        exact absurd (List.cons.inj heq).1.symm h.1
      · rename_i heq
        exact absurd (List.cons.inj (List.cons.inj heq).2).1.symm h.2.1
      · rfl

section

variable (hlast : directory.toList.getLast? = some c) (hslash : c ≠ '/') (hdot : c ≠ '.')
  (hname : '/' ∉ name.toList) (hempty : name ≠ "") (hself : name ≠ ".")

include hlast hslash hname hempty hself in
/-- The path of a member has nothing to be trimmed. -/
theorem trimmedReverse_join : trimmedReverse (join directory name).toList.reverse =
    name.toList.reverse ++ '/' :: directory.toList.reverse := by
  have htext : (join directory name).toList.reverse =
      name.toList.reverse ++ '/' :: directory.toList.reverse := by
    rw [join_of_last hlast hslash]
    simp
  rw [htext]
  refine trimmedReverse_append (by simpa using hname) (by simpa using hempty) fun hdot => hself ?_
  exact String.toList_injective (List.reverse_injective hdot)

include hlast hslash hdot hname hempty hself in
theorem parent?_join : parent? (join directory name) = some directory := by
  obtain ⟨a, ha⟩ := List.getLast?_eq_some_iff.mp hlast
  have hdrop : (name.toList.reverse ++ '/' :: directory.toList.reverse).dropWhile (· != '/') =
      '/' :: directory.toList.reverse := by
    rw [List.dropWhile_append_of_pos]
    · rfl
    · intro x hx
      exact bne_iff_ne.mpr fun heq => hname (heq ▸ List.mem_reverse.mp hx)
  have habove : trimmedReverse ('/' :: directory.toList.reverse) = directory.toList.reverse := by
    rw [trimmedReverse, ha, List.reverse_append]
    exact trimmedReverse_of_ne hslash hdot
  rw [parent?, trimmedReverse_join hlast hslash hname hempty hself]
  split
  · rename_i heq
    simp at heq
  · have hfull : directory.toList.reverse.isEmpty = false := by simp [ha]
    dsimp only
    rw [hdrop, habove, hfull, List.reverse_reverse, String.ofList_toList]
    rfl

include hlast hslash hname hempty hself in
theorem getLast?_names_join : (names (trimmed (join directory name))).getLast? = some name := by
  have htrimmed : trimmed (join directory name) = join directory name := by
    rw [trimmed, trimmedReverse_join hlast hslash hname hempty hself, join_of_last hlast hslash]
    exact String.toList_injective (by simp)
  obtain ⟨l, hl, -⟩ := names_join directory hname
  rw [htrimmed, hl, List.getLast?_concat]

include hlast hslash hdot hname in
/-- A member's path is that of a child. -/
theorem isChild_join (hm : IsMember name) : IsChild directory name (join directory name) where
  member := hm
  last := by
    have hlastname := getLast?_names_join hlast hslash hname hm.ne_empty hm.ne_dot
    rw [fileName?, hlastname]
    simp [hm.ne_empty, hm.ne_dot, hm.ne_dots]
  parent := parent?_join hlast hslash hdot hname hm.ne_empty hm.ne_dot
  place t := FileTree.place_join hm hname

include hlast hslash in
/-- Two dots are no name that a path can end in. -/
theorem fileName?_join_up : fileName? (join directory "..") = none := by
  have hlastname : (names (trimmed (join directory ".."))).getLast? = some ".." :=
    getLast?_names_join hlast hslash (by decide) (by decide) (by decide)
  rw [fileName?, hlastname]
  rfl

end

theorem join_inj {name' : String} (h : join directory name = join directory name') :
    name = name' := by
  rw [join_eq, join_eq directory name'] at h
  exact String.toList_injective (by simpa using congrArg String.toList h)

end Path

/-- Two dots behind the directory of a contract lead out of it. -/
theorem Options.place_up (t : FileTree) (out : String) (c : Contract) :
    t.place (Path.join (Path.join out c.name) "..") = t.place out := by
  have hcontract := place_contract t out c
  have hup : '/' ∉ "..".toList := by decide
  obtain ⟨l, hl, hwalk⟩ := Path.exists_names_join (Path.join out c.name) hup
  rw [FileTree.place, FileTree.origin_join hup, hl, walk_append, hwalk, walk_up, walk]
  rw [FileTree.place] at hcontract
  rw [hcontract, List.dropLast_concat]

/-! ### Identities as names -/

/-- The identity of a class's unit is the name of a member, unless there is a dot before the dot
between the namespace and the name, and nothing else. -/
theorem isMember_or_up {scope : String} (name suffix : String) (h : scope ≠ "") :
    IsMember (scope ++ "." ++ name ++ suffix) ∨
      scope ++ "." ++ name ++ suffix = ".." ∧ scope = "." ∧ name = "" ∧ suffix = "" := by
  obtain ⟨c, cs, hscope⟩ := List.exists_cons_of_ne_nil (mt String.toList_eq_nil_iff.mp h)
  have htext : (scope ++ "." ++ name ++ suffix).toList =
      c :: (cs ++ '.' :: (name.toList ++ suffix.toList)) := by
    simp [hscope]
  have hlength : (scope ++ "." ++ name ++ suffix).toList.length =
      cs.length + (name.toList.length + suffix.toList.length) + 2 := by
    rw [htext]
    simp only [List.length_cons, List.length_append]
    omega
  by_cases hup : scope ++ "." ++ name ++ suffix = ".."
  · have htwo : (2 : Nat) = cs.length + (name.toList.length + suffix.toList.length) + 2 := by
      rw [← hlength, hup]
      rfl
    have hcs : cs = [] := List.length_eq_zero_iff.mp (by omega)
    have hname : name.toList = [] := List.length_eq_zero_iff.mp (by omega)
    have hsuffix : suffix.toList = [] := List.length_eq_zero_iff.mp (by omega)
    rw [hup] at htext
    obtain ⟨rfl, -⟩ := List.cons.inj htext
    refine .inr ⟨hup, String.toList_injective ?_, String.toList_eq_nil_iff.mp hname,
      String.toList_eq_nil_iff.mp hsuffix⟩
    rw [hscope, hcs]
    rfl
  · refine .inl ⟨fun heq => ?_, fun heq => ?_, hup⟩
    · rw [heq] at hlength
      exact absurd hlength (by simp)
    · rw [heq] at hlength
      exact absurd hlength (by simp)

namespace Generator

variable {g : Generator} {s : Snapshot} {drawn : List String} {u : SourceUnit}

/-- A class is served that has no name and is in a namespace called by a dot, and no suffix is
set. -/
def ServesUp (g : Generator) (s : Snapshot) : Prop :=
  g.settings.identitySuffix = "" ∧
    ∃ r ∈ g.requests s, r.candidate.namespace = "." ∧ r.candidate.name = ""

/-- The identity of a unit is the name of a member, or two dots. -/
theorem Sound.isMember_or_up (h : g.Sound drawn) (hg : g.marker ∈ Annotation.all)
    (hu : u ∈ g.announced s) :
    IsMember u.identity ∨ u.identity = ".." ∧ g.ServesUp s := by
  rcases List.mem_cons.mp hu with rfl | hu
  · have hdefinition : ∀ a ∈ Annotation.all, SourceUnit.definitionIdentity a.name ≠ "" ∧
        SourceUnit.definitionIdentity a.name ≠ "." ∧
        SourceUnit.definitionIdentity a.name ≠ ".." := by decide +kernel
    obtain ⟨hempty, hdot, hdots⟩ := hdefinition _ hg
    exact .inl ⟨hempty, hdot, hdots⟩
  · obtain ⟨r, hr, rfl⟩ := List.mem_map.mp hu
    obtain ⟨x, hx, hready⟩ := List.mem_filterMap.mp hr
    have hrequest := mem_requests_of_mem_plans hx
    have hkey : r.key = (g.asked x.1.candidate x.1.parameters).key := by
      rw [key_of_readyOf? hready, ← (eq_asked_of_mem_requests hrequest).2]
    obtain ⟨-, scope, t, hscope, -, hunit⟩ := h.gives_prepared hr
    have hidentity : r.unit.identity =
        scope ++ "." ++ r.key.name ++ g.settings.identitySuffix := by
      rw [hunit]
      rfl
    have hne : scope ≠ "" ∧ (scope = "." → r.key.namespace = ".") := by
      by_cases hglobal : r.key.namespace = ""
      · obtain ⟨token, -, rfl⟩ := (if_pos hglobal).mp hscope
        have hmark : ∀ text, Scope.globalMark ++ token = text → 7 ≤ text.toList.length := by
          rintro _ rfl
          rw [String.toList_append, List.length_append]
          exact Nat.le_add_right_of_le (by decide)
        exact ⟨fun heq => absurd (hmark _ heq) (by decide),
          fun heq => absurd (hmark _ heq) (by decide)⟩
      · obtain rfl := (if_neg hglobal).mp hscope
        exact ⟨hglobal, id⟩
    rcases Companion.isMember_or_up r.key.name g.settings.identitySuffix hne.1 with
      hm | ⟨hup, hdot, hname, hsuffix⟩
    · exact .inl (hidentity ▸ hm)
    · refine .inr ⟨hidentity.trans hup, hsuffix, x.1, hrequest, ?_, ?_⟩
      · have hnamespace := hne.2 hdot
        rw [hkey] at hnamespace
        exact hnamespace
      · rw [hkey] at hname
        exact hname

/-- If there is a unit for each request, two dots are an identity just if such a class is served. -/
theorem Sound.exists_up_iff (h : g.Sound drawn) (hg : g.marker ∈ Annotation.all)
    (hkeys : (g.prepared s).map (·.key) = (g.requests s).map (·.key)) :
    (∃ u ∈ g.announced s, u.identity = "..") ↔ g.ServesUp s := by
  constructor
  · rintro ⟨u, hu, hup⟩
    rcases h.isMember_or_up hg hu with hm | ⟨-, hserves⟩
    · exact absurd hup hm.ne_dots
    · exact hserves
  · rintro ⟨hsuffix, q, hq, hnamespace, hname⟩
    have hmem : q.key ∈ (g.prepared s).map (·.key) := hkeys ▸ List.mem_map_of_mem hq
    obtain ⟨r, hr, hrq⟩ := List.mem_map.mp hmem
    rw [(eq_asked_of_mem_requests hq).2] at hrq
    have hns : r.key.namespace = "." := by rw [hrq]; exact hnamespace
    have hn : r.key.name = "" := by rw [hrq]; exact hname
    obtain ⟨-, scope, t, hscope, -, hunit⟩ := h.gives_prepared hr
    obtain rfl := (if_neg (by rw [hns]; decide)).mp hscope
    refine ⟨r.unit, List.mem_cons_of_mem _ (List.mem_map_of_mem hr), ?_⟩
    rw [hunit]
    change r.key.namespace ++ "." ++ r.key.name ++ g.settings.identitySuffix = ".."
    rw [hns, hn, hsuffix]
    rfl

end Generator

/-! ### Units that a directory accepts -/

namespace OutputDirectory

variable {σ : Type} [FileSystem (StateM σ)] {a b : σ} {d d' : OutputDirectory} {u : SourceUnit}
  {answer : Except Failure Unit} {calls : Calls}

/-- Each of several units was offered to the directory, which is a dry run as before, or none. -/
theorem exists_responds (h : inState.Answers (d, a) calls (d', b)) (hu : (u, answer) ∈ calls) :
    ∃ (e e' : OutputDirectory) (c c' : σ), Responds e c u answer e' c' ∧ e.dryRun = d.dryRun := by
  induction calls generalizing d a with
  | nil => cases hu
  | cons call calls ih =>
      obtain ⟨v, first⟩ := call
      obtain ⟨⟨between, c⟩, hv, ht⟩ := Sink.answers_cons_iff.mp h
      have hresponds := responds_of_run hv
      rcases List.mem_cons.mp hu with heq | hu
      · cases heq
        exact ⟨d, between, a, c, hresponds, rfl⟩
      · obtain ⟨e, e', c, c', hresponds', hdry⟩ := ih ht hu
        exact ⟨e, e', c, c', hresponds', hdry.trans hresponds.follows.dryRun⟩

theorem separatorless_of_offer (h : d.offer u = .ok d') : Separatorless u.identity := by
  by_contra hu
  rcases d.offer_cases u with ⟨-, reason, ho⟩ | ⟨-, ho⟩ | -
  · rw [h] at ho
    cases ho
  · rw [h] at ho
    cases ho
  · rw [offer, if_pos (by simpa [Separatorless] using hu)] at h
    cases h

/-- An identity that is accepted holds no separator. -/
theorem Responds.separatorless (h : Responds d a u (.ok ()) d' b) : Separatorless u.identity := by
  cases h with
  | skipped ho _ | written ho _ _ => exact separatorless_of_offer ho

/-- In a tree of files, only the name of a member can be written to. -/
theorem Responds.isMember {t t' : FileTree} (h : Responds d t u (.ok ()) d' t')
    (hd : d.dryRun = false) : IsMember u.identity := by
  have hu := h.separatorless
  cases h with
  | skipped _ hdry =>
      rw [hd] at hdry
      cases hdry
  | written _ _ hs =>
      rw [store_run] at hs
      split at hs
      · cases hs
      · rename_i made _ _
        rcases hwrite : made.write (d.pathOf u) u.text with ⟨stored, answer⟩
        rw [hwrite] at hs
        cases hs
        exact (FileTree.write_join hu.slash_not_mem hwrite).1

end OutputDirectory

/-! ### What is listed -/

/-- A tree with a template for lists, and a snapshot of a class that has no name, in a namespace
called by a dot. -/
def FileTree.ofNameless : FileTree :=
  let annotations :=
    "[[\"GenerateList\",\"AutoCollection\",[\"collectionType\"],[[\"type\",\"int\"]]]]"
  let snapshot := "[\"\",[[1,\"class\",\"\",\".\",\"public\",true," ++ annotations ++ "]]]"
  { directories := [["templates"]]
    files := [(["snapshot.json"], snapshot.toUTF8),
      (["templates", "List.Default.txt"], (Template.row ⟨.list, .autoBacked⟩).content.toUTF8)] }

/-- No contract has more than one list. -/
theorem DirectoryRun.sublist_contract (xs : List DirectoryRun) :
    ((xs.filterMap (·.written)).map Prod.fst).Sublist (xs.map (·.contract)) := by
  induction xs with
  | nil => exact .refl _
  | cons x xs ih =>
      rw [List.filterMap_cons, List.map_cons]
      cases ho : x.outcome with
      | error failure =>
          have hnone : x.written = none := by rw [written, ho]; rfl
          rw [hnone]
          exact ih.cons _
      | ok report =>
          have hsome : x.written = some (x.contract, x.directory.written) := by
            rw [written, ho]
            rfl
          rw [hsome]
          exact ih.cons_cons _

namespace Options

variable {σ : Type} [FileSystem (StateM σ)] {o : Options} {s : Snapshot} {g : Generator}
  {x : DirectoryRun} {xs : List DirectoryRun} {gs : Generators} {entry : Contract × List String}

/-- What is listed of a pass that ran to its end. -/
structure Lists (o : Options) (s : Snapshot) (g : Generator) (entry : Contract × List String) :
    Prop where
  /-- The paths are those of all announced units, below the directory of the contract. -/
  entry_eq : entry = (g.contract, (g.announced s).map (o.pathOf g))
  /-- There is a unit for each request. -/
  keys : (g.prepared s).map (·.key) = (g.requests s).map (·.key)
  /-- No identity occurs twice. -/
  nodup : ((g.announced s).map (·.identity)).Nodup
  /-- No identity holds a separator. -/
  separatorless : ∀ u ∈ g.announced s, Separatorless u.identity

/-- Every path of the summary is that of a unit that the directory accepted. -/
theorem runOne_lists {a b : σ} (h : (o.runOne s g : StateM σ _).run a = (x, b))
    (hx : x.written = some entry) :
    o.Lists s g entry ∧ ∀ u ∈ g.announced s, ∃ (d d' : OutputDirectory) (c c' : σ),
      OutputDirectory.Responds d c u (.ok ()) d' c' ∧ d.dryRun = o.dryRun := by
  obtain ⟨calls, p, he, hrun, ha⟩ := exists_ends_of_runOne h
  obtain ⟨report, ho, hentry⟩ := Option.map_eq_some_iff.mp hx
  have hp : p.outcome = .ok report := by
    rw [hrun] at ho
    exact eq_ok_of_toOption ho
  obtain ⟨rfl, hnodup⟩ := he.of_ok hp
  have hresponds : ∀ u ∈ g.announced s, ∃ (d d' : OutputDirectory) (c c' : σ),
      OutputDirectory.Responds d c u (.ok ()) d' c' ∧ d.dryRun = o.dryRun := fun u hu =>
    OutputDirectory.exists_responds ha (List.mem_map.mpr ⟨u, hu, rfl⟩)
  refine ⟨⟨?_, he.map_key_prepared (.inr ⟨report, hp⟩), hnodup, fun u hu => ?_⟩, hresponds⟩
  · rw [← hentry, (OutputDirectory.follows_of_answers ha).written, Calls.kept_accepted, hrun]
    rfl
  · obtain ⟨d, d', c, c', hresponds, -⟩ := hresponds u hu
    exact hresponds.separatorless

/-- Each path is that of a child of the contract's directory, if the identity is that of a
member. -/
theorem Lists.isChild (h : o.Lists s g entry) {u : SourceUnit} (hu : u ∈ g.announced s)
    (hm : IsMember u.identity) :
    Path.IsChild (Path.join o.out g.contract.name) u.identity (o.pathOf g u) :=
  Path.isChild_join (Path.getLast?_join_contract _ _) (by decide) (by decide)
    (h.separatorless u hu).slash_not_mem hm

theorem Lists.nodup_paths (h : o.Lists s g entry) : entry.2.Nodup := by
  have hinj : Function.Injective (Path.join (Path.join o.out g.contract.name)) :=
    fun _ _ => Path.join_inj
  have hmap : entry.2 = ((g.announced s).map (·.identity)).map
      (Path.join (Path.join o.out g.contract.name)) := by
    rw [h.entry_eq, List.map_map]
    rfl
  rw [hmap]
  exact h.nodup.map hinj

/-- The directory above is listed just if a class is served whose unit has two dots for an
identity. -/
theorem Lists.up_mem_iff (h : o.Lists s g entry) (hsound : g.Sound [])
    (hg : g.marker ∈ Annotation.all) :
    Path.join (Path.join o.out g.contract.name) ".." ∈ entry.2 ↔ g.ServesUp s := by
  rw [← hsound.exists_up_iff hg h.keys, h.entry_eq, List.mem_map]
  exact exists_congr fun u => and_congr_right fun _ => ⟨Path.join_inj, fun hup => by
    rw [pathOf, hup]⟩

/-- **What a run lists is in the directories of the contracts, but for two dots.**  Let a run give a
summary.  It has one list for each contract whose pass ran to its end, with the path of each unit
once, below the directory of the contract.

* The path of a unit is that of a child of this directory, under the identity, unless the identity
  is two dots.
* Two dots are listed just if a class without a name is served, in a namespace called by a dot, and
  no suffix is set.  This is no path of a file: it leads to the directory above.
* A run that writes to a tree of files lists nothing but children. -/
theorem run_listed (o : Options) (env : Environment.Variables) (random : RandomTokens) :
    (∀ (σ : Type) [FileSystem (StateM σ)] (a c : σ) (summary : Summary),
      (o.run env random : StateM σ _).run a = (.ok summary, c) →
      ∃ settings s gs b, o.Loads env random a settings s gs b ∧
        (summary.written.map Prod.fst).Nodup ∧
        ∀ entry ∈ summary.written, ∃ g ∈ gs,
          entry = (g.contract, (g.announced s).map (o.pathOf g)) ∧ entry.2.Nodup ∧
          (∀ u ∈ g.announced s,
            Path.IsChild (Path.join o.out g.contract.name) u.identity (o.pathOf g u) ∨
              u.identity = ".." ∧ g.ServesUp s) ∧
          (Path.join (Path.join o.out g.contract.name) ".." ∈ entry.2 ↔ g.ServesUp s)) ∧
    (∀ c : Contract, Path.fileName? (Path.join (Path.join o.out c.name) "..") = none ∧
      ∀ t : FileTree, t.place (Path.join (Path.join o.out c.name) "..") = t.place o.out) ∧
    ∀ (t t' : FileTree) (summary : Summary), o.dryRun = false →
      (o.run env random : StateM FileTree _).run t = (.ok summary, t') →
      ∀ entry ∈ summary.written, ∀ path ∈ entry.2,
        ∃ name, Path.IsChild (Path.join o.out entry.1.name) name path := by
  refine ⟨fun σ _ a c summary h => ?_, fun c => ⟨?_, fun t => place_up t o.out c⟩,
    fun t t' summary hd h entry hentry path hpath => ?_⟩
  · obtain ⟨settings, s, gs, b, hloads, xs, hall, rfl⟩ := run_ok_iff.mp h
    refine ⟨settings, s, gs, b, hloads, ?_, fun entry hentry => ?_⟩
    · have hcontracts := map_eq_of_forall₂ (runAll_ran hall) fun _ _ hr => hr.contract.symm
      refine List.Nodup.sublist ?_ hloads.fresh.nodup_contract
      rw [hcontracts]
      exact DirectoryRun.sublist_contract xs
    · obtain ⟨x, hx, hwritten⟩ := List.mem_filterMap.mp hentry
      obtain ⟨g, hg, _, _, hone⟩ := exists_of_mem_right (runAll_runOne hall) hx
      obtain ⟨hlists, -⟩ := runOne_lists hone hwritten
      obtain ⟨m, hm, catalog, rfl⟩ := hloads.fresh.exists_of_mem hg
      have hsound : (Generator.create m settings catalog (random m)).Sound [] :=
        Generator.sound_of_memo_eq rfl
      refine ⟨_, hg, hlists.entry_eq, hlists.nodup_paths, fun u hu => ?_,
        hlists.up_mem_iff hsound hm⟩
      exact (hsound.isMember_or_up hm hu).imp_left (hlists.isChild hu)
  · exact Path.fileName?_join_up (Path.getLast?_join_contract _ _) (by decide)
  · obtain ⟨settings, s, gs, b, -, xs, hall, rfl⟩ := run_ok_iff.mp h
    obtain ⟨x, hx, hwritten⟩ := List.mem_filterMap.mp hentry
    obtain ⟨g, -, _, _, hone⟩ := exists_of_mem_right (runAll_runOne hall) hx
    obtain ⟨hlists, hresponds⟩ := runOne_lists hone hwritten
    rw [hlists.entry_eq] at hpath ⊢
    obtain ⟨u, hu, rfl⟩ := List.mem_map.mp hpath
    obtain ⟨d, d', e, e', hresponds, hdry⟩ := hresponds u hu
    exact ⟨u.identity, hlists.isChild hu (hresponds.isMember (hdry.trans hd))⟩

set_option synthInstance.maxSize 400 in
/-- The theorem at a class without a name: a dry run lists the directory above, and a run that
writes fails there. -/
theorem run_listed_nameless :
    let o : Options := { snapshot := "snapshot.json" }
    let env :=
      [("AUTOCOLLECTION_TEMPLATE_DIR", "templates"), ("AUTOCOLLECTION_IDENTITY_SUFFIX", "")]
    let readOnly := "generated/ReadOnlyList/GenerateReadOnlyList.Attribute.g.cs"
    let list := "generated/List/GenerateList.Attribute.g.cs"
    let random := (⟨0⟩ : Seed).tokens
    ∃ (dry wet : Summary) (t t' : FileTree) (g : Generator) (s : Snapshot),
      (({ o with dryRun := true } : Options).run env random : StateM FileTree _).run .ofNameless =
        (.ok dry, t) ∧
      dry.written = [(.readOnlyList, [readOnly]), (.list, [list, "generated/List/.."])] ∧
      g.contract = .list ∧ g.ServesUp s ∧
      (o.run env random : StateM FileTree _).run .ofNameless = (.ok wet, t') ∧
      wet.failures = [(.list, "IO error: Is a directory")] ∧
      ∀ entry ∈ wet.written, ∀ path ∈ entry.2,
        ∃ name, Path.IsChild (Path.join o.out entry.1.name) name path := by
  intro o env readOnly list random
  have hdry : ((({ o with dryRun := true } : Options).run env random :
      StateM FileTree _).run .ofNameless).1.toOption.map (·.written) =
        some [(.readOnlyList, [readOnly]), (.list, [list, "generated/List/.."])] := by
    decide +kernel
  have hwet : ((o.run env random : StateM FileTree _).run .ofNameless).1.toOption.map
      (·.failures) = some [(.list, "IO error: Is a directory")] := by
    decide +kernel
  obtain ⟨dry, t, hdryrun, hwritten⟩ := exists_run_of_map hdry
  obtain ⟨wet, t', hwetrun, hfailures⟩ := exists_run_of_map hwet
  obtain ⟨-, s, gs, -, -, -, hlisted⟩ :=
    (run_listed { o with dryRun := true } env random).1 FileTree .ofNameless t dry hdryrun
  obtain ⟨g, -, heq, -, -, hup⟩ := hlisted (.list, [list, "generated/List/.."])
    (by rw [hwritten]; simp)
  have hcontract : Contract.list = g.contract := congrArg Prod.fst heq
  rw [← hcontract] at hup
  exact ⟨dry, wet, t, t', g, s, hdryrun, hwritten, hcontract.symm, hup.mp (by decide +kernel),
    hwetrun, hfailures, (run_listed o env random).2.2 .ofNameless t' wet rfl hwetrun⟩

end Options

end Companion
