import Companion.Files.Tree

/-!
# Directories — where paths lead

A tree has no links, so where a path leads can be told without looking anything up.  What is looked
up is only whether the path can be followed.

* `walk`: where names lead from a place.
* `FileTree.place_join`: a member of a directory is one name further.
* `FileTree.write_join`: if a member of a directory is written, the file is one name further than
  the directory.
* `FileTree.bytes?_put`: what a file that is written does to look-ups.
-/

namespace Companion

variable {c : Char} {a b cs : List Char} {directory member name path text : String}
  {t t' : FileTree} {p q : Place} {l rest : List String} {bytes : ByteArray}

/-! ### Pieces and names -/

theorem Text.pieces_append (c : Char) (a b : List Char) :
    pieces c (a ++ c :: b) = pieces c a ++ pieces c b := by
  induction a with
  | nil => simp [pieces]
  | cons d a ih =>
      by_cases hd : d = c
      · simp [pieces, hd, ih]
      · cases ha : pieces c a with
        | nil => exact absurd ha (pieces_ne_nil c a)
        | cons piece others => simp [pieces, hd, ih, ha]

theorem Text.pieces_of_not_mem (h : c ∉ cs) : pieces c cs = [cs] := by
  induction cs with
  | nil => rfl
  | cons d cs ih =>
      rw [List.mem_cons, not_or] at h
      simp [pieces, Ne.symm h.1, ih h.2]

/-- The name is that of a member of a directory. -/
structure IsMember (name : String) : Prop where
  /-- It is not empty. -/
  ne_empty : name ≠ ""
  /-- It does not stand for the directory itself. -/
  ne_dot : name ≠ "."
  /-- It does not stand for the directory above. -/
  ne_dots : name ≠ ".."

/-- Where names lead from a place, if nothing is looked up. -/
def walk (p : Place) : List String → Place
  | [] => p
  | name :: rest =>
    if name == "" || name == "." then walk p rest
    else if name == ".." then walk p.dropLast rest
    else walk (p ++ [name]) rest

theorem stay_or_up_or_member (name : String) :
    (name = "" ∨ name = ".") ∨ name = ".." ∨ IsMember name := by
  by_cases hs : name = "" ∨ name = "."
  · exact .inl hs
  · by_cases hu : name = ".."
    · exact .inr (.inl hu)
    · exact .inr (.inr ⟨fun e => hs (.inl e), fun e => hs (.inr e), hu⟩)

theorem walk_stay (h : name = "" ∨ name = ".") (p : Place) (l : List String) :
    walk p (name :: l) = walk p l := by
  rcases h with rfl | rfl <;> rfl

theorem walk_up (p : Place) (l : List String) : walk p (".." :: l) = walk p.dropLast l := rfl

theorem walk_member (h : IsMember name) (p : Place) (l : List String) :
    walk p (name :: l) = walk (p ++ [name]) l := by
  simp [walk, h.ne_empty, h.ne_dot, h.ne_dots]

theorem walk_append (p : Place) (l l' : List String) : walk p (l ++ l') = walk (walk p l) l' := by
  induction l generalizing p with
  | nil => rfl
  | cons name l ih =>
      rw [List.cons_append]
      rcases stay_or_up_or_member name with h | rfl | h
      · rw [walk_stay h, walk_stay h, ih]
      · rw [walk_up, walk_up, ih]
      · rw [walk_member h, walk_member h, ih]

namespace Path

theorem names_eq (path : String) :
    names path = (Text.pieces '/' path.toList).map String.ofList := rfl

/-- A member's path is the directory's and one name more; if the directory ends in a slash, that is
the only one between them. -/
theorem exists_toList_join (directory member : String) :
    (directory = "" ∧ join directory member = member) ∨
      ∃ a, (directory.toList = a ++ ['/'] ∨ directory.toList = a ∧ a ≠ []) ∧
        (join directory member).toList = a ++ '/' :: member.toList := by
  cases hlast : directory.toList.getLast? with
  | none =>
      have hempty : directory = "" := String.toList_injective (List.getLast?_eq_none_iff.mp hlast)
      refine .inl ⟨hempty, ?_⟩
      simp [join, hempty]
  | some c =>
      obtain ⟨a, ha⟩ := List.getLast?_eq_some_iff.mp hlast
      by_cases hc : c = '/'
      · subst hc
        exact .inr ⟨a, .inl ha, by simp [join, ha]⟩
      · exact .inr ⟨directory.toList, .inr ⟨rfl, by simp [ha]⟩, by simp [join, hlast]⟩

theorem isAbsolute_join (h : '/' ∉ member.toList) :
    isAbsolute (join directory member) = isAbsolute directory := by
  rcases exists_toList_join directory member with ⟨rfl, hj⟩ | ⟨a, ha, hj⟩
  · rw [hj]
    cases hm : member.toList with
    | nil => simp [isAbsolute, hm]
    | cons c cs =>
        have hc : c ≠ '/' := fun e => h (by simp [hm, e])
        simp [isAbsolute, hm, hc]
  · rw [isAbsolute, isAbsolute, hj]
    rcases ha with ha | ⟨ha, hne⟩
    · rw [ha]
      cases a <;> rfl
    · rw [ha]
      cases a with
      | nil => exact absurd rfl hne
      | cons c cs => rfl

/-- The names of a member's path are those of the directory's, save an empty one at the end, and the
member. -/
theorem names_join (directory : String) (h : '/' ∉ member.toList) :
    ∃ l, names (join directory member) = l ++ [member] ∧
      (names directory = l ∨ names directory = l ++ [""]) := by
  have hmember : names member = [member] := by
    rw [names_eq, Text.pieces_of_not_mem h]
    simp
  rcases exists_toList_join directory member with ⟨rfl, hj⟩ | ⟨a, ha, hj⟩
  · exact ⟨[], by rw [hj, hmember, List.nil_append], .inr rfl⟩
  · refine ⟨(Text.pieces '/' a).map String.ofList, ?_, ?_⟩
    · rw [names_eq, hj, Text.pieces_append, List.map_append, ← names_eq, hmember]
    · rw [names_eq]
      rcases ha with ha | ⟨ha, -⟩
      · rw [ha, Text.pieces_append, List.map_append]
        exact .inr rfl
      · rw [ha]
        exact .inl rfl

/-- Following a member's path is following the directory's, and then one name. -/
theorem exists_names_join (directory : String) (h : '/' ∉ member.toList) :
    ∃ l, names (join directory member) = l ++ [member] ∧
      ∀ p, walk p l = walk p (names directory) := by
  obtain ⟨l, hl, hd | hd⟩ := names_join directory h
  · exact ⟨l, hl, fun p => by rw [hd]⟩
  · exact ⟨l, hl, fun p => by rw [hd, walk_append]; rfl⟩

end Path

namespace FileTree

/-- Where a path leads, if nothing is looked up. -/
def place (t : FileTree) (path : String) : Place := walk (t.origin path) (Path.names path)

theorem origin_join (h : '/' ∉ member.toList) :
    t.origin (Path.join directory member) = t.origin directory := by
  rw [origin, origin, Path.isAbsolute_join h]

/-- A member of a directory is one name further. -/
theorem place_join (hm : IsMember member) (h : '/' ∉ member.toList) :
    t.place (Path.join directory member) = t.place directory ++ [member] := by
  obtain ⟨l, hl, hwalk⟩ := Path.exists_names_join directory h
  rw [place, place, origin_join h, hl, walk_append, hwalk, walk_member hm, walk]

theorem place_congr (h : t'.here = t.here) (path : String) : t'.place path = t.place path := by
  rw [place, place, origin, origin, h]

/-! ### Following -/

theorem follow_stay (h : name = "" ∨ name = ".") (t : FileTree) (p : Place) (l : List String) :
    t.follow p (name :: l) = t.follow p l := by
  rcases h with rfl | rfl <;> rfl

theorem follow_up (t : FileTree) (p : Place) (l : List String) :
    t.follow p (".." :: l) = t.follow p.dropLast l := rfl

/-- The name of a member leads on if that is a directory; else it must be the last name. -/
theorem follow_member {target : Target} (hn : IsMember name)
    (h : t.follow p (name :: l) = some target) :
    t.follow (p ++ [name]) l = some target ∨ l = [] ∧
      ((∃ bytes, target = .file (p ++ [name]) bytes) ∨ target = .absent (p ++ [name])) := by
  rw [follow, if_neg (by simp [hn.ne_empty, hn.ne_dot]), if_neg (by simp [hn.ne_dots])] at h
  split at h
  · cases h
  · dsimp only at h
    split at h
    · exact .inl h
    · split at h
      · exact .inr ⟨rfl, .inl ⟨_, (Option.some.inj h).symm⟩⟩
      · exact .inr ⟨rfl, .inr (Option.some.inj h).symm⟩
      · cases h

/-- What names lead to is a directory, or it is where they lead without being looked up, and the
last of them is that of a member. -/
theorem follow_concat {target : Target} (h : t.follow p (l ++ [name]) = some target) :
    (∃ q, target = .directory q) ∨ IsMember name ∧
      ((∃ bytes, target = .file (walk p l ++ [name]) bytes) ∨
        target = .absent (walk p l ++ [name])) := by
  induction l generalizing p with
  | nil =>
      rw [List.nil_append] at h
      rcases stay_or_up_or_member name with hn | rfl | hn
      · rw [follow_stay hn] at h
        exact .inl ⟨_, (Option.some.inj h).symm⟩
      · rw [follow_up] at h
        exact .inl ⟨_, (Option.some.inj h).symm⟩
      · rcases follow_member hn h with h | ⟨-, h⟩
        · exact .inl ⟨_, (Option.some.inj h).symm⟩
        · exact .inr ⟨hn, h⟩
  | cons x l ih =>
      rw [List.cons_append] at h
      rcases stay_or_up_or_member x with hx | rfl | hx
      · rw [follow_stay hx] at h
        rw [walk_stay hx]
        exact ih h
      · rw [follow_up] at h
        rw [walk_up]
        exact ih h
      · rw [walk_member hx]
        rcases follow_member hx h with h | ⟨h, -⟩
        · exact ih h
        · simp at h

/-! ### Files -/

theorem bytes?_eq_none (h : ∀ f ∈ t.files, f.1 ≠ p) : t.bytes? p = none :=
  List.lookup_eq_none_iff.mpr fun f hf => bne_iff_ne.mpr (Ne.symm (h f hf))

theorem bytes?_put (t : FileTree) (p q : Place) (bytes : ByteArray) :
    (t.put p bytes).bytes? q = if q = p then some bytes else t.bytes? q := by
  rw [bytes?, put, List.lookup_cons]
  by_cases hq : q = p
  · simp [hq]
  · rw [beq_false_of_ne hq, if_neg hq, bytes?]
    -- the files that are taken out are those at `p`
    induction t.files with
    | nil => rfl
    | cons f files ih =>
        obtain ⟨x, content⟩ := f
        by_cases hx : x = p
        · simpa [hx, List.lookup_cons, beq_false_of_ne hq] using ih
        · simp [hx, List.lookup_cons, ih]

/-- Making directories leaves the files, and the current directory. -/
theorem make_frame (t : FileTree) (p : Place) (l : List String) :
    (t.make p l).1.files = t.files ∧ (t.make p l).1.here = t.here := by
  induction l generalizing t p with
  | nil => exact ⟨rfl, rfl⟩
  | cons name l ih =>
      rw [make]
      split
      · exact ih t p
      · split
        · exact ih t p.dropLast
        · split
          · exact ⟨rfl, rfl⟩
          · dsimp only
            split
            · exact ih t _
            · split
              · exact ⟨rfl, rfl⟩
              · exact ih _ _

theorem createDirectories_frame (t : FileTree) (path : String) :
    (t.createDirectories path).1.files = t.files ∧
      (t.createDirectories path).1.here = t.here := by
  rw [createDirectories]
  split
  · exact ⟨rfl, rfl⟩
  · split
    · exact t.make_frame _ _
    · exact ⟨rfl, rfl⟩

/-- If a member of a directory is written, the file is one name further than the directory. -/
theorem write_join (h : '/' ∉ member.toList)
    (hw : t.write (Path.join directory member) text = (t', .ok ())) :
    IsMember member ∧ t' = t.put (t.place directory ++ [member]) text.toUTF8 := by
  obtain ⟨l, hl, hwalk⟩ := Path.exists_names_join directory h
  have hfollow : ∀ target, t.target? (Path.join directory member) = some target →
      t.follow (t.origin directory) (l ++ [member]) = some target := by
    intro target ht
    rw [target?, origin_join h, hl] at ht
    split at ht
    · exact ht
    · cases ht
  rw [write] at hw
  cases ht : t.target? (Path.join directory member) with
  | none =>
      rw [ht] at hw
      cases hw
  | some target =>
      rw [ht] at hw
      rcases follow_concat (hfollow target ht) with ⟨q, rfl⟩ | ⟨hm, ⟨bytes, rfl⟩ | rfl⟩
      · cases hw
      · cases hw
        exact ⟨hm, by rw [hwalk]; rfl⟩
      · cases hw
        exact ⟨hm, by rw [hwalk]; rfl⟩

end FileTree

end Companion
