/-
  File trees — what stands where after an operation, and where paths lead.

  1. **Nodes** — one equation each for what `put` and `drop` do to a look-up and to the names in a
     directory (`find?_put`, `children_put`, …); a name is in a directory exactly when something
     stands there (`mem_children_iff`).  A change outside a directory changes no name in it
     (`children_put_outside`).

  2. **Following** — to follow a path and one more name is to follow the path to a directory and to
     take the name there (`follow_concat_iff`).  A tree in which the directories of another one are
     still directories leads every path that it leads somewhere to the same place
     (`follow_of_keeps`); so a change to files leads no path astray.

  3. **Locating** — what is checked before a path is followed depends on the path alone
     (`Accepted`), so the same holds of locating.
-/
import Redline.Files.Tree
import Redline.Proofs.Text.Pieces

namespace Redline

theorem FileName.ofText_injective {s s' : String} (h : FileName.ofText s = FileName.ofText s') :
    s = s' := by
  have htext := congrArg FileName.text? h
  rw [text?_ofText, text?_ofText] at htext
  exact Option.some.inj htext

namespace FileTree

/-! ## Nodes -/

theorem lookup_filter_ne {l l' : Location} (h : l' ≠ l) (nodes : List (Location × Node)) :
    (nodes.filter fun (x, _) => x ≠ l).lookup l' = nodes.lookup l' := by
  induction nodes with
  | nil => rfl
  | cons node nodes ih =>
    obtain ⟨x, n⟩ := node
    by_cases hx : x = l
    · subst hx
      rw [List.filter_cons_of_neg (by simp), ih, List.lookup_cons, beq_false_of_ne h]
    · rw [List.filter_cons_of_pos (by simpa using hx), List.lookup_cons, List.lookup_cons, ih]

theorem lookup_filter_self (l : Location) (nodes : List (Location × Node)) :
    (nodes.filter fun (x, _) => x ≠ l).lookup l = none := by
  rw [List.lookup_eq_none_iff]
  intro p hp
  have hne : p.1 ≠ l := of_decide_eq_true (List.mem_filter.mp hp).2
  exact bne_iff_ne.mpr hne.symm

/-- The root is a directory, so anything else stands elsewhere. -/
theorem ne_nil_of_find?_ne {t : FileTree} {l : Location} (h : t.find? l ≠ some .directory) :
    l ≠ [] := by
  rintro rfl
  exact h rfl

/-- What stands anywhere after something was put at `l`. -/
theorem find?_put (t : FileTree) {l : Location} (hl : l ≠ []) (n : Node) (l' : Location) :
    (t.put l n).find? l' = if l' = l then some n else t.find? l' := by
  by_cases h : l' = l
  · subst h
    rw [if_pos rfl, find?, if_neg hl, put, List.lookup_cons, beq_self_eq_true]
  · rw [if_neg h, find?, find?, put, List.lookup_cons, beq_false_of_ne h, lookup_filter_ne h]

/-- What stands anywhere after nothing was left at `l`. -/
theorem find?_drop (t : FileTree) {l : Location} (hl : l ≠ []) (l' : Location) :
    (t.drop l).find? l' = if l' = l then none else t.find? l' := by
  by_cases h : l' = l
  · subst h
    rw [if_pos rfl, find?, if_neg hl, drop, lookup_filter_self]
  · rw [if_neg h, find?, find?, drop, lookup_filter_ne h]

/-- The name of a node in the directory at `dir`, if it is in there. -/
def nameIn? (dir : Location) (node : Location × Node) : Option FileName :=
  if node.1.dropLast = dir then node.1.getLast? else none

theorem nameIn?_eq_some_iff {dir : Location} {node : Location × Node} {name : FileName} :
    nameIn? dir node = some name ↔ node.1 = dir ++ [name] := by
  rw [nameIn?]
  constructor
  · intro h
    split at h
    · rename_i hdir
      obtain ⟨l, hl⟩ := List.getLast?_eq_some_iff.mp h
      rw [hl, List.dropLast_concat] at hdir
      rw [hl, hdir]
    · cases h
  · intro h
    rw [h, if_pos List.dropLast_concat, List.getLast?_concat]

theorem children_eq (t : FileTree) (dir : Location) :
    t.children dir = t.nodes.filterMap (nameIn? dir) := rfl

/-- The other names in a directory, when what stands under one name is left out. -/
theorem filterMap_filter_ne (dir : Location) (name : FileName) (nodes : List (Location × Node)) :
    (nodes.filter fun (l, _) => l ≠ dir ++ [name]).filterMap (nameIn? dir)
      = (nodes.filterMap (nameIn? dir)).filter (· ≠ name) := by
  induction nodes with
  | nil => rfl
  | cons node nodes ih =>
    by_cases h : node.1 = dir ++ [name]
    · rw [List.filter_cons_of_neg (by simpa using h), ih,
        List.filterMap_cons_some (nameIn?_eq_some_iff.mpr h), List.filter_cons_of_neg (by simp)]
    · rw [List.filter_cons_of_pos (by simpa using h)]
      cases hname : nameIn? dir node with
      | none => rw [List.filterMap_cons_none hname, List.filterMap_cons_none hname, ih]
      | some name' =>
        have hne : name' ≠ name := fun heq => h (nameIn?_eq_some_iff.mp (heq ▸ hname))
        rw [List.filterMap_cons_some hname, List.filterMap_cons_some hname,
          List.filter_cons_of_pos (by simpa using hne), ih]

theorem children_put (t : FileTree) (dir : Location) (name : FileName) (n : Node) :
    (t.put (dir ++ [name]) n).children dir = name :: (t.children dir).filter (· ≠ name) := by
  rw [children_eq, put, List.filterMap_cons_some (nameIn?_eq_some_iff.mpr rfl),
    filterMap_filter_ne, children_eq]

theorem children_drop (t : FileTree) (dir : Location) (name : FileName) :
    (t.drop (dir ++ [name])).children dir = (t.children dir).filter (· ≠ name) := by
  rw [children_eq, drop, filterMap_filter_ne, children_eq]

/-- What stands outside of a directory adds no name to it. -/
theorem filterMap_filter_outside {dir l : Location} (h : ∀ name, l ≠ dir ++ [name])
    (nodes : List (Location × Node)) :
    (nodes.filter fun (x, _) => x ≠ l).filterMap (nameIn? dir) = nodes.filterMap (nameIn? dir) := by
  induction nodes with
  | nil => rfl
  | cons node nodes ih =>
    by_cases hl : node.1 = l
    · have hnone : nameIn? dir node = none := by
        rw [Option.eq_none_iff_forall_ne_some]
        intro name hname
        exact h name (hl ▸ nameIn?_eq_some_iff.mp hname)
      rw [List.filter_cons_of_neg (by simpa using hl), List.filterMap_cons_none hnone, ih]
    · rw [List.filter_cons_of_pos (by simpa using hl), List.filterMap_cons, List.filterMap_cons, ih]

theorem children_put_outside (t : FileTree) {dir l : Location} (h : ∀ name, l ≠ dir ++ [name])
    (n : Node) : (t.put l n).children dir = t.children dir := by
  have hnone : nameIn? dir (l, n) = none := by
    rw [Option.eq_none_iff_forall_ne_some]
    intro name hname
    exact h name (nameIn?_eq_some_iff.mp hname)
  rw [children_eq, put, List.filterMap_cons_none hnone, filterMap_filter_outside h, children_eq]

theorem children_drop_outside (t : FileTree) {dir l : Location} (h : ∀ name, l ≠ dir ++ [name]) :
    (t.drop l).children dir = t.children dir := by
  rw [children_eq, drop, filterMap_filter_outside h, children_eq]

/-- A name is in a directory exactly when something stands at its location. -/
theorem mem_children_iff {t : FileTree} {dir : Location} {name : FileName} :
    name ∈ t.children dir ↔ (t.find? (dir ++ [name])).isSome := by
  rw [find?, if_neg (by simp), List.lookup_isSome_iff, children_eq, List.mem_filterMap]
  constructor
  · rintro ⟨⟨l, n⟩, hmem, hname⟩
    exact ⟨(l, n), hmem, beq_iff_eq.mpr (nameIn?_eq_some_iff.mp hname).symm⟩
  · rintro ⟨⟨l, n⟩, hmem, hl⟩
    exact ⟨(l, n), hmem, nameIn?_eq_some_iff.mpr (beq_iff_eq.mp hl).symm⟩

theorem find?_eq_none_of_not_mem {t : FileTree} {dir : Location} {name : FileName}
    (h : name ∉ t.children dir) : t.find? (dir ++ [name]) = none := by
  rw [mem_children_iff, Bool.not_eq_true, Option.isSome_eq_false_iff, Option.isNone_iff_eq_none] at h
  exact h

/-! ## Following -/

/-- A name that stands for itself: not empty, and no way to stay or to go back. -/
structure IsPlain (name : String) : Prop where
  ne_empty : name ≠ ""
  ne_dot : name ≠ "."
  ne_dots : name ≠ ".."

/-- All names of three characters or more are plain. -/
theorem isPlain_of_length {name : String} (h : 2 < name.toList.length) : IsPlain name := by
  have hne : ∀ s : String, s.toList.length ≤ 2 → name ≠ s := by
    rintro s hs rfl
    omega
  exact ⟨hne "" (by decide), hne "." (by decide), hne ".." (by decide)⟩

/-- Where a name leads in the directory at `here`. -/
def enter (here : Location) (name : String) : Except FileError Location :=
  if name = "" ∨ name = "." then .ok here
  else if name = ".." then .ok here.dropLast
  else if maxNameSize < name.utf8ByteSize then .error .nameTooLong
  else .ok (here ++ [FileName.ofText name])

/-- One component of a path: it is looked up in a directory, and the rest is followed from there. -/
theorem follow_cons (t : FileTree) (here : Location) (name : String) (rest : FilePath) :
    t.follow here (name :: rest) = match t.find? here with
      | none => .error .notFound
      | some (.file _) => .error .notADirectory
      | some .directory => (enter here name).bind fun l => t.follow l rest := by
  rw [follow, enter]
  cases t.find? here with
  | none => rfl
  | some n =>
    cases n with
    | file content => rfl
    | directory =>
      by_cases hstay : name = "" ∨ name = "."
      · simp only [if_pos hstay]
        rfl
      · by_cases hup : name = ".."
        · simp only [if_neg hstay, if_pos hup]
          rfl
        · by_cases hlong : maxNameSize < name.utf8ByteSize
          · simp only [if_neg hstay, if_neg hup, if_pos hlong]
            rfl
          · simp only [if_neg hstay, if_neg hup, if_neg hlong]
            rfl

/-- To follow two paths, one behind the other. -/
theorem follow_append (t : FileTree) (here : Location) (p q : FilePath) :
    t.follow here (p ++ q) = (t.follow here p).bind fun l => t.follow l q := by
  induction p generalizing here with
  | nil => rfl
  | cons name p ih =>
    rw [List.cons_append, follow_cons, follow_cons]
    split
    · rfl
    · rfl
    · cases enter here name with
      | error e => rfl
      | ok l => exact ih l

/-- A plain name leads to its own location. -/
theorem enter_eq_ok_iff {here l : Location} {name : String} (h : IsPlain name) :
    enter here name = .ok l ↔
      name.utf8ByteSize ≤ maxNameSize ∧ l = here ++ [FileName.ofText name] := by
  rw [enter, if_neg (not_or.mpr ⟨h.ne_empty, h.ne_dot⟩), if_neg h.ne_dots]
  by_cases hlong : maxNameSize < name.utf8ByteSize
  · simp [hlong, Nat.not_le_of_lt hlong]
  · simp [hlong, eq_comm, Nat.le_of_not_lt hlong]

/-- **One more name.**  It is taken in the directory that the path leads to. -/
theorem follow_concat_iff {t : FileTree} {here l : Location} {p : FilePath} {name : String}
    (h : IsPlain name) :
    t.follow here (p ++ [name]) = .ok l ↔
      ∃ dir, t.follow here p = .ok dir ∧ t.find? dir = some .directory ∧
        name.utf8ByteSize ≤ maxNameSize ∧ l = dir ++ [FileName.ofText name] := by
  rw [follow_append]
  cases hp : t.follow here p with
  | error e => simp [Except.bind]
  | ok dir =>
    show t.follow dir [name] = .ok l ↔ _
    rw [follow_cons]
    cases hfind : t.find? dir with
    | none => simp [hfind]
    | some n =>
      cases n with
      | file content => simp [hfind]
      | directory =>
        show (enter dir name).bind .ok = .ok l ↔ _
        rw [show (enter dir name).bind .ok = enter dir name by cases enter dir name <;> rfl,
          enter_eq_ok_iff h]
        simp [hfind]

/-- The directories of `t` are directories of `t'`. -/
def KeepsDirectories (t t' : FileTree) : Prop :=
  ∀ l, t.find? l = some .directory → t'.find? l = some .directory

/-- **No path goes astray** where all directories are kept. -/
theorem follow_of_keeps {t t' : FileTree} (hkeep : t.KeepsDirectories t') {here l : Location}
    {p : FilePath} (h : t.follow here p = .ok l) : t'.follow here p = .ok l := by
  induction p generalizing here with
  | nil => exact h
  | cons name p ih =>
    rw [follow_cons] at h ⊢
    cases hfind : t.find? here with
    | none => rw [hfind] at h; cases h
    | some n =>
      cases n with
      | file content => rw [hfind] at h; cases h
      | directory =>
        rw [hfind] at h
        rw [hkeep here hfind]
        cases hname : enter here name with
        | error e => rw [hname] at h; cases h
        | ok l' => rw [hname] at h; exact ih h

/-! ## Locating -/

/-- What is asked of a path before it is followed. -/
structure Accepted (p : FilePath) : Prop where
  no_nul : ∀ name ∈ p, '\x00' ∉ name.toList
  not_long : isTooLong p = false
  ne_nil : p ≠ []

theorem locate_of_accepted {p : FilePath} (h : Accepted p) (t : FileTree) :
    t.locate p = t.follow [] p := by
  have hnul : (p.any fun name => name.toList.contains '\x00') = false := by
    rw [List.any_eq_false]
    intro name hname
    rw [List.contains_iff_mem]
    exact h.no_nul name hname
  unfold locate
  rw [if_neg (by rw [hnul]; exact Bool.false_ne_true),
    if_neg (by rw [h.not_long]; exact Bool.false_ne_true), if_neg h.ne_nil]

/-- **A path that is not accepted** is refused in every tree, and for the same cause. -/
theorem exists_error_of_not_accepted {p : FilePath} (h : ¬ Accepted p) :
    ∃ e, (e = .notFound → p = []) ∧ ∀ t : FileTree, t.locate p = .error e := by
  unfold locate
  split
  · exact ⟨_, by simp, fun _ => rfl⟩
  · rename_i hnul
    split
    · exact ⟨_, by simp, fun _ => rfl⟩
    · rename_i hlong
      split
      · exact ⟨_, fun _ => ‹p = []›, fun _ => rfl⟩
      · rename_i hne
        refine absurd ⟨fun name hname => ?_, (Bool.not_eq_true _).mp hlong, hne⟩ h
        rw [Bool.not_eq_true, List.any_eq_false] at hnul
        have hn := hnul name hname
        rwa [List.contains_iff_mem] at hn

theorem accepted_of_locate {p : FilePath} {t : FileTree} {l : Location} (h : t.locate p = .ok l) :
    Accepted p := by
  by_contra hno
  obtain ⟨e, -, hrefused⟩ := exists_error_of_not_accepted hno
  rw [hrefused] at h
  cases h

/-- Two trees locate a path alike if they follow it alike. -/
theorem locate_congr {t t' : FileTree} {p : FilePath} (h : t.follow [] p = t'.follow [] p) :
    t.locate p = t'.locate p := by
  by_cases hacc : Accepted p
  · rw [locate_of_accepted hacc, locate_of_accepted hacc, h]
  · obtain ⟨e, -, hrefused⟩ := exists_error_of_not_accepted hacc
    rw [hrefused, hrefused]

/-- A path in writing, with one more name. -/
theorem utf8ByteSize_text_concat {p : FilePath} (hp : p ≠ []) (name : String) :
    (FilePath.text (p ++ [name])).utf8ByteSize
      = (FilePath.text p).utf8ByteSize + 1 + name.utf8ByteSize := by
  have hmap : p.map String.toList ≠ [] := fun h => hp (List.map_eq_nil_iff.mp h)
  have hjoin : FilePath.text (p ++ [name]) = FilePath.text p ++ "/" ++ name := by
    rw [FilePath.text, FilePath.text, List.map_append, List.map_singleton,
      Text.join_append hmap (List.cons_ne_nil _ _), Text.join_singleton, List.append_cons,
      String.ofList_append, String.ofList_append, String.ofList_toList]
  rw [hjoin, String.utf8ByteSize_append, String.utf8ByteSize_append]
  rfl

end FileTree

end Redline
