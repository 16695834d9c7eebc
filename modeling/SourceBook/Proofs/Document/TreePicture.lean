import SourceBook.Proofs.Document.TreeReading
import Mathlib.Algebra.BigOperators.Group.List.Basic
import Mathlib.Algebra.Ring.Nat

namespace SourceBook.Document

def Siblings (paths : List (List Text)) (a b : Text) : Prop :=
  ∃ above left right, above ++ a :: left ∈ paths ∧ above ++ b :: right ∈ paths

/-- Different names in one directory do not compare equal. -/
def TellsSiblings [Text.Collation] (paths : List (List Text)) : Prop :=
  ∀ a b, Siblings paths a b → Text.Collation.compare a b = .eq → a = b

theorem tellsSiblings_of_flatten [Text.Collation] {paths : List (List Text)}
    (h : ∀ a ∈ paths.flatten, ∀ b ∈ paths.flatten, Text.Collation.compare a b = .eq → a = b) :
    TellsSiblings paths := by
  rintro a b ⟨above, left, right, ha, hb⟩
  exact h a (List.mem_flatten_of_mem ha (by simp)) b (List.mem_flatten_of_mem hb (by simp))

namespace Tree

def under (name : Text) : List Text → Option (List Text)
  | head :: next :: rest => if head = name then some (next :: rest) else none
  | _ => none

def loose : List Text → Option Text
  | [file] => some file
  | _ => none

section

variable {dirs : List (Text × Tree)} {files : List Text}

theorem filterMap_under_map_cons (tree : Tree) (dir name : Text) :
    (tree.paths.map (dir :: ·)).filterMap (under name) = if dir = name then tree.paths else [] := by
  have hunder : ∀ path ∈ tree.paths,
      (under name ∘ (dir :: ·)) path = if dir = name then some path else none := by
    intro path hpath
    obtain ⟨next, rest, rfl⟩ := List.exists_cons_of_ne_nil (ne_nil_of_mem_paths hpath)
    rfl
  rw [List.filterMap_map, List.filterMap_congr hunder]
  split_ifs
  · exact List.filterMap_some
  · exact List.filterMap_none _

theorem filterMap_under_paths (name : Text) : (node dirs files).paths.filterMap (under name) =
    dirs.flatMap fun dir => if dir.1 = name then dir.2.paths else [] := by
  have hfiles : (files.map fun file => [file]).filterMap (under name) = [] := by
    rw [List.filterMap_map]
    exact List.filterMap_none _
  rw [paths, List.filterMap_append, hfiles, List.append_nil, pathsIn_eq, List.filterMap_flatMap]
  apply List.flatMap_congr
  intro dir _
  exact filterMap_under_map_cons dir.2 dir.1 name

theorem filterMap_under_of_mem (h : (dirs.map Prod.fst).Nodup) {dir : Text × Tree} (hdir : dir ∈ dirs) :
    (node dirs files).paths.filterMap (under dir.1) = dir.2.paths := by
  rw [filterMap_under_paths]
  obtain ⟨front, back, rfl⟩ := List.append_of_mem hdir
  rw [List.map_append, List.map_cons, List.nodup_middle, List.nodup_cons, List.mem_append] at h
  have hother : ∀ rest : List (Text × Tree), dir.1 ∉ rest.map Prod.fst →
      rest.flatMap (fun other => if other.1 = dir.1 then other.2.paths else []) = [] := by
    intro rest hnot
    apply List.flatMap_eq_nil_iff.2
    intro other hmem
    rw [if_neg]
    exact fun heq => hnot (heq ▸ List.mem_map_of_mem hmem)
  rw [List.flatMap_append, List.flatMap_cons, if_pos rfl, hother front fun hm => h.1 (.inl hm),
    hother back fun hm => h.1 (.inr hm), List.nil_append, List.append_nil]

theorem exists_of_filterMap_under_ne_nil {name : Text}
    (h : (node dirs files).paths.filterMap (under name) ≠ []) : ∃ dir ∈ dirs, dir.1 = name := by
  by_contra hnone
  push Not at hnone
  apply h
  rw [filterMap_under_paths, List.flatMap_eq_nil_iff]
  intro dir hdir
  rw [if_neg (hnone dir hdir)]

theorem filterMap_loose_paths : (node dirs files).paths.filterMap loose = files := by
  have hdirs : (pathsIn dirs).filterMap loose = [] := by
    rw [pathsIn_eq, List.filterMap_flatMap, List.flatMap_eq_nil_iff]
    intro dir _
    rw [List.filterMap_map, List.filterMap_eq_nil_iff]
    intro path hpath
    obtain ⟨next, rest, rfl⟩ := List.exists_cons_of_ne_nil (ne_nil_of_mem_paths hpath)
    rfl
  rw [paths, List.filterMap_append, hdirs, List.nil_append, List.filterMap_map]
  exact List.filterMap_some

/-- Of two trees with the same paths, what stands in a directory of one stands in one of the other. -/
theorem exists_dir_of_perm {dirs' : List (Text × Tree)} {files' : List Text}
    (h : (dirs.map Prod.fst).Nodup) (h' : (dirs'.map Prod.fst).Nodup)
    (hperm : (node dirs files).paths.Perm (node dirs' files').paths) {dir : Text × Tree}
    (hdir : dir ∈ dirs) (hfull : dir.2.paths ≠ []) :
    ∃ dir' ∈ dirs', dir'.1 = dir.1 ∧ dir.2.paths.Perm dir'.2.paths := by
  have hunder := hperm.filterMap (under dir.1)
  rw [filterMap_under_of_mem h hdir] at hunder
  have hne : (node dirs' files').paths.filterMap (under dir.1) ≠ [] := by
    intro hnil
    rw [hnil] at hunder
    exact hfull hunder.eq_nil
  obtain ⟨dir', hdir', hname⟩ := exists_of_filterMap_under_ne_nil hne
  rw [← hname, filterMap_under_of_mem h' hdir'] at hunder
  exact ⟨dir', hdir', hname, hunder⟩

theorem tellsSiblings_dir [Text.Collation] (h : TellsSiblings (node dirs files).paths) {dir : Text × Tree}
    (hdir : dir ∈ dirs) : TellsSiblings dir.2.paths := by
  rintro a b ⟨above, left, right, ha, hb⟩
  apply h
  exact ⟨dir.1 :: above, left, right, mem_paths_node.2 (.inl ⟨dir, hdir, _, ha, rfl⟩),
    mem_paths_node.2 (.inl ⟨dir, hdir, _, hb, rfl⟩)⟩

end

theorem map_name_blocks [Text.Collation] (dirs : List (Text × Tree)) :
    (blocks dirs).map Block.name = dirs.map Prod.fst := by
  rw [blocks_eq, List.map_map]
  rfl

theorem mem_blocks [Text.Collation] {dirs : List (Text × Tree)} {block : Block} :
    block ∈ blocks dirs ↔ ∃ dir ∈ dirs, ⟨dir.1, dir.1 ++ ['/'], dir.2.lines⟩ = block := by
  rw [blocks_eq, List.mem_map]

section

variable [Text.Collation] {dirs : List (Text × Tree)} {files : List Text}
  (htells : TellsSiblings (node dirs files).paths)

include htells

theorem eq_of_compare_name (hunique : ((blocks dirs).map Block.name).Nodup)
    (full : ∀ dir ∈ dirs, dir.2.paths ≠ []) : ∀ a ∈ blocks dirs, ∀ b ∈ blocks dirs,
      Text.Collation.compare a.name b.name = .eq → a = b := by
  intro a ha b hb heq
  apply List.inj_on_of_nodup_map hunique ha hb
  apply htells _ _ _ heq
  obtain ⟨dir, hdir, rfl⟩ := mem_blocks.1 ha
  obtain ⟨dir', hdir', rfl⟩ := mem_blocks.1 hb
  obtain ⟨path, hpath⟩ := List.exists_mem_of_ne_nil _ (full dir hdir)
  obtain ⟨path', hpath'⟩ := List.exists_mem_of_ne_nil _ (full dir' hdir')
  exact ⟨[], path, path', mem_paths_node.2 (.inl ⟨dir, hdir, path, hpath, rfl⟩),
    mem_paths_node.2 (.inl ⟨dir', hdir', path', hpath', rfl⟩)⟩

theorem eq_of_compare_file : ∀ a ∈ files, ∀ b ∈ files, Text.Collation.compare a b = .eq → a = b := by
  intro a ha b hb heq
  apply htells _ _ _ heq
  exact ⟨[], [], [], mem_paths_node.2 (.inr ⟨a, ha, rfl⟩), mem_paths_node.2 (.inr ⟨b, hb, rfl⟩)⟩

end

/-- The order in which paths arrive does not show in the lines. -/
theorem lines_eq_of_perm [Text.Collation] {tree other : Tree} (h : tree.Neat) (hother : other.Neat)
    (hperm : tree.paths.Perm other.paths) (htells : TellsSiblings tree.paths) :
    tree.lines = other.lines := by
  induction h generalizing other with
  | @node dirs files nodup dirNames fileNames full trees ih =>
      obtain @⟨dirs', files', nodup', -, -, full', trees'⟩ := hother
      have hunique : (blocks dirs).map Block.name |>.Nodup := map_name_blocks dirs ▸ nodup
      have hunique' : (blocks dirs').map Block.name |>.Nodup := map_name_blocks dirs' ▸ nodup'
      have hblocks : (blocks dirs).Perm (blocks dirs') := by
        apply (List.perm_ext_iff_of_nodup hunique.of_map hunique'.of_map).2
        intro block
        rw [mem_blocks, mem_blocks]
        constructor
        · rintro ⟨dir, hdir, rfl⟩
          obtain ⟨dir', hdir', hname, hpaths⟩ :=
            exists_dir_of_perm nodup nodup' hperm hdir (full dir hdir)
          refine ⟨dir', hdir', ?_⟩
          rw [hname, ih dir hdir (trees' dir' hdir') hpaths (tellsSiblings_dir htells hdir)]
        · rintro ⟨dir', hdir', rfl⟩
          obtain ⟨dir, hdir, hname, hpaths⟩ :=
            exists_dir_of_perm nodup' nodup hperm.symm hdir' (full' dir' hdir')
          refine ⟨dir, hdir, ?_⟩
          rw [hname, ih dir hdir (trees' dir' hdir') hpaths.symm (tellsSiblings_dir htells hdir)]
      have hfiles : files.Perm files' := by
        have hloose := hperm.filterMap loose
        rwa [filterMap_loose_paths, filterMap_loose_paths] at hloose
      have hsorted : Text.sort files = Text.sort files' :=
        Text.sortBy_eq_of_perm hfiles (eq_of_compare_file htells)
      rw [lines, lines, Text.sortBy_eq_of_perm hblocks (eq_of_compare_name htells hunique full), hsorted]

theorem length_drawAll (drawn : List Block) :
    (drawAll drawn).length = (drawn.map fun block => block.below.length + 1).sum := by
  induction drawn with
  | nil => rfl
  | cons block drawn ih =>
      cases drawn with
      | nil => simp [drawAll, draw]
      | cons next drawn =>
          simp only [drawAll, draw, List.length_append, List.length_cons, List.length_map, ih,
            List.map_cons, List.sum_cons]

/-- A tree has a line for each of its directories and for each of its files. -/
theorem length_lines [Text.Collation] {tree : Tree} (h : tree.Neat) :
    tree.lines.length = tree.folders.length + tree.paths.length := by
  induction h with
  | @node dirs files nodup dirNames fileNames full trees ih =>
      have hdirs : ((blocks dirs).map fun block => block.below.length + 1).sum =
          (foldersIn dirs).length + (pathsIn dirs).length := by
        clear nodup dirNames full trees
        induction dirs with
        | nil => rfl
        | cons dir dirs ihDirs =>
            rw [List.forall_mem_cons] at ih
            have hrest := ihDirs ih.2
            simp only [blocks, foldersIn, pathsIn, List.map_cons, List.sum_cons, List.length_append,
              List.length_cons, List.length_map, ih.1, hrest]
            omega
      have hsorted := ((Text.sortBy_perm Block.name (blocks dirs)).map
        fun block => block.below.length + 1).sum_eq
      have hfiles : (Text.sort files).length = files.length := (Text.sort_perm files).length_eq
      have hleaves : (((Text.sort files).map fun file => (⟨file, file, []⟩ : Block)).map
          fun block => block.below.length + 1).sum = files.length := by
        simp only [List.map_map, Function.comp_def, List.length_nil, Nat.zero_add, List.map_const',
          List.sum_replicate_nat, Nat.mul_one, hfiles]
      rw [lines, length_drawAll, List.map_append, List.sum_append, hsorted, hdirs, hleaves, folders, paths,
        List.length_append, List.length_map]
      omega

/-- A drawing is faithful to the list of paths, forgets its order, and has one line for the root, one for
each directory and one for each path. -/
theorem render_pictures_paths [Text.Collation] (root : Text) (p q : List Text) (hroot : '\n' ∉ root)
    (hp : ∀ path ∈ p, '\n' ∉ path) (hq : ∀ path ∈ q, '\n' ∉ path) :
    (render root (ofPaths p) = render root (ofPaths q) → (located p).Perm (located q)) ∧
      ((located p).Perm (located q) → TellsSiblings (located p) →
        render root (ofPaths p) = render root (ofPaths q)) ∧
      (Text.lines (render root (ofPaths p))).length =
        1 + (directories (located p)).length + (located p).length := by
  have hpathsP := paths_ofPaths p
  have hpathsQ := paths_ofPaths q
  refine ⟨fun heq => ?_, fun hperm htells => ?_, ?_⟩
  · have hread := read_render hroot hp
    rw [heq] at hread
    exact hread.symm.trans (read_render hroot hq)
  · have htree : TellsSiblings (ofPaths p).paths := by
      rintro a b ⟨above, left, right, ha, hb⟩
      exact htells a b ⟨above, left, right, hpathsP.mem_iff.1 ha, hpathsP.mem_iff.1 hb⟩
    rw [render, render, lines_eq_of_perm (neat_ofPaths p) (neat_ofPaths q)
      (hpathsP.trans (hperm.trans hpathsQ.symm)) htree]
  · rw [lines_render_of_not_mem hroot hp, List.length_cons, length_lines (neat_ofPaths p),
      (folders_ofPaths p).length_eq, hpathsP.length_eq]
    omega

/-- Paths in two orders, with a directory and a file of one name and two files of one name. -/
def scattered : List Text := ["b//a".toList, "a".toList, "b/a.d/c".toList, "/a".toList]

def gathered : List Text := ["a".toList, "b/a.d/c".toList, "a/".toList, "b/a".toList, "/".toList]

theorem render_pictures_paths_gathered :
    '\n' ∉ "w".toList ∧ (∀ path ∈ scattered, '\n' ∉ path) ∧ (∀ path ∈ gathered, '\n' ∉ path) ∧
      (located scattered).Perm (located gathered) ∧ TellsSiblings (located scattered) ∧
      render "w".toList (ofPaths scattered) = render "w".toList (ofPaths gathered) ∧
      (Text.lines (render "w".toList (ofPaths scattered))).length = 7 := by
  have hroot : '\n' ∉ "w".toList := by decide
  have hp : ∀ path ∈ scattered, '\n' ∉ path := by decide
  have hq : ∀ path ∈ gathered, '\n' ∉ path := by decide
  have hperm : (located scattered).Perm (located gathered) := by decide +kernel
  have htells : TellsSiblings (located scattered) := tellsSiblings_of_flatten (by decide +kernel)
  obtain ⟨-, hrender, hlines⟩ := render_pictures_paths "w".toList scattered gathered hroot hp hq
  refine ⟨hroot, hp, hq, hperm, htells, hrender hperm htells, hlines.trans ?_⟩
  decide +kernel

end Tree

end SourceBook.Document
