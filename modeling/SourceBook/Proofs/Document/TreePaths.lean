import SourceBook.Document.Tree
import SourceBook.Proofs.Files.Names
import Mathlib.Data.List.Dedup
import Mathlib.Data.List.Perm.Basic

namespace SourceBook.Document

open SourceBook.Path (IsName)

/-- The paths of a list by their names, without those that name nothing. -/
def located (paths : List Text) : List (List Text) := (paths.map Path.names).filter (· ≠ [])

def directories (paths : List (List Text)) : List (List Text) :=
  (paths.flatMap fun path => path.inits.filter fun front => front ≠ [] ∧ front ≠ path).dedup

theorem mem_directories {paths : List (List Text)} {place : List Text} :
    place ∈ directories paths ↔ place ≠ [] ∧ ∃ rest ≠ [], place ++ rest ∈ paths := by
  rw [directories, List.mem_dedup, List.mem_flatMap]
  constructor
  · rintro ⟨path, hpath, hplace⟩
    rw [List.mem_filter, List.mem_inits, decide_eq_true_eq] at hplace
    obtain ⟨⟨rest, rfl⟩, hne, hproper⟩ := hplace
    exact ⟨hne, rest, fun hnil => hproper (by rw [hnil, List.append_nil]), hpath⟩
  · rintro ⟨hne, rest, hrest, hpath⟩
    refine ⟨_, hpath, ?_⟩
    rw [List.mem_filter, List.mem_inits, decide_eq_true_eq]
    exact ⟨List.prefix_append _ _, hne, fun heq => hrest (List.self_eq_append_right.1 heq)⟩

namespace Tree

mutual

def paths : Tree → List (List Text)
  | node dirs files => pathsIn dirs ++ files.map fun file => [file]

def pathsIn : List (Text × Tree) → List (List Text)
  | [] => []
  | (name, tree) :: rest => tree.paths.map (name :: ·) ++ pathsIn rest

end

mutual

def folders : Tree → List (List Text)
  | node dirs _ => foldersIn dirs

def foldersIn : List (Text × Tree) → List (List Text)
  | [] => []
  | (name, tree) :: rest => [name] :: tree.folders.map (name :: ·) ++ foldersIn rest

end

theorem pathsIn_eq (dirs : List (Text × Tree)) :
    pathsIn dirs = dirs.flatMap fun dir => dir.2.paths.map (dir.1 :: ·) := by
  induction dirs with
  | nil => rfl
  | cons dir rest ih => rw [pathsIn, ih, List.flatMap_cons]

theorem foldersIn_eq (dirs : List (Text × Tree)) :
    foldersIn dirs = dirs.flatMap fun dir => [dir.1] :: dir.2.folders.map (dir.1 :: ·) := by
  induction dirs with
  | nil => rfl
  | cons dir rest ih => rw [foldersIn, ih, List.flatMap_cons]

theorem mem_paths_node {dirs : List (Text × Tree)} {files : List Text} {path : List Text} :
    path ∈ (node dirs files).paths ↔
      (∃ dir ∈ dirs, ∃ rest ∈ dir.2.paths, path = dir.1 :: rest) ∨ ∃ file ∈ files, path = [file] := by
  rw [paths, pathsIn_eq, List.mem_append, List.mem_flatMap]
  simp only [List.mem_map, eq_comm]

theorem ne_nil_of_mem_paths {tree : Tree} {path : List Text} (h : path ∈ tree.paths) : path ≠ [] := by
  obtain ⟨dirs, files⟩ := tree
  rcases mem_paths_node.1 h with ⟨dir, -, rest, -, rfl⟩ | ⟨file, -, rfl⟩
  · exact List.cons_ne_nil _ _
  · exact List.cons_ne_nil _ _

/-- Every directory has a proper name, which no other one beside it has, and leads to some file. -/
inductive Neat : Tree → Prop
  | node {dirs : List (Text × Tree)} {files : List Text} (nodup : (dirs.map Prod.fst).Nodup)
      (dirNames : ∀ dir ∈ dirs, IsName dir.1) (fileNames : ∀ file ∈ files, IsName file)
      (full : ∀ dir ∈ dirs, dir.2.paths ≠ []) (trees : ∀ dir ∈ dirs, Neat dir.2) :
      Neat (node dirs files)

theorem neat_empty : empty.Neat :=
  .node List.nodup_nil (by simp) (by simp) (by simp) (by simp)

section

variable {name : Text} {f : Tree → Tree} {dirs : List (Text × Tree)}

theorem mem_alter {dir : Text × Tree} (h : dir ∈ alter name f dirs) :
    dir ∈ dirs ∨ dir.1 = name ∧ (dir.2 = f empty ∨ ∃ old ∈ dirs, dir.2 = f old.2) := by
  induction dirs with
  | nil =>
      rw [alter, List.mem_singleton] at h
      subst h
      exact .inr ⟨rfl, .inl rfl⟩
  | cons other rest ih =>
      obtain ⟨otherName, tree⟩ := other
      rw [alter] at h
      split_ifs at h with hname
      · rcases List.mem_cons.1 h with rfl | h
        · exact .inr ⟨hname, .inr ⟨_, List.mem_cons_self, rfl⟩⟩
        · exact .inl (List.mem_cons_of_mem _ h)
      · rcases List.mem_cons.1 h with rfl | h
        · exact .inl List.mem_cons_self
        · rcases ih h with h | ⟨hn, h | ⟨old, hold, h⟩⟩
          · exact .inl (List.mem_cons_of_mem _ h)
          · exact .inr ⟨hn, .inl h⟩
          · exact .inr ⟨hn, .inr ⟨old, List.mem_cons_of_mem _ hold, h⟩⟩

theorem nodup_alter (h : (dirs.map Prod.fst).Nodup) : ((alter name f dirs).map Prod.fst).Nodup := by
  induction dirs with
  | nil => exact List.nodup_singleton _
  | cons other rest ih =>
      obtain ⟨otherName, tree⟩ := other
      rw [List.map_cons, List.nodup_cons] at h
      rw [alter]
      split_ifs with hname
      · exact List.nodup_cons.2 h
      · refine List.nodup_cons.2 ⟨fun hmem => ?_, ih h.2⟩
        obtain ⟨dir, hdir, heq⟩ := List.mem_map.1 hmem
        rcases mem_alter hdir with hdir | ⟨hn, -⟩
        · exact h.1 (List.mem_map.2 ⟨dir, hdir, heq⟩)
        · exact hname (heq.symm.trans hn)

theorem pathsIn_alter {path : List Text} (hf : ∀ tree, (f tree).paths.Perm (path :: tree.paths))
    (dirs : List (Text × Tree)) :
    (pathsIn (alter name f dirs)).Perm ((name :: path) :: pathsIn dirs) := by
  have hmap (tree : Tree) : ((f tree).paths.map (name :: ·)).Perm
      ((name :: path) :: tree.paths.map (name :: ·)) := (hf tree).map _
  induction dirs with
  | nil =>
      rw [alter, pathsIn, pathsIn, pathsIn, List.append_nil]
      exact hmap empty
  | cons other rest ih =>
      obtain ⟨otherName, tree⟩ := other
      rw [alter]
      split_ifs with hname
      · subst hname
        rw [pathsIn, pathsIn]
        exact (hmap tree).append_right _
      · rw [pathsIn, pathsIn]
        exact (ih.append_left _).trans List.perm_middle

end

theorem paths_insert {names : List Text} (hne : names ≠ []) (tree : Tree) :
    (tree.insert names).paths.Perm (names :: tree.paths) := by
  induction names generalizing tree with
  | nil => exact absurd rfl hne
  | cons name rest ih =>
      obtain ⟨dirs, files⟩ := tree
      cases rest with
      | nil =>
          rw [insert, paths, paths, List.map_append, ← List.append_assoc]
          exact List.perm_append_singleton _ _
      | cons next rest =>
          exact (pathsIn_alter (ih (List.cons_ne_nil _ _)) dirs).append_right _

theorem Neat.insert {names : List Text} (hnames : ∀ name ∈ names, IsName name) {tree : Tree}
    (h : tree.Neat) : (tree.insert names).Neat := by
  induction names generalizing tree with
  | nil => simpa [Tree.insert] using h
  | cons name rest ih =>
      rw [List.forall_mem_cons] at hnames
      obtain ⟨hnodup, hdirs, hfiles, hfull, htrees⟩ := h
      cases rest with
      | nil =>
          refine .node hnodup hdirs (fun file hfile => ?_) hfull htrees
          rcases List.mem_append.1 hfile with hfile | hfile
          · exact hfiles file hfile
          · exact List.mem_singleton.1 hfile ▸ hnames.1
      | cons next rest =>
          have hpaths (tree : Tree) : (tree.insert (next :: rest)).paths ≠ [] := by
            intro hnil
            have hperm := paths_insert (List.cons_ne_nil next rest) tree
            rw [hnil] at hperm
            exact List.cons_ne_nil _ _ hperm.nil_eq.symm
          refine .node (nodup_alter hnodup) (fun dir hdir => ?_) hfiles (fun dir hdir => ?_)
            fun dir hdir => ?_
          · rcases mem_alter hdir with hdir | ⟨hname, -⟩
            · exact hdirs dir hdir
            · exact hname ▸ hnames.1
          · rcases mem_alter hdir with hdir | ⟨-, hnew | ⟨old, -, hnew⟩⟩
            · exact hfull dir hdir
            · exact hnew ▸ hpaths empty
            · exact hnew ▸ hpaths old.2
          · rcases mem_alter hdir with hdir | ⟨-, hnew | ⟨old, hold, hnew⟩⟩
            · exact htrees dir hdir
            · exact hnew ▸ ih hnames.2 neat_empty
            · exact hnew ▸ ih hnames.2 (htrees old hold)

theorem neat_ofPaths (paths : List Text) : (ofPaths paths).Neat := by
  induction paths using List.reverseRecOn with
  | nil => exact neat_empty
  | append_singleton paths path ih =>
      rw [ofPaths, List.foldl_append]
      exact ih.insert fun name hname => Path.isName_of_mem_names hname

theorem paths_ofPaths (paths : List Text) : (ofPaths paths).paths.Perm (located paths) := by
  induction paths using List.reverseRecOn with
  | nil => exact List.Perm.refl _
  | append_singleton paths path ih =>
      rw [ofPaths, List.foldl_append, located, List.map_append, List.filter_append]
      by_cases hne : Path.names path = []
      · have hfold (tree : Tree) : [path].foldl (fun tree path => tree.insert (Path.names path)) tree =
            tree := by
          rw [List.foldl_cons, List.foldl_nil, hne, insert]
        rw [hfold, List.map_singleton, List.filter_cons_of_neg (by simp [hne]), List.filter_nil,
          List.append_nil]
        exact ih
      · rw [List.map_singleton, List.filter_cons_of_pos (by simp [hne]), List.filter_nil]
        exact (paths_insert hne _).trans ((ih.cons _).trans (List.perm_append_singleton _ _).symm)

theorem mem_folders_iff {tree : Tree} (h : tree.Neat) {place : List Text} :
    place ∈ tree.folders ↔ place ≠ [] ∧ ∃ rest ≠ [], place ++ rest ∈ tree.paths := by
  induction h generalizing place with
  | node nodup dirNames fileNames full trees ih =>
      rw [folders, foldersIn_eq, List.mem_flatMap]
      constructor
      · rintro ⟨dir, hdir, hplace⟩
        rcases List.mem_cons.1 hplace with rfl | hplace
        · obtain ⟨rest, hrest⟩ := List.exists_mem_of_ne_nil _ (full dir hdir)
          exact ⟨List.cons_ne_nil _ _, rest, ne_nil_of_mem_paths hrest,
            mem_paths_node.2 (.inl ⟨dir, hdir, rest, hrest, rfl⟩)⟩
        · obtain ⟨below, hbelow, rfl⟩ := List.mem_map.1 hplace
          obtain ⟨-, rest, hne, hrest⟩ := (ih dir hdir).1 hbelow
          exact ⟨List.cons_ne_nil _ _, rest, hne,
            mem_paths_node.2 (.inl ⟨dir, hdir, below ++ rest, hrest, rfl⟩)⟩
      · rintro ⟨hplace, rest, hne, hpath⟩
        obtain ⟨name, below, rfl⟩ := List.exists_cons_of_ne_nil hplace
        rcases mem_paths_node.1 hpath with ⟨dir, hdir, tail, htail, heq⟩ | ⟨file, -, heq⟩
        · obtain ⟨rfl, rfl⟩ := List.cons.inj heq
          refine ⟨dir, hdir, ?_⟩
          by_cases hbelow : below = []
          · subst hbelow
            exact List.mem_cons_self
          · exact List.mem_cons_of_mem _
              (List.mem_map.2 ⟨below, (ih dir hdir).2 ⟨hbelow, rest, hne, htail⟩, rfl⟩)
        · have hnil := (List.cons.inj heq).2
          exact absurd (List.append_eq_nil_iff.1 hnil).2 hne

theorem nodup_folders {tree : Tree} (h : tree.Neat) : tree.folders.Nodup := by
  induction h with
  | @node dirs files nodup dirNames fileNames full trees ih =>
      rw [folders, foldersIn_eq, List.nodup_flatMap]
      constructor
      · intro dir hdir
        refine List.nodup_cons.2 ⟨fun hmem => ?_, (ih dir hdir).map (List.cons_injective)⟩
        obtain ⟨below, hbelow, heq⟩ := List.mem_map.1 hmem
        exact ((mem_folders_iff (trees dir hdir)).1 hbelow).1 (List.cons.inj heq).2
      · have hheads (dir : Text × Tree) :
            ∀ place ∈ [dir.1] :: dir.2.folders.map (dir.1 :: ·), place.head? = some dir.1 := by
          intro place hplace
          rcases List.mem_cons.1 hplace with rfl | hplace
          · rfl
          · obtain ⟨below, -, rfl⟩ := List.mem_map.1 hplace
            rfl
        refine (List.pairwise_map.1 nodup).imp fun {a b} hne => ?_
        intro place ha hb
        have hhead := (hheads a place ha).symm.trans (hheads b place hb)
        exact hne (Option.some.inj hhead)

/-- The directories of a tree are those that its paths lead through. -/
theorem folders_ofPaths (paths : List Text) :
    (ofPaths paths).folders.Perm (directories (located paths)) := by
  apply (List.perm_ext_iff_of_nodup (nodup_folders (neat_ofPaths paths)) (List.nodup_dedup _)).2
  intro place
  refine (mem_folders_iff (neat_ofPaths paths)).trans (Iff.trans ?_ mem_directories.symm)
  simp only [(paths_ofPaths paths).mem_iff]

end Tree

end SourceBook.Document
