import SourceBook.Document.Tree
import SourceBook.Proofs.Text.Lines
import SourceBook.Proofs.Text.Sorting

namespace SourceBook.Document

namespace Tree

mutual

def All (p : Text → Prop) : Tree → Prop
  | node dirs files => AllDirs p dirs ∧ ∀ file ∈ files, p file

def AllDirs (p : Text → Prop) : List (Text × Tree) → Prop
  | [] => True
  | (name, tree) :: rest => p name ∧ tree.All p ∧ AllDirs p rest

end

section

variable {p : Text → Prop}

theorem all_empty : empty.All p := ⟨trivial, by simp⟩

theorem allDirs_alter {name : Text} {f : Tree → Tree} {dirs : List (Text × Tree)} (hname : p name)
    (hf : ∀ tree : Tree, tree.All p → (f tree).All p) (h : AllDirs p dirs) :
    AllDirs p (alter name f dirs) := by
  induction dirs with
  | nil => exact ⟨hname, hf empty all_empty, trivial⟩
  | cons dir rest ih =>
      obtain ⟨other, tree⟩ := dir
      obtain ⟨hother, htree, hrest⟩ := h
      rw [alter]
      split
      · exact ⟨hother, hf tree htree, hrest⟩
      · exact ⟨hother, htree, ih hrest⟩

theorem all_insert {names : List Text} (hnames : ∀ name ∈ names, p name) {tree : Tree}
    (h : tree.All p) : (tree.insert names).All p := by
  induction names generalizing tree with
  | nil => simpa [insert] using h
  | cons name rest ih =>
      obtain ⟨dirs, files⟩ := tree
      obtain ⟨hdirs, hfiles⟩ := h
      have hname : p name := hnames name (by simp)
      cases rest with
      | nil =>
          refine ⟨hdirs, fun file hm => ?_⟩
          rw [List.mem_append, List.mem_singleton] at hm
          rcases hm with hm | rfl
          · exact hfiles file hm
          · exact hname
      | cons next rest =>
          refine ⟨allDirs_alter hname (fun tree ht => ?_) hdirs, hfiles⟩
          exact ih (fun name hm => hnames name (List.mem_cons_of_mem _ hm)) ht

theorem all_ofPaths {paths : List Text} (h : ∀ path ∈ paths, ∀ name ∈ Path.names path, p name) :
    (ofPaths paths).All p := by
  have hfold (tree : Tree) (ht : tree.All p) :
      (paths.foldl (fun tree path => tree.insert (Path.names path)) tree).All p := by
    induction paths generalizing tree with
    | nil => exact ht
    | cons path paths ih =>
        exact ih (fun other ho => h other (by simp [ho])) _ (all_insert (h path (by simp)) ht)
  exact hfold empty all_empty

end

theorem mem_of_mem_names {path name : Text} (h : name ∈ Path.names path) : ∀ c ∈ name, c ∈ path :=
  (Text.mem_splitOn (List.mem_of_mem_filter h)).2

def IsDrawn (line : Text) : Prop := Text.OneLine line ∧ '─' ∈ line

theorem isDrawn_draw {branch rail : Text} {block : Block} (hbranch : IsDrawn branch)
    (hrail : Text.OneLine rail) (hlabel : Text.OneLine block.label)
    (hbelow : ∀ line ∈ block.below, IsDrawn line) : ∀ line ∈ draw branch rail block, IsDrawn line := by
  intro line hl
  rw [draw, List.mem_cons, List.mem_map] at hl
  rcases hl with rfl | ⟨source, hs, rfl⟩
  · exact ⟨hbranch.1.append hlabel, List.mem_append_left _ hbranch.2⟩
  · exact ⟨hrail.append (hbelow source hs).1, List.mem_append_right _ (hbelow source hs).2⟩

theorem isDrawn_drawAll {drawn : List Block}
    (h : ∀ block ∈ drawn, Text.OneLine block.label ∧ ∀ line ∈ block.below, IsDrawn line) :
    ∀ line ∈ drawAll drawn, IsDrawn line := by
  have hlast : IsDrawn "└── ".toList := ⟨by decide, by decide⟩
  have hinner : IsDrawn "├── ".toList := ⟨by decide, by decide⟩
  have hblank : Text.OneLine "    ".toList := by decide
  have hrail : Text.OneLine "│   ".toList := by decide
  induction drawn with
  | nil => simp [drawAll]
  | cons block rest ih =>
      obtain ⟨hlabel, hbelow⟩ := h block (by simp)
      cases rest with
      | nil => exact isDrawn_draw hlast hblank hlabel hbelow
      | cons next rest =>
          intro line hl
          rw [drawAll, List.mem_append] at hl
          · rcases hl with hl | hl
            · exact isDrawn_draw hinner hrail hlabel hbelow line hl
            · exact ih (fun other ho => h other (by simp [ho])) line hl
          · simp

variable [Text.Collation]

mutual

theorem isDrawn_lines : ∀ tree : Tree, tree.All Text.OneLine → ∀ line ∈ tree.lines, IsDrawn line
  | node dirs files, h => by
      obtain ⟨hdirs, hfiles⟩ := h
      rw [lines]
      apply isDrawn_drawAll
      intro block hb
      rw [List.mem_append, Text.mem_sortBy, List.mem_map] at hb
      rcases hb with hb | ⟨file, hf, rfl⟩
      · exact isDrawn_blocks dirs hdirs block hb
      · exact ⟨hfiles file ((Text.sort_perm files).mem_iff.1 hf), by simp⟩

theorem isDrawn_blocks : ∀ dirs : List (Text × Tree), AllDirs Text.OneLine dirs →
    ∀ block ∈ blocks dirs, Text.OneLine block.label ∧ ∀ line ∈ block.below, IsDrawn line
  | [], _ => by simp [blocks]
  | (name, tree) :: rest, h => by
      obtain ⟨hname, htree, hrest⟩ := h
      intro block hb
      rw [blocks, List.mem_cons] at hb
      rcases hb with rfl | hb
      · exact ⟨hname.append (by decide), isDrawn_lines tree htree⟩
      · exact isDrawn_blocks rest hrest block hb

end

section

variable {root : Text} {paths : List Text} (hroot : Text.OneLine root)
  (hpaths : ∀ path ∈ paths, Text.OneLine path)

include hpaths

theorem isDrawn_lines_ofPaths : ∀ line ∈ (ofPaths paths).lines, IsDrawn line := by
  apply isDrawn_lines
  apply all_ofPaths
  intro path hp name hn c hc
  exact hpaths path hp c (mem_of_mem_names hn c hc)

include hroot

theorem lines_render :
    Text.lines (render root (ofPaths paths)) = (root ++ ['/']) :: (ofPaths paths).lines := by
  refine Text.lines_unlines (fun line hl => ?_) (List.cons_ne_nil _ _)
  rw [List.mem_cons] at hl
  rcases hl with rfl | hl
  · exact (hroot.append (by decide)).break_not_mem
  · exact (isDrawn_lines_ofPaths hpaths line hl).1.break_not_mem

/-- Every line of a drawing holds a visible character that is no backtick, and none holds a line end. -/
theorem solid_of_mem_lines_render {line : Text} (h : line ∈ Text.lines (render root (ofPaths paths))) :
    Text.OneLine line ∧ ('/' ∈ line ∨ '─' ∈ line) := by
  rw [lines_render hroot hpaths, List.mem_cons] at h
  rcases h with rfl | h
  · exact ⟨hroot.append (by decide), .inl (by simp)⟩
  · obtain ⟨hline, hbranch⟩ := isDrawn_lines_ofPaths hpaths line h
    exact ⟨hline, .inr hbranch⟩

end

end Tree

end SourceBook.Document
