import SourceBook.Proofs.Document.TreePaths
import SourceBook.Proofs.Text.Lines
import SourceBook.Proofs.Text.Sorting

namespace SourceBook.Document

open SourceBook.Path (IsName)

namespace Tree

/-- How many rails a line has, and what stands behind its branch. -/
def place : Text → Nat × Text
  | first :: _ :: _ :: _ :: rest =>
    if first = '│' ∨ first = ' ' then ((place rest).1 + 1, (place rest).2) else (0, rest)
  | _ => (0, [])

def readFrom (above : List Text) : List Text → List (List Text)
  | [] => []
  | line :: rest =>
    let opened := above.take (place line).1
    let label := (place line).2
    if label.getLast? = some '/' then readFrom (opened ++ [label.dropLast]) rest
    else (opened ++ [label]) :: readFrom above rest

def read (drawing : Text) : List (List Text) := readFrom [] (Text.lines drawing).tail

def readBlock (block : Block) : List (List Text) :=
  if block.label.getLast? = some '/' then (readFrom [] block.below).map (block.label.dropLast :: ·)
  else [[block.label]]

def IsRail (rail : Text) : Prop := rail = "│   ".toList ∨ rail = "    ".toList

def IsBranch (branch : Text) : Prop := branch = "├── ".toList ∨ branch = "└── ".toList

theorem place_rail {rail : Text} (h : IsRail rail) (line : Text) :
    place (rail ++ line) = ((place line).1 + 1, (place line).2) := by
  rcases h with rfl | rfl <;> rfl

theorem place_branch {branch : Text} (h : IsBranch branch) (label : Text) :
    place (branch ++ label) = (0, label) := by
  rcases h with rfl | rfl <;> rfl

theorem readFrom_cons (above : List Text) (line : Text) (rest : List Text) :
    readFrom above (line :: rest) =
      if (place line).2.getLast? = some '/' then
        readFrom (above.take (place line).1 ++ [(place line).2.dropLast]) rest
      else (above.take (place line).1 ++ [(place line).2]) :: readFrom above rest := rfl

/-- Lines beside a rail stand in one directory more. -/
theorem readFrom_map_rail {rail : Text} (h : IsRail rail) (dir : Text) (above lines : List Text) :
    readFrom (dir :: above) (lines.map (rail ++ ·)) = (readFrom above lines).map (dir :: ·) := by
  induction lines generalizing above with
  | nil => rfl
  | cons line lines ih =>
      rw [List.map_cons, readFrom_cons, readFrom_cons, place_rail h, List.take_succ_cons]
      split_ifs with hdir
      · exact ih _
      · rw [ih]
        rfl

theorem readFrom_append {rest : List Text} {found : List (List Text)}
    (h : ∀ above, readFrom above rest = found) (above lines : List Text) :
    readFrom above (lines ++ rest) = readFrom above lines ++ found := by
  induction lines generalizing above with
  | nil => exact h above
  | cons line lines ih =>
      rw [List.cons_append, readFrom_cons, readFrom_cons]
      split_ifs with hdir
      · exact ih _
      · rw [ih]
        rfl

theorem readFrom_draw {branch rail : Text} (hbranch : IsBranch branch) (hrail : IsRail rail)
    {block : Block} (hblock : block.label.getLast? = some '/' ∨ block.below = []) {rest : List Text}
    {found : List (List Text)} (h : ∀ above, readFrom above rest = found) (above : List Text) :
    readFrom above (draw branch rail block ++ rest) = readBlock block ++ found := by
  rw [draw, List.cons_append, readFrom_cons, place_branch hbranch, readBlock, List.take_zero,
    List.nil_append]
  split_ifs with hdir
  · rw [readFrom_append h, readFrom_map_rail hrail]
  · rw [hblock.resolve_left hdir, List.map_nil]
    exact congrArg _ (h above)

/-- What is drawn in front does not matter: a line without rails closes all directories. -/
theorem readFrom_drawAll {drawn : List Block}
    (h : ∀ block ∈ drawn, block.label.getLast? = some '/' ∨ block.below = []) (above : List Text) :
    readFrom above (drawAll drawn) = drawn.flatMap readBlock := by
  induction drawn generalizing above with
  | nil => rfl
  | cons block drawn ih =>
      rw [List.forall_mem_cons] at h
      cases drawn with
      | nil =>
          have hend (above : List Text) : readFrom above [] = [] := rfl
          have hdraw := readFrom_draw (.inr rfl) (.inr rfl) h.1 hend above
          rwa [List.append_nil] at hdraw
      | cons next drawn => exact readFrom_draw (.inl rfl) (.inl rfl) h.1 (ih h.2) above

theorem blocks_eq [Text.Collation] (dirs : List (Text × Tree)) :
    blocks dirs = dirs.map fun dir => ⟨dir.1, dir.1 ++ ['/'], dir.2.lines⟩ := by
  induction dirs with
  | nil => rfl
  | cons dir dirs ih => rw [blocks, ih, List.map_cons]

theorem readBlock_dir (name : Text) (below : List Text) :
    readBlock ⟨name, name ++ ['/'], below⟩ = (readFrom [] below).map (name :: ·) := by
  simp [readBlock]

theorem getLast?_ne_slash {name : Text} (h : IsName name) : name.getLast? ≠ some '/' :=
  fun hlast => h.2 (List.mem_of_getLast? hlast)

theorem readBlock_file {file : Text} (h : IsName file) : readBlock ⟨file, file, []⟩ = [[file]] := by
  rw [readBlock, if_neg (getLast?_ne_slash h)]

/-- The lines of a tree name its paths, in the order in which they are drawn. -/
theorem readFrom_lines [Text.Collation] {tree : Tree} (h : tree.Neat) :
    (readFrom [] tree.lines).Perm tree.paths := by
  induction h with
  | @node dirs files nodup dirNames fileNames full trees ih =>
      have hlegible : ∀ block ∈ Text.sortBy Block.name (blocks dirs) ++
          (Text.sort files).map (fun file => ⟨file, file, []⟩),
          block.label.getLast? = some '/' ∨ block.below = [] := by
        intro block hblock
        rcases List.mem_append.1 hblock with hblock | hblock
        · rw [Text.mem_sortBy, blocks_eq] at hblock
          obtain ⟨dir, -, rfl⟩ := List.mem_map.1 hblock
          exact .inl List.getLast?_concat
        · obtain ⟨file, -, rfl⟩ := List.mem_map.1 hblock
          exact .inr rfl
      have hdirs : ((blocks dirs).flatMap readBlock).Perm (pathsIn dirs) := by
        rw [blocks_eq, pathsIn_eq, List.flatMap_map]
        refine List.Perm.flatMap_left dirs fun dir hdir => ?_
        rw [readBlock_dir]
        exact (ih dir hdir).map _
      have hfiles : (files.map fun file => (⟨file, file, []⟩ : Block)).flatMap readBlock =
          files.map fun file => [file] := by
        rw [List.flatMap_map, List.map_eq_flatMap]
        exact List.flatMap_congr fun file hfile => readBlock_file (fileNames file hfile)
      rw [lines, readFrom_drawAll hlegible, List.flatMap_append, paths, ← hfiles]
      apply List.Perm.append
      · exact ((Text.sortBy_perm _ _).flatMap_right _).trans hdirs
      · exact ((Text.sortBy_perm _ _).map _).flatMap_right _

section

variable {c : Char} (hc : c ∉ "│├└─ /".toList)

include hc

theorem not_mem_drawAll {drawn : List Block}
    (h : ∀ block ∈ drawn, c ∉ block.label ∧ ∀ line ∈ block.below, c ∉ line) :
    ∀ line ∈ drawAll drawn, c ∉ line := by
  have hdraw {branch rail : Text} (hbranch : IsBranch branch) (hrail : IsRail rail) {block : Block}
      (hblock : c ∉ block.label ∧ ∀ line ∈ block.below, c ∉ line) :
      ∀ line ∈ draw branch rail block, c ∉ line := by
    have hmarks : c ∉ branch ∧ c ∉ rail := by
      constructor
      · rcases hbranch with rfl | rfl <;> simp_all
      · rcases hrail with rfl | rfl <;> simp_all
    intro line hline
    rcases List.mem_cons.1 hline with rfl | hline
    · exact fun hm => (List.mem_append.1 hm).elim hmarks.1 hblock.1
    · obtain ⟨source, hsource, rfl⟩ := List.mem_map.1 hline
      exact fun hm => (List.mem_append.1 hm).elim hmarks.2 (hblock.2 source hsource)
  induction drawn with
  | nil => simp [drawAll]
  | cons block drawn ih =>
      rw [List.forall_mem_cons] at h
      cases drawn with
      | nil => exact hdraw (.inr rfl) (.inr rfl) h.1
      | cons next drawn =>
          intro line hline
          rcases List.mem_append.1 hline with hline | hline
          · exact hdraw (.inl rfl) (.inl rfl) h.1 line hline
          · exact ih h.2 line hline

theorem not_mem_lines [Text.Collation] {tree : Tree} (h : tree.Neat)
    (hpaths : ∀ path ∈ tree.paths, ∀ name ∈ path, c ∉ name) : ∀ line ∈ tree.lines, c ∉ line := by
  induction h with
  | @node dirs files nodup dirNames fileNames full trees ih =>
      have hslash : c ∉ ['/'] := by simp_all
      apply not_mem_drawAll hc
      intro block hblock
      rcases List.mem_append.1 hblock with hblock | hblock
      · rw [Text.mem_sortBy, blocks_eq] at hblock
        obtain ⟨dir, hdir, rfl⟩ := List.mem_map.1 hblock
        have hbelow : ∀ path ∈ dir.2.paths, ∀ name ∈ dir.1 :: path, c ∉ name := fun path hpath =>
          hpaths _ (mem_paths_node.2 (.inl ⟨dir, hdir, path, hpath, rfl⟩))
        constructor
        · obtain ⟨path, hpath⟩ := List.exists_mem_of_ne_nil _ (full dir hdir)
          exact fun hm => (List.mem_append.1 hm).elim (hbelow path hpath _ List.mem_cons_self) hslash
        · exact ih dir hdir fun path hpath name hname =>
            hbelow path hpath name (List.mem_cons_of_mem _ hname)
      · obtain ⟨file, hfile, rfl⟩ := List.mem_map.1 hblock
        rw [(Text.sort_perm _).mem_iff] at hfile
        exact ⟨hpaths _ (mem_paths_node.2 (.inr ⟨file, hfile, rfl⟩)) _ List.mem_cons_self, by simp⟩

end

theorem mem_name_of_mem_located {paths : List Text} {path : List Text} (h : path ∈ located paths)
    {name : Text} (hname : name ∈ path) {c : Char} (hc : c ∈ name) : ∃ text ∈ paths, c ∈ text := by
  obtain ⟨text, htext, rfl⟩ := List.mem_map.1 (List.mem_of_mem_filter h)
  exact ⟨text, htext, (Text.mem_splitOn (List.mem_of_mem_filter hname)).2 c hc⟩

theorem lines_render_of_not_mem [Text.Collation] {root : Text} {paths : List Text} (hroot : '\n' ∉ root)
    (hpaths : ∀ path ∈ paths, '\n' ∉ path) :
    Text.lines (render root (ofPaths paths)) = (root ++ ['/']) :: (ofPaths paths).lines := by
  refine Text.lines_unlines (fun line hline => ?_) (List.cons_ne_nil _ _)
  rcases List.mem_cons.1 hline with rfl | hline
  · simpa using hroot
  · refine not_mem_lines (by decide) (neat_ofPaths paths) (fun path hpath name hname hc => ?_) line hline
    obtain ⟨text, htext, hmem⟩ :=
      mem_name_of_mem_located ((paths_ofPaths paths).mem_iff.1 hpath) hname hc
    exact hpaths text htext hmem

/-- The drawing of a list of paths is read back as these paths. -/
theorem read_render [Text.Collation] {root : Text} {paths : List Text} (hroot : '\n' ∉ root)
    (hpaths : ∀ path ∈ paths, '\n' ∉ path) :
    (read (render root (ofPaths paths))).Perm (located paths) := by
  rw [read, lines_render_of_not_mem hroot hpaths]
  exact (readFrom_lines (neat_ofPaths paths)).trans (paths_ofPaths paths)

end Tree

end SourceBook.Document
