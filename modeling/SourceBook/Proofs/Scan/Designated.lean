import SourceBook.Proofs.Path.Relative
import SourceBook.Proofs.Scan.Selection

namespace SourceBook.Scan

open Files (Node)
open SourceBook.Path (IsName IsRelative)

-- Each of the four tests would miss a path of its own: the root, the folder above it, what lies in that
-- folder, and a location. A name that only starts with two dots passes them.
theorem leadsBelow_of_isRelative {path : Text} (h : IsRelative path) : leadsBelow path = true := by
  have hempty : path ≠ [] := by
    rintro rfl
    exact h.names_ne_nil rfl
  have hparent : path ≠ Path.parent := by
    rintro rfl
    exact (h.settled Path.parent (by decide)).2 rfl
  have hup : Text.startsWith (Path.parent ++ ['/']) path = false := by
    rw [Bool.eq_false_iff]
    intro hstart
    obtain ⟨rest, rfl⟩ := Text.startsWith_iff_isPrefix.1 hstart
    have hnames : Path.names (Path.parent ++ '/' :: rest) = Path.parent :: Path.names rest :=
      Path.names_append_slash Path.parent rest
    apply (h.settled Path.parent _).2 rfl
    rw [List.append_assoc, List.singleton_append, hnames]
    exact List.mem_cons_self
  rw [leadsBelow, hup, h.isAbsolute]
  simp [hempty, hparent]

section

variable {cwd root : Location} (hcwd : ∀ name ∈ cwd, IsName name) (hroot : Path.IsSettled root)

include hcwd hroot

/-- A path stands for one of the files exactly if it leads to the same place, however that is spelled. -/
theorem mem_designated_iff (files : List Text) {path : Text} (hpath : IsRelative path) :
    path ∈ designated cwd root files ↔ ∃ file ∈ files, Path.resolve cwd file = Path.resolve root path := by
  rw [designated, List.mem_filter, List.mem_map]
  constructor
  · rintro ⟨⟨file, hfile, rfl⟩, -⟩
    refine ⟨file, hfile, ?_⟩
    rw [Path.resolve_relative hroot (Path.isSettled_resolve cwd file)]
    exact fun name => Path.isName_of_mem_resolve hcwd
  · rintro ⟨file, hfile, hplace⟩
    refine ⟨⟨file, hfile, ?_⟩, leadsBelow_of_isRelative hpath⟩
    rw [hplace, Path.resolve_isRelative hroot hpath, Path.relative_append, hpath.slashed]

variable [Text.Collation] {tree : Node} {options : Options} {finder : Finder}

/-- A file that a scan leaves out is at none of the places that it gives. -/
theorem resolve_ne_of_mem_sources (hfinder : finder.GivesPaths) (htree : tree.WellNamed)
    {paths : List Text} (h : sources tree cwd root options finder = .ok paths) {path : Text}
    (hpath : path ∈ paths) {file : Text} (hfile : file ∈ options.excludeFiles) :
    Path.resolve cwd file ≠ root ++ Path.names path := by
  intro hplace
  obtain ⟨found, hfound, rfl⟩ := exists_found_of_sources h
  obtain ⟨hmem, hnot⟩ := mem_select hpath
  obtain ⟨hne, hslashed⟩ := hfinder htree hfound path hmem
  have hrelative : IsRelative path :=
    { names_ne_nil := hne
      slashed := hslashed
      settled := fun name hname => Path.isSettled_resolve cwd file name
        (hplace ▸ List.mem_append_right root hname) }
  apply hnot
  rw [mem_designated_iff hcwd hroot _ hrelative, Path.resolve_isRelative hroot hrelative]
  exact ⟨file, hfile, hplace⟩

end

/-- The files that were found and lead to none of the places that the files to leave out lead to. -/
def remaining (cwd root : Location) (leftOut found : List Text) : List Text :=
  found.filter fun path => ∀ file ∈ leftOut, Path.resolve cwd file ≠ Path.resolve root path

section

variable [Text.Collation] {cwd : Location} (hcwd : ∀ name ∈ cwd, IsName name) (source : Text)
  (options : Options)

include hcwd

theorem select_eq {found : List Text} (hpaths : ∀ path ∈ found, IsRelative path) :
    select cwd (Path.resolve cwd source) options found = limited options.maxFiles
      (Text.sort (remaining cwd (Path.resolve cwd source) options.excludeFiles found)) := by
  rw [select, remaining]
  congr 2
  apply List.filter_congr
  intro path hpath
  rw [Bool.eq_iff_iff, Bool.not_eq_true', ← Bool.not_eq_true, decide_eq_true_eq, List.contains_iff_mem,
    mem_designated_iff hcwd (Path.isSettled_resolve cwd source) _ (hpaths path hpath)]
  push Not
  rfl

/-- A scan gives all files that were found and not designated, in order and each once, up to a limit;
where the order tells different files apart it does not matter how they were found. -/
theorem sources_remaining (tree : Node) {finder : Finder} {found : List Text}
    (hfound : finder tree cwd (Path.resolve cwd source) (includePattern options.extensions)
      options.ignored = .ok found)
    (hnodup : found.Nodup) (hpaths : ∀ path ∈ found, IsRelative path) :
    ∃ sorted : List Text,
      sorted.Perm (remaining cwd (Path.resolve cwd source) options.excludeFiles found) ∧ sorted.Nodup ∧
      (sorted.Pairwise fun a b => (Text.Collation.compare a b).isLE = true) ∧
      ((∀ limit ∈ options.maxFiles, limit.isPositive = false) →
        sources tree cwd (Path.resolve cwd source) options finder = .ok sorted) ∧
      (∀ n : Nat, 0 < n → options.maxFiles = some (.finite n) →
        sources tree cwd (Path.resolve cwd source) options finder = .ok (sorted.take n)) ∧
      ((∀ a ∈ found, ∀ b ∈ found, Text.Collation.compare a b = .eq → a = b) →
        ∀ (other : Finder) (found' : List Text), found.Perm found' →
          other tree cwd (Path.resolve cwd source) (includePattern options.extensions)
            options.ignored = .ok found' →
          sources tree cwd (Path.resolve cwd source) options other =
            sources tree cwd (Path.resolve cwd source) options finder) := by
  have hperm := Text.sort_perm (remaining cwd (Path.resolve cwd source) options.excludeFiles found)
  rw [sources_of_found hfound, select_eq hcwd source options hpaths]
  refine ⟨_, hperm, hperm.nodup_iff.2 (hnodup.filter _), Text.pairwise_sortBy id _, fun hlimit => ?_,
    fun n hn hlimit => ?_, fun hties other found' hother hfound' => ?_⟩
  · rw [limited_of_not_positive hlimit]
  · rw [hlimit, limited_finite hn]
  · have hpaths' : ∀ path ∈ found', IsRelative path := fun path hpath =>
      hpaths path (hother.mem_iff.2 hpath)
    rw [sources_of_found hfound', select_eq hcwd source options hpaths']
    refine congrArg (fun sorted => Except.ok (limited options.maxFiles sorted)) ?_
    refine (Text.sortBy_eq_of_perm (hother.filter _) fun a ha b hb heq => ?_).symm
    exact hties a (List.mem_of_mem_filter ha) b (List.mem_of_mem_filter hb) heq

end

/-- Files to leave out, spelled in a roundabout way, and one of them outside the root. -/
def spelled : Options where
  excludeFiles := ["./out//o.md".toList, "/w/x/../..a.ts".toList, "../b.ts".toList]
  maxFiles := some (.finite 2)

def matched : List Text := ["c.ts".toList, "..a.ts".toList, "b.ts".toList, "out/o.md".toList, "a.ts".toList]

def finding (found : List Text) : Finder := fun _ _ _ _ _ => .ok found

theorem sources_remaining_spelled :
    (∀ name ∈ ["w".toList], IsName name) ∧ matched.Nodup ∧ (∀ path ∈ matched, IsRelative path) ∧
      ∃ sorted : List Text, sorted.Perm ["c.ts".toList, "b.ts".toList, "a.ts".toList] ∧
        sources (.folder []) ["w".toList] (Path.resolve ["w".toList] ".".toList) spelled
          (finding matched) = .ok (sorted.take 2) ∧
        sources (.folder []) ["w".toList] (Path.resolve ["w".toList] ".".toList) spelled
            (finding matched.reverse) =
          sources (.folder []) ["w".toList] (Path.resolve ["w".toList] ".".toList) spelled
            (finding matched) := by
  have hcwd : ∀ name ∈ ["w".toList], IsName name := by decide
  have hnodup : matched.Nodup := by decide
  have hpaths : ∀ path ∈ matched, IsRelative path := by decide +kernel
  have hremaining : remaining ["w".toList] (Path.resolve ["w".toList] ".".toList) spelled.excludeFiles
      matched = ["c.ts".toList, "b.ts".toList, "a.ts".toList] := by decide +kernel
  obtain ⟨sorted, hperm, -, -, -, hlimit, horder⟩ := sources_remaining hcwd ".".toList spelled
    (.folder []) (show finding matched _ _ _ _ _ = _ from rfl) hnodup hpaths
  rw [hremaining] at hperm
  refine ⟨hcwd, hnodup, hpaths, sorted, hperm, hlimit 2 (by decide) rfl, ?_⟩
  exact horder (by decide +kernel) _ _ (List.reverse_perm matched).symm rfl

end SourceBook.Scan
