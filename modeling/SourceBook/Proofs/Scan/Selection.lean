import SourceBook.Proofs.Files.Names
import SourceBook.Proofs.Number.Order
import SourceBook.Proofs.Text.Sorting
import SourceBook.Scan.Sources

namespace SourceBook.Scan

open Files (Node)

/-- What a finder promises: each path that it gives for a proper tree leads below the root and is spelled
by its names. -/
def Finder.GivesPaths (finder : Finder) : Prop :=
  ∀ {tree : Node} {cwd root : Location} {wanted : Text} {ignored found : List Text}, tree.WellNamed →
    finder tree cwd root wanted ignored = .ok found →
      ∀ path ∈ found, Path.names path ≠ [] ∧ Path.slashed (Path.names path) = path

theorem mem_of_find {tree : Node} {cwd root : Location} {wanted : Text} {ignored found : List Text}
    (h : find tree cwd root wanted ignored = .ok found) {path : Text} (hpath : path ∈ found) :
    ∃ place node patterns, tree.at? place = some node ∧ path ∈ matching root patterns node := by
  rw [find] at h
  split at h
  · cases h
  · next patterns _ =>
      cases hread : tree.read cwd (scanPath root) with
      | error fault =>
          rw [hread] at h
          cases fault <;> cases h
          cases hpath
      | ok node =>
          rw [hread] at h
          obtain ⟨place, -, hfound⟩ := exists_of_bind_eq_ok hread
          have hat : tree.at? place = some node := by
            split at hfound
            · next hat =>
                cases hfound
                exact hat
            · cases hfound
          cases node with
          | folder entries =>
              cases h
              exact ⟨place, .folder entries, patterns, hat, hpath⟩
          | file bytes => cases h
          | link target => cases h

theorem givesPaths_find : find.GivesPaths := by
  intro tree cwd root wanted ignored found htree h path hpath
  obtain ⟨place, node, patterns, hat, hmatch⟩ := mem_of_find h hpath
  obtain ⟨names, hnames, rfl⟩ := List.mem_map.1 (List.mem_filter.1 hmatch).1
  obtain ⟨below, rfl, hne, hbelow⟩ := Node.exists_names_of_mem_files (htree.at? hat) hnames
  rw [Path.names_slashed hbelow]
  exact ⟨hne, rfl⟩

section

variable {α : Type} {limit : Option Number} {entries : List α}

theorem mem_of_mem_limited {entry : α} (h : entry ∈ limited limit entries) : entry ∈ entries := by
  rw [limited.eq_def] at h
  split at h
  · split_ifs at h
    · exact List.mem_of_mem_take h
    · exact h
  · exact h

theorem limited_of_not_positive (h : ∀ n ∈ limit, n.isPositive = false) (entries : List α) :
    limited limit entries = entries := by
  cases limit with
  | none => rfl
  | some n =>
      rw [limited, h n rfl]
      rfl

theorem limited_finite {n : Nat} (h : 0 < n) (entries : List α) :
    limited (some (.finite n)) entries = entries.take n := by
  have hpos : Number.isPositive (.finite n) = true := decide_eq_true (by exact_mod_cast h)
  have hfloor : (n : Rat).floor = n := Rat.floor_intCast n
  rw [limited, if_pos hpos, Number.toNatUpTo, hfloor, Int.toNat_natCast, Nat.min_comm]
  exact List.take_eq_take_min.symm

/-- A tighter cap leaves a beginning of what a looser one leaves, as long as it is a cap at all. -/
theorem limited_isPrefix {small : Number} {large : Option Number} (hpos : small.isPositive = true)
    (hle : ∀ bound ∈ large, small ≤ bound) (entries : List α) :
    limited (some small) entries <+: limited large entries := by
  rw [limited, if_pos hpos, limited.eq_def]
  split
  · next bound =>
      split_ifs
      · apply List.take_prefix_take_left
        exact Number.toNatUpTo_le_of_le (hle bound rfl) _
      · exact List.take_prefix _ _
  · exact List.take_prefix _ _

end

section

variable [Text.Collation] {tree : Node} {cwd root : Location} {options : Options} {finder : Finder}

theorem mem_select {found : List Text} {path : Text} (h : path ∈ select cwd root options found) :
    path ∈ found ∧ path ∉ designated cwd root options.excludeFiles := by
  obtain ⟨hfound, hkept⟩ := List.mem_filter.1 ((Text.sort_perm _).mem_iff.1 (mem_of_mem_limited h))
  refine ⟨hfound, fun hpath => ?_⟩
  rw [List.contains_iff_mem.2 hpath] at hkept
  exact absurd hkept (by decide)

theorem sources_of_found {found : List Text}
    (h : finder tree cwd root (includePattern options.extensions) options.ignored = .ok found) :
    sources tree cwd root options finder = .ok (select cwd root options found) := by
  rw [sources, h]
  rfl

theorem exists_found_of_sources {paths : List Text}
    (h : sources tree cwd root options finder = .ok paths) :
    ∃ found, finder tree cwd root (includePattern options.extensions) options.ignored = .ok found ∧
      paths = select cwd root options found := by
  cases hfound : finder tree cwd root (includePattern options.extensions) options.ignored with
  | error failure =>
      rw [sources, hfound] at h
      cases h
  | ok found =>
      rw [sources_of_found hfound] at h
      exact ⟨found, rfl, (Except.ok.inj h).symm⟩

variable (tree cwd root options finder)

theorem sources_maxFiles (cap : Option Number) :
    sources tree cwd root { options with maxFiles := cap } finder =
      (sources tree cwd root { options with maxFiles := none } finder).map (limited cap) := by
  have hsources (cap : Option Number) : sources tree cwd root { options with maxFiles := cap } finder =
      (finder tree cwd root (includePattern options.extensions) options.ignored).map
        (select cwd root { options with maxFiles := cap }) := rfl
  rw [hsources, hsources]
  cases finder tree cwd root (includePattern options.extensions) options.ignored with
  | error failure => rfl
  | ok found => rfl

end

end SourceBook.Scan
