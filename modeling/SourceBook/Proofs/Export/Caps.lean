import SourceBook.Proofs.Export.Accounting
import SourceBook.Proofs.Scan.Selection

namespace SourceBook.Export

open Comment (Lexers)
open Document (Entry)
open Files (Node)
open Text (Bytes)

structure LongestFitting {α : Type} (P : List α → Prop) (all kept : List α) : Prop where
  isPrefix : kept <+: all
  fits : P kept
  longest : ∀ other, other <+: all → P other → other <+: kept

theorem LongestFitting.isPrefix_of_le {α : Type} {P Q : List α → Prop} {all all' kept kept' : List α}
    (h : LongestFitting P all kept) (h' : LongestFitting Q all' kept') (hall : all <+: all')
    (hfits : ∀ files, P files → Q files) : kept <+: kept' :=
  h'.longest kept (h.isPrefix.trans hall) (hfits kept h.fits)

def totalSize (read : Text → Except Text Bytes) (paths : List Text) : Nat :=
  (paths.map fun path => (bytesAt read path).length).sum

theorem totalSize_append (read : Text → Except Text Bytes) (a b : List Text) :
    totalSize read (a ++ b) = totalSize read a + totalSize read b := by
  rw [totalSize, List.map_append, List.sum_append, totalSize, totalSize]

theorem totalSize_le_of_isPrefix (read : Text → Except Text Bytes) {a b : List Text} (h : a <+: b) :
    totalSize read a ≤ totalSize read b := by
  obtain ⟨rest, rfl⟩ := h
  rw [totalSize_append]
  exact Nat.le_add_right _ _

/-- Nothing is taken, or what is taken keeps to the cap. A cap below zero lets no file through, not even
an empty one. -/
def KeepsTo (read : Text → Except Text Bytes) (cap : Option Number) (paths : List Text) : Prop :=
  paths = [] ∨ Within (totalSize read paths) cap

section

variable {lexers : Lexers} {read : Text → Except Text Bytes} {options : IntakeOptions}
  {done : List Text} {intake : Intake}

theorem keepsTo_move (h : intake.entries = [] ∨ Within intake.bytes options.maxTotalBytes)
    {path : Text} {after : Intake} (hmove : intake.Move lexers read options path after) :
    after.entries = [] ∨ Within after.bytes options.maxTotalBytes := by
  cases hmove with
  | refused message hopen hrefused hkind => exact h
  | behind message hfull => exact h
  | overflow message hopen haccepted htotal => exact h
  | taken hopen haccepted htotal => exact .inr htotal

theorem Intake.Balanced.bytes_eq (h : intake.Balanced lexers read options done) :
    intake.bytes = totalSize read (intake.entries.map Entry.path) := by
  rw [h.bytes, totalSize, List.map_map]
  rfl

/-- With the file at the cut the total would be exceeded, so no longer beginning fits. -/
theorem Intake.Cut.longest (h : intake.Cut read options done)
    (hbytes : intake.bytes = totalSize read (intake.entries.map Entry.path)) {other : List Text}
    (hother : other <+: done.filter (isAcceptable read options))
    (hfits : Within (totalSize read other) options.maxTotalBytes) :
    other <+: intake.entries.map Entry.path := by
  obtain ⟨early, hdone, htaken, -⟩ := h.early
  rw [hdone, List.filter_append, ← htaken] at hother
  cases hlate : intake.report.atLimit with
  | nil =>
      rw [hlate, List.filter_nil, List.append_nil] at hother
      exact hother
  | cons path late =>
      obtain ⟨haccepted, hoverflow⟩ := h.overflow path (by rw [hlate]; rfl)
      rw [hlate, List.filter_cons_of_pos haccepted, List.append_cons] at hother
      have hbeyond : ¬ intake.entries.map Entry.path ++ [path] <+: other := by
        intro hlonger
        have hsize := totalSize_le_of_isPrefix read hlonger
        rw [totalSize_append, ← hbytes] at hsize
        exact hoverflow (hfits.of_le hsize)
      rcases List.prefix_or_prefix_of_prefix hother (List.prefix_append _ _) with hshort | hlong
      · rcases List.prefix_concat_iff.1 hshort with heq | hshort
        · exact absurd (heq ▸ List.prefix_rfl) hbeyond
        · exact hshort
      · exact absurd hlong hbeyond

end

section

variable (around : Surroundings) (options : Options) (root : Location) (paths : List Text)

def eligible : List Text := paths.filter (isAcceptable (around.read root) options.intake)

def entryAt (path : Text) : Entry :=
  (entryOf around.lexers options.intake path (bytesAt (around.read root) path)).1

theorem balanced_taken : (taken around options root paths).Balanced around.lexers (around.read root)
    options.intake paths :=
  balanced_intake rfl rfl rfl paths

variable [Text.Collation]

theorem entries_ofPaths : (ofPaths around options root paths).entries =
    ((ofPaths around options root paths).entries.map Entry.path).map (entryAt around options root) := by
  rw [List.map_map]
  refine (List.map_id _).symm.trans (List.map_congr_left fun entry hentry => ?_)
  exact ((balanced_taken around options root paths).admitted entry hentry).isTaken

theorem longestFitting_ofPaths :
    LongestFitting (KeepsTo (around.read root) options.intake.maxTotalBytes)
      (eligible around options root paths)
      ((ofPaths around options root paths).entries.map Entry.path) := by
  have hbytes := (balanced_taken around options root paths).bytes_eq
  have hcut : (taken around options root paths).Cut (around.read root) options.intake paths :=
    cut_intake rfl paths
  constructor
  · obtain ⟨early, hpaths, htaken, -⟩ := hcut.early
    have heligible : eligible around options root paths =
        (taken around options root paths).entries.map Entry.path ++
          (taken around options root paths).report.atLimit.filter
            (isAcceptable (around.read root) options.intake) := by
      rw [htaken, ← List.filter_append, ← hpaths]
      rfl
    rw [heligible]
    exact List.prefix_append _ _
  · have hkeeps : (taken around options root paths).entries = [] ∨
        Within (taken around options root paths).bytes options.intake.maxTotalBytes :=
      intake_induction (P := fun _ intake => intake.entries = [] ∨
        Within intake.bytes options.intake.maxTotalBytes) (.inl rfl)
        (fun _ _ _ _ hkeeps hmove => keepsTo_move hkeeps hmove) paths
    rw [hbytes] at hkeeps
    exact hkeeps.imp_left List.map_eq_nil_iff.2
  · intro other hother hfits
    rcases hfits with rfl | hfits
    · exact List.nil_prefix
    · exact hcut.longest hbytes hother hfits

end

def Options.withMaxFiles (options : Options) (cap : Option Number) : Options :=
  { options with scan := { options.scan with maxFiles := cap } }

def Options.withMaxTotal (options : Options) (cap : Option Number) : Options :=
  { options with intake := { options.intake with maxTotalBytes := cap } }

theorem entries_ofPaths_isPrefix [Text.Collation] (around : Surroundings) (options : Options)
    (root : Location) (small large : Option Number) (hcaps : ∀ n, Within n small → Within n large)
    {paths paths' : List Text} (hpaths : paths <+: paths') :
    (ofPaths around (options.withMaxTotal small) root paths).entries <+:
      (ofPaths around (options.withMaxTotal large) root paths').entries := by
  have heligible : eligible around options root paths <+: eligible around options root paths' :=
    hpaths.filter _
  have hkept := (longestFitting_ofPaths around (options.withMaxTotal small) root paths).isPrefix_of_le
    (longestFitting_ofPaths around (options.withMaxTotal large) root paths') heligible
    fun files hfiles => hfiles.imp_right (hcaps _)
  rw [entries_ofPaths around (options.withMaxTotal small),
    entries_ofPaths around (options.withMaxTotal large)]
  exact hkept.map _

/-- Two exports that fail alike, or of which the first holds the first entries of the second. -/
def BeginsAs : Except Scan.Failure Exported → Except Scan.Failure Exported → Prop
  | .ok made, .ok other => made.entries <+: other.entries
  | .error failure, .error other => failure = other
  | _, _ => False

section

variable [Text.Collation] (around : Surroundings) (options : Options) (source : Text)
  {small : Number} {large : Option Number} (hle : ∀ bound ∈ large, small ≤ bound)

include hle

theorem beginsAs_withMaxFiles (hpos : small.isPositive = true) :
    BeginsAs (project around (options.withMaxFiles (some small)) source)
      (project around (options.withMaxFiles large) source) := by
  have hproject (cap : Option Number) : project around (options.withMaxFiles cap) source =
      ((around.sources (Path.resolve around.cwd source) (options.withMaxFiles none).scan).map
        (Scan.limited cap)).map (ofPaths around options (Path.resolve around.cwd source)) := by
    rw [project]
    exact congrArg _ (Scan.sources_maxFiles _ _ _ options.scan around.finder cap)
  rw [hproject, hproject]
  cases around.sources (Path.resolve around.cwd source) (options.withMaxFiles none).scan with
  | error failure => exact rfl
  | ok paths =>
      exact entries_ofPaths_isPrefix around options _ options.intake.maxTotalBytes
        options.intake.maxTotalBytes (fun _ h => h) (Scan.limited_isPrefix hpos hle paths)

theorem beginsAs_withMaxTotal :
    BeginsAs (project around (options.withMaxTotal (some small)) source)
      (project around (options.withMaxTotal large) source) := by
  have hcaps (n : Nat) (hn : Within n (some small)) : Within n large :=
    fun bound hbound => (hn small rfl).trans (hle bound hbound)
  have hproject (cap : Option Number) : project around (options.withMaxTotal cap) source =
      (around.sources (Path.resolve around.cwd source) options.scan).map
        (ofPaths around (options.withMaxTotal cap) (Path.resolve around.cwd source)) := rfl
  rw [hproject, hproject]
  cases around.sources (Path.resolve around.cwd source) options.scan with
  | error failure => exact rfl
  | ok paths => exact entries_ofPaths_isPrefix around options _ _ _ hcaps List.prefix_rfl

end

/-- A tighter cap, on the number of files or on their total, leaves the first entries of what a looser
one leaves. Those that a total leaves are the longest beginning of the eligible files with which it is
kept. -/
theorem exports_under_caps [Text.Collation] (around : Surroundings) (options : Options) (source : Text) :
    (∀ (small : Number) (large : Option Number), small.isPositive = true →
      (∀ bound ∈ large, small ≤ bound) →
        BeginsAs (project around (options.withMaxFiles (some small)) source)
          (project around (options.withMaxFiles large) source)) ∧
    (∀ (small : Number) (large : Option Number), (∀ bound ∈ large, small ≤ bound) →
      BeginsAs (project around (options.withMaxTotal (some small)) source)
        (project around (options.withMaxTotal large) source)) ∧
    ∀ (limit : Number) (paths : List Text), .finite 0 ≤ limit →
      around.sources (Path.resolve around.cwd source) options.scan = .ok paths →
        ∃ made, project around (options.withMaxTotal (some limit)) source = .ok made ∧
          LongestFitting
            (fun kept => .finite (totalSize (around.read (Path.resolve around.cwd source)) kept) ≤ limit)
            (eligible around options (Path.resolve around.cwd source) paths)
            (made.entries.map Entry.path) ∧
          made.entries = (made.entries.map Entry.path).map
            (entryAt around options (Path.resolve around.cwd source)) := by
  refine ⟨fun small large hpos hle => beginsAs_withMaxFiles around options source hle hpos,
    fun small large hle => beginsAs_withMaxTotal around options source hle, ?_⟩
  intro limit paths hlimit hpaths
  have hproject : project around (options.withMaxTotal (some limit)) source =
      .ok (ofPaths around (options.withMaxTotal (some limit)) (Path.resolve around.cwd source) paths) :=
    congrArg (Except.map _) hpaths
  have hlongest := longestFitting_ofPaths around (options.withMaxTotal (some limit))
    (Path.resolve around.cwd source) paths
  refine ⟨_, hproject, ⟨hlongest.isPrefix, ?_, ?_⟩, entries_ofPaths around _ _ paths⟩
  · rcases hlongest.fits with hnone | hfits
    · rw [hnone]
      exact hlimit
    · exact hfits limit rfl
  · intro other hother hfits
    apply hlongest.longest other hother (.inr _)
    rintro bound ⟨⟩
    exact hfits

def cappedFolder : Node := .folder [("a.md".toList, .file [0, 0, 0]), ("b.md".toList, .file [98]),
  ("c.md".toList, .file [99, 99])]

def cappedAround : Surroundings where
  tree := .folder [("w".toList, cappedFolder)]
  cwd := ["w".toList]
  now := []

def cappedOptions : Options := { scan := { extensions := [".md".toList] } }

theorem sources_capped : cappedAround.sources ["w".toList] cappedOptions.scan =
    .ok ["a.md".toList, "b.md".toList, "c.md".toList] := by
  have hfound : Scan.find cappedAround.tree cappedAround.cwd ["w".toList]
      (Scan.includePattern cappedOptions.scan.extensions) cappedOptions.scan.ignored =
        .ok ["a.md".toList, "b.md".toList, "c.md".toList] := by decide +kernel
  have hsorted : Text.sort ["a.md".toList, "b.md".toList, "c.md".toList] =
      ["a.md".toList, "b.md".toList, "c.md".toList] := Text.sort_of_pairwise (by decide +kernel)
  exact (Scan.sources_of_found hfound).trans (congrArg _ hsorted)

theorem exports_under_caps_of_three :
    BeginsAs (project cappedAround (cappedOptions.withMaxFiles (some (.finite 2))) ['.'])
        (project cappedAround (cappedOptions.withMaxFiles (some (.finite 3))) ['.']) ∧
      BeginsAs (project cappedAround (cappedOptions.withMaxTotal (some (.finite 2))) ['.'])
        (project cappedAround (cappedOptions.withMaxTotal none) ['.']) ∧
      ∃ made, project cappedAround (cappedOptions.withMaxTotal (some (.finite 2))) ['.'] = .ok made ∧
        LongestFitting
          (fun kept => .finite (totalSize (cappedAround.read ["w".toList]) kept) ≤ Number.finite 2)
          ["b.md".toList, "c.md".toList] (made.entries.map Entry.path) := by
  obtain ⟨hfiles, htotal, hlongest⟩ := exports_under_caps cappedAround cappedOptions ['.']
  refine ⟨hfiles _ _ (by decide) ?_, htotal _ none (by simp), ?_⟩
  · rintro bound ⟨⟩
    exact (by decide : (2 : Rat) ≤ 3)
  · obtain ⟨made, hmade, hkept, -⟩ := hlongest (.finite 2) _ (by decide : (0 : Rat) ≤ 2) sources_capped
    exact ⟨made, hmade, hkept⟩

end SourceBook.Export
