import SourceBook.Proofs.Markdown.Failing
import SourceBook.Proofs.Markdown.StaysCanonical
import SourceBook.Proofs.Scan.Selection
import SourceBook.Export.Project

namespace SourceBook.Export

open Files (Node)
open Markdown (distinguishHeadings distinguishPass normalize)

theorem finishingPasses_distinguish (around : Surroundings) (options : Options) :
    finishingPasses around { options with distinguish := true } =
      finishingPasses around { options with distinguish := false } ++ [around.distinguishPass] := by
  rw [finishingPasses, finishingPasses]
  simp

section

variable [Text.Collation] {around : Surroundings} (h : around.distinguishPass = distinguishPass)
  (options : Options)

include h

theorem markdown_ofPaths_distinguish (root : Location) (paths : List Text) :
    (ofPaths around { options with distinguish := true } root paths).markdown =
      distinguishHeadings (ofPaths around { options with distinguish := false } root paths).markdown := by
  rw [ofPaths, ofPaths]
  dsimp only
  rw [finishingPasses_distinguish, Markdown.content_runPasses, Markdown.content_runPasses,
    List.foldl_append, h]
  rfl

/-- An export with repeated headings told apart scans and holds what the one without does. -/
theorem exists_project_distinguish {source : Text} {plain : Exported}
    (hplain : project around { options with distinguish := false } source = .ok plain) :
    ∃ told, project around { options with distinguish := true } source = .ok told ∧
      told.entries = plain.entries ∧ told.markdown = distinguishHeadings plain.markdown := by
  rw [project] at hplain ⊢
  dsimp only at hplain ⊢
  cases hscan : around.sources (Path.resolve around.cwd source) options.scan with
  | error failure =>
      rw [hscan] at hplain
      cases hplain
  | ok paths =>
      rw [hscan] at hplain
      cases hplain
      exact ⟨_, rfl, rfl, markdown_ofPaths_distinguish h options _ paths⟩

end

/-- A canonical document stays canonical when its repeated headings are told apart. So it is in an export,
where nothing runs behind that: if the document is canonical without, it is canonical with it. -/
theorem normalize_distinguishHeadings [Text.Collation] {content : Text}
    (h : normalize content = content) :
    normalize (distinguishHeadings content) = distinguishHeadings content ∧
      ∀ (around : Surroundings) (options : Options) (source : Text) (plain : Exported),
        around.distinguishPass = distinguishPass →
        project around { options with distinguish := false } source = .ok plain →
        plain.markdown = content →
        ∃ told, project around { options with distinguish := true } source = .ok told ∧
          told.entries = plain.entries ∧ told.markdown = distinguishHeadings content ∧
          normalize told.markdown = told.markdown := by
  have hcanonical : normalize (distinguishHeadings content) = distinguishHeadings content :=
    Markdown.normalize_of_canonical
      (Markdown.canonical_distinguishHeadings ((Markdown.normalize_eq_self_iff content).1 h))
  refine ⟨hcanonical, fun around options source plain hpass hplain hcontent => ?_⟩
  obtain ⟨told, htold, hentries, hmarkdown⟩ := exists_project_distinguish hpass options hplain
  rw [hcontent] at hmarkdown
  exact ⟨told, htold, hentries, hmarkdown, by rw [hmarkdown, hcanonical]⟩

def twinFolder : Node :=
  .folder [(" a.md".toList, .file [120]), ("a.md".toList, .file [121])]

def twinAround : Surroundings where
  tree := .folder [("w".toList, twinFolder)]
  cwd := ["w".toList]
  now := []

def twinOptions : Options where
  scan := { extensions := [".md".toList] }
  parts := { tree := false, contents := false }

def twinDocument : Text :=
  "# Source Code Export: w\n\n## Files\n\n###  a.md\n\n```markdown\nx\n```\n\n".toList ++
    "### a.md\n\n```markdown\ny\n```\n".toList

theorem sources_twin : twinAround.sources ["w".toList] twinOptions.scan =
    .ok [" a.md".toList, "a.md".toList] := by
  have hfound : Scan.find twinAround.tree twinAround.cwd ["w".toList]
      (Scan.includePattern twinOptions.scan.extensions) twinOptions.scan.ignored =
        .ok [" a.md".toList, "a.md".toList] := by decide +kernel
  have hsorted : Text.sort [" a.md".toList, "a.md".toList] = [" a.md".toList, "a.md".toList] :=
    Text.sort_of_pairwise (by decide +kernel)
  exact (Scan.sources_of_found hfound).trans (congrArg _ hsorted)

theorem normalize_distinguishHeadings_twin :
    ∃ plain told,
      project twinAround { twinOptions with distinguish := false } ['.'] = .ok plain ∧
      project twinAround { twinOptions with distinguish := true } ['.'] = .ok told ∧
      normalize plain.markdown = plain.markdown ∧ told.markdown ≠ plain.markdown ∧
      normalize told.markdown = told.markdown := by
  have hplain : project twinAround { twinOptions with distinguish := false } ['.'] =
      .ok (ofPaths twinAround { twinOptions with distinguish := false } ["w".toList]
        [" a.md".toList, "a.md".toList]) := congrArg (Except.map _) sources_twin
  have hmarkdown : (ofPaths twinAround { twinOptions with distinguish := false } ["w".toList]
      [" a.md".toList, "a.md".toList]).markdown = twinDocument := by decide +kernel
  have hcanonical : normalize twinDocument = twinDocument := by decide +kernel
  obtain ⟨-, hexport⟩ := normalize_distinguishHeadings hcanonical
  obtain ⟨told, htold, -, hdistinct, hstays⟩ := hexport twinAround twinOptions ['.'] _ rfl hplain hmarkdown
  refine ⟨_, told, hplain, htold, by rw [hmarkdown, hcanonical], ?_, hstays⟩
  rw [hdistinct, hmarkdown]
  decide +kernel

end SourceBook.Export
