import SourceBook.Export.Project
import SourceBook.Proofs.Export.Intake
import SourceBook.Proofs.Markdown.Failing

namespace SourceBook.Export

open Document (Entry)

/-- The report of an export, held against the paths of the scan, the files and the document. -/
structure Accounted [Text.Collation] (around : Surroundings) (options : Options) (root : Location)
    (paths : List Text) (made : Exported) : Prop where
  scanned : made.report.scanned = paths.length
  exported : made.report.exported = made.entries.length
  settled : made.report.scanned = made.report.exported + made.report.skipped
  skipped : made.report.skipped = (made.report.places Finding.isSkip).length
  once : ∀ path, paths.count path = (made.entries.map Entry.path).count path +
    (made.report.places Finding.isSkip).count path
  inOrder : (made.entries.map Entry.path).Sublist paths
  grammars : (made.report.byGrammar.map Prod.snd).sum = made.report.exported
  bytesRead : made.report.bytesRead =
    (made.entries.map fun entry => (bytesAt (around.read root) entry.path).length).sum
  total : Within 0 options.intake.maxTotalBytes →
    Within made.report.bytesRead options.intake.maxTotalBytes
  admitted : ∀ entry ∈ made.entries,
    Admitted around.lexers (around.read root) options.intake entry
  /-- Only in front of the first file that would go beyond the total is a file exported or refused,
  each for itself; that file and all behind it are skipped for the total. -/
  early : ∃ early, paths = early ++ made.report.atLimit ∧
    made.entries.map Entry.path = early.filter (isAcceptable (around.read root) options.intake) ∧
    made.report.refused = early.filter fun path =>
      !isAcceptable (around.read root) options.intake path
  overflow : ∀ path ∈ made.report.atLimit.head?,
    isAcceptable (around.read root) options.intake path = true ∧
      ¬ Within (made.report.bytesRead + (bytesAt (around.read root) path).length)
        options.intake.maxTotalBytes
  stripFailures : made.report.places (Finding.isOf Finding.stripFailed) =
    (made.entries.filter fun entry => lexerFails around.lexers options.intake entry.path
      (bytesAt (around.read root) entry.path)).map Entry.path
  normalizeFailures : (made.report.places (Finding.isOf Finding.normalizeFailed)).length =
    (Markdown.failing (finishingPasses around options)
      (Document.assemble (rootName root) options.parts made.entries)).length
  warnings : made.report.warnings = made.report.skipped +
    (made.report.places (Finding.isOf Finding.stripFailed)).length +
    (made.report.places (Finding.isOf Finding.normalizeFailed)).length

def keptNote : Finding :=
  { kind := Finding.note, severity := Finding.info, message := "Comment stripping disabled".toList }

def passFinding (message : Text) : Finding :=
  { kind := Finding.normalizeFailed, severity := Finding.warning, message }

def lateFindings (options : Options) (failures : List Text) : List Finding :=
  (if options.intake.stripComments then [] else [keptNote]) ++ failures.map passFinding

section

variable (options : Options) (failures : List Text) {p : Finding → Bool} (hnote : p keptNote = false)

include hnote

theorem filter_lateFindings :
    (lateFindings options failures).filter p = (failures.map passFinding).filter p := by
  rw [lateFindings, List.filter_append]
  split_ifs
  · rfl
  · rw [List.filter_singleton, hnote]
    rfl

theorem filter_lateFindings_of_false (hpass : ∀ message, p (passFinding message) = false) :
    (lateFindings options failures).filter p = [] := by
  rw [filter_lateFindings options failures hnote, List.filter_map, List.map_eq_nil_iff,
    List.filter_eq_nil_iff]
  intro message _ h
  exact absurd ((hpass message).symm.trans h) (by decide)

theorem length_filter_lateFindings (hpass : ∀ message, p (passFinding message) = true) :
    ((lateFindings options failures).filter p).length = failures.length := by
  have hall : failures.filter (p ∘ passFinding) = failures :=
    List.filter_eq_self.2 fun message _ => hpass message
  rw [filter_lateFindings options failures hnote, List.filter_map, List.length_map, hall]

end

theorem foldl_recordPassWarning (report : Report) (failures : List Text) :
    failures.foldl recordPassWarning report =
      { report with findings := report.findings ++ failures.map passFinding } := by
  induction failures generalizing report with
  | nil => simp
  | cons message failures ih =>
      rw [List.foldl_cons, ih, List.map_cons, List.append_cons]
      rfl

section

variable [Text.Collation] (around : Surroundings) (options : Options) (root : Location)
  (paths : List Text)

def taken : Intake :=
  intake around.lexers (around.read root) options.intake
    { Report.start toolName toolVersion (Path.absolute root) around.now with scanned := paths.length } paths

def passFailures : List Text :=
  (Markdown.runPasses (finishingPasses around options)
    (Document.assemble (rootName root) options.parts (taken around options root paths).entries)).warnings

theorem report_ofPaths :
    (ofPaths around options root paths).report =
      { (taken around options root paths).report with
        exported := (taken around options root paths).entries.length
        bytesRead := (taken around options root paths).bytes
        findings := (taken around options root paths).report.findings ++
          lateFindings options (passFailures around options root paths)
        finishedAt := around.now } := by
  have hreport : (ofPaths around options root paths).report =
      ((passFailures around options root paths).foldl recordPassWarning
        (closeIntake options (taken around options root paths))).finish around.now := rfl
  rw [hreport, foldl_recordPassWarning, closeIntake, lateFindings]
  split_ifs
  · rfl
  · rw [← List.append_assoc]
    rfl

theorem places_ofPaths (p : Finding → Bool) :
    (ofPaths around options root paths).report.places p =
      (taken around options root paths).report.places p ++
        ((lateFindings options (passFailures around options root paths)).filter p).map Finding.place := by
  rw [report_ofPaths, Report.places, List.filter_append, List.map_append]
  rfl

/-- What is no matter of a pass, and no note, is found on the way through the paths. -/
theorem places_ofPaths_of_false {p : Finding → Bool} (hnote : p keptNote = false)
    (hpass : ∀ message, p (passFinding message) = false) :
    (ofPaths around options root paths).report.places p =
      (taken around options root paths).report.places p := by
  rw [places_ofPaths, filter_lateFindings_of_false _ _ hnote hpass]
  exact List.append_nil _

theorem accounted_ofPaths : Accounted around options root paths (ofPaths around options root paths) := by
  have h : (taken around options root paths).Balanced around.lexers (around.read root) options.intake
      paths := balanced_intake rfl rfl rfl paths
  have hcut : (taken around options root paths).Cut (around.read root) options.intake paths :=
    cut_intake rfl paths
  have hreport := report_ofPaths around options root paths
  have hscanned : (ofPaths around options root paths).report.scanned = paths.length := by
    rw [hreport]
    exact scanned_intake _ paths
  have hexported : (ofPaths around options root paths).report.exported =
      (taken around options root paths).entries.length := by rw [hreport]
  have hskipped : (ofPaths around options root paths).report.skipped =
      (taken around options root paths).report.skipped := by rw [hreport]
  have hgrammars : (ofPaths around options root paths).report.byGrammar =
      (taken around options root paths).report.byGrammar := by rw [hreport]
  have hbytes : (ofPaths around options root paths).report.bytesRead =
      (taken around options root paths).bytes := by rw [hreport]
  have hskips := places_ofPaths_of_false around options root paths (p := Finding.isSkip) rfl fun _ => rfl
  have hlimits : (ofPaths around options root paths).report.atLimit =
      (taken around options root paths).report.atLimit :=
    places_ofPaths_of_false around options root paths rfl fun _ => rfl
  have hrefused : (ofPaths around options root paths).report.refused =
      (taken around options root paths).report.refused :=
    places_ofPaths_of_false around options root paths rfl fun _ => rfl
  have hstrips := places_ofPaths_of_false around options root paths
    (p := Finding.isOf Finding.stripFailed) rfl fun _ => rfl
  have hpasses : ((ofPaths around options root paths).report.places
      (Finding.isOf Finding.normalizeFailed)).length = (passFailures around options root paths).length := by
    rw [places_ofPaths, h.normalizeFailures, List.nil_append, List.length_map]
    exact length_filter_lateFindings options _ rfl fun _ => rfl
  have hperm : paths.Perm ((taken around options root paths).entries.map Entry.path ++
      (taken around options root paths).report.places Finding.isSkip) := by
    rw [List.perm_iff_count]
    intro path
    rw [List.count_append, h.once path]
  obtain ⟨early, hpaths, htaken, hreasons⟩ := hcut.early
  refine
    { scanned := hscanned
      exported := hexported
      settled := ?settled
      skipped := by rw [hskips, hskipped, h.skipped]
      once := by rw [hskips]; exact h.once
      inOrder := hcut.inOrder
      grammars := by rw [hgrammars, hexported, h.grammars]
      bytesRead := hbytes.trans h.bytes
      total := by rw [hbytes]; exact h.total
      admitted := h.admitted
      early := ⟨early, by rw [hlimits]; exact hpaths, htaken, hrefused.trans hreasons⟩
      overflow := by rw [hlimits, hbytes]; exact hcut.overflow
      stripFailures := hstrips.trans h.stripFailures
      normalizeFailures := hpasses.trans (Markdown.length_warnings_runPasses _ _)
      warnings := ?warnings }
  case settled =>
    rw [hscanned, hexported, hskipped, h.skipped, hperm.length_eq, List.length_append, List.length_map]
  case warnings =>
    have hwarnings : (ofPaths around options root paths).report.warnings =
        (taken around options root paths).report.warnings +
          (passFailures around options root paths).length := by
      have hlate := length_filter_lateFindings options (passFailures around options root paths)
        (p := Finding.isWarning) rfl fun _ => rfl
      rw [hreport, Report.warnings, List.countP_append, ← hlate, ← List.countP_eq_length_filter]
      rfl
    rw [hwarnings, h.warnings, hskipped, hstrips, hpasses]

end

end SourceBook.Export
