import SourceBook.Export.Project
import SourceBook.Proofs.Report.Rows

namespace SourceBook

def Finding.kinds : List Text :=
  [tooLarge, totalLimit, binary, unreadable, stripFailed, normalizeFailed, note]

def Finding.severities : List Text := [info, warning, "error".toList]

namespace Report

open Document Markdown Text

/-- The reports of the tool: one that has just started, and what findings, grammars of files, figures and
the end of the run make of a report. -/
inductive Recorded : Report → Prop
  | start {sourceRoot now : Text} (hroot : Flat sourceRoot) (hnow : now ≠ [])
      (hvisible : ∀ c ∈ now, isBlank c = false) :
      Recorded (start Export.toolName Export.toolVersion sourceRoot now)
  | record {report : Report} {finding : Finding} (h : Recorded report)
      (hkind : finding.kind ∈ Finding.kinds) (hseverity : finding.severity ∈ Finding.severities) :
      Recorded (report.record finding)
  | countGrammar {report : Report} (h : Recorded report) (grammar : Comment.Grammar) :
      Recorded (report.countGrammar grammar.name)
  | figures {report : Report} (h : Recorded report) (scanned exported bytesRead : Nat) :
      Recorded { report with scanned, exported, bytesRead }
  | finish {report : Report} {now : Text} (h : Recorded report) (hnow : now ≠ [])
      (hvisible : ∀ c ∈ now, isBlank c = false) : Recorded (report.finish now)

structure Proper (report : Report) : Prop where
  tool : report.tool = Export.toolName
  version : report.version = Export.toolVersion
  sourceRoot : Flat report.sourceRoot
  startedAt : report.startedAt ≠ [] ∧ ∀ c ∈ report.startedAt, isBlank c = false
  finishedAt : report.finishedAt ≠ [] ∧ ∀ c ∈ report.finishedAt, isBlank c = false
  grammars : ∀ count ∈ report.byGrammar, Flat count.1
  kinds : ∀ finding ∈ report.findings, Flat finding.kind
  severities : ∀ finding ∈ report.findings, Flat finding.severity

theorem forall_mem_bump {p : Text → Prop} {name : Text} {counts : Counts} (hname : p name)
    (h : ∀ count ∈ counts, p count.1) : ∀ count ∈ counts.bump name, p count.1 := by
  induction counts with
  | nil =>
      rw [Counts.bump]
      split
      · exact List.forall_mem_nil _
      · exact List.forall_mem_singleton.2 hname
  | cons count counts ih =>
      obtain ⟨other, n⟩ := count
      rw [List.forall_mem_cons] at h
      rw [Counts.bump]
      split
      · exact List.forall_mem_cons.2 h
      · exact List.forall_mem_cons.2 ⟨h.1, ih h.2⟩

theorem forall_mem_kindCounts {p : Text → Prop} {findings : List Finding}
    (h : ∀ finding ∈ findings, p finding.kind) : ∀ count ∈ kindCounts findings, p count.1 := by
  induction findings using List.reverseRecOn with
  | nil => exact List.forall_mem_nil _
  | append_singleton findings finding ih =>
      rw [List.forall_mem_append, List.forall_mem_singleton] at h
      rw [kindCounts, List.foldl_append]
      exact forall_mem_bump h.2 (ih h.1)

theorem Proper.record {report : Report} (h : report.Proper) {finding : Finding}
    (hkind : finding.kind ∈ Finding.kinds) (hseverity : finding.severity ∈ Finding.severities) :
    (report.record finding).Proper := by
  have hkinds : ∀ kind ∈ Finding.kinds, Flat kind := by decide
  have hseverities : ∀ severity ∈ Finding.severities, Flat severity := by decide
  refine { h with kinds := ?_, severities := ?_ }
  · rw [findings_record, List.forall_mem_append, List.forall_mem_singleton]
    exact ⟨h.kinds, hkinds _ hkind⟩
  · rw [findings_record, List.forall_mem_append, List.forall_mem_singleton]
    exact ⟨h.severities, hseverities _ hseverity⟩

theorem Proper.countGrammar {report : Report} (h : report.Proper) (grammar : Comment.Grammar) :
    (report.countGrammar grammar.name).Proper := by
  have hname : Flat grammar.name := by cases grammar <;> decide
  exact { h with grammars := forall_mem_bump hname h.grammars }

theorem Recorded.proper {report : Report} (h : report.Recorded) : report.Proper := by
  induction h with
  | start hroot hnow hvisible =>
      exact ⟨rfl, rfl, hroot, ⟨hnow, hvisible⟩, ⟨hnow, hvisible⟩, List.forall_mem_nil _,
        List.forall_mem_nil _, List.forall_mem_nil _⟩
  | record _ hkind hseverity ih => exact ih.record hkind hseverity
  | countGrammar _ grammar ih => exact ih.countGrammar grammar
  | figures _ _ _ _ ih =>
      exact ⟨ih.tool, ih.version, ih.sourceRoot, ih.startedAt, ih.finishedAt, ih.grammars, ih.kinds,
        ih.severities⟩
  | finish _ hnow hvisible ih => exact { ih with finishedAt := ⟨hnow, hvisible⟩ }

theorem Proper.isItem_summary {report : Report} (h : report.Proper) :
    ∀ item ∈ report.summary, IsItem item := by
  have hfigure {label : String} (hlabel : Flat label.toList) (n : Nat) := isItem_figure hlabel n
  have hdated {label : Text} (hflat : Flat label) (hopen : Opens label) {now : Text}
      (hnow : now ≠ [] ∧ ∀ c ∈ now, isBlank c = false) : IsItem (label ++ now) :=
    isItem_append hflat (flat_of_visible hnow.2) hopen
      (trimEnd_eq_self_iff.2 fun c hc => hnow.2 c (List.mem_of_getLast? hc)) hnow.1
  have htool : IsItem ("- Tool: **".toList ++ report.tool ++ "** ".toList ++ report.version) := by
    rw [h.tool, h.version]
    decide
  have hroot : IsItem ("- Source root: `".toList ++ report.sourceRoot ++ "`".toList) := by
    apply isItem_append
    · exact flat_append.2 ⟨by decide, h.sourceRoot⟩
    · decide
    · exact Opens.append (.inl rfl) report.sourceRoot
    · decide
    · decide
  unfold summary
  simp only [List.forall_mem_cons]
  exact ⟨htool, hroot, hdated (by decide) (.inl rfl) h.startedAt, hdated (by decide) (.inl rfl) h.finishedAt,
    hfigure (by decide) _, hfigure (by decide) _, hfigure (by decide) _, hfigure (by decide) _,
    List.forall_mem_nil _⟩

theorem Proper.front [Collation] {report : Report} (h : report.Proper) : ∀ s ∈ report.front, s.Itemized := by
  have hsummary := itemized_chapter (show 1 ≠ 0 by decide) (show IsPlain "Export report".toList by decide)
    (summary_ne_nil report) h.isItem_summary
  have hgrammars := itemized_countRows (show IsPlain "Files by grammar".toList by decide) h.grammars
  have hkinds := itemized_countRows (show IsPlain "Findings summary".toList by decide)
    (forall_mem_kindCounts h.kinds)
  unfold Report.front
  simp only [List.forall_mem_cons]
  exact ⟨hsummary, hgrammars, hkinds, List.forall_mem_nil _⟩

theorem mem_lines_of_mem_findingLines {content line : Text} (h : line ∈ findingLines content) :
    line ∈ lines content :=
  (List.dropWhile_suffix _).subset (List.mem_of_mem_drop (List.mem_of_mem_dropLast h))

section

variable {report : Report} (h : report.Proper)

include h

theorem Proper.flat_findingRow_iff {finding : Finding} (hf : finding ∈ report.findings) :
    Flat (findingRow finding) ↔ Flat finding.place ∧ Flat finding.message := by
  rw [flat_findingRow]
  constructor
  · rintro ⟨-, -, hcells⟩
    exact hcells
  · intro hcells
    exact ⟨h.severities finding hf, h.kinds finding hf, hcells⟩

variable [Collation]

theorem Proper.length_findingLines_iff :
    (findingLines report.toMarkdown).length = max 1 report.findings.length ↔
      ∀ finding ∈ report.findings, '\n' ∉ findingRow finding := by
  rw [findingLines_toMarkdown h.front, ← length_findingRows, length_flatMap_lines_eq_iff,
    forall_mem_findingRows (by decide)]

theorem Proper.not_mem_findingRow {c : Char} (hc : c ∉ report.toMarkdown) (hbreak : c ≠ '\n')
    (hnone : c ∉ "| (none) | (none) | | |".toList) :
    ∀ finding ∈ report.findings, c ∉ findingRow finding := by
  have hrows : ∀ row ∈ findingRows report.findings, c ∉ row := by
    intro row hrow hm
    obtain ⟨line, hl, hm⟩ := exists_mem_lines hm hbreak
    have hfinding : line ∈ findingLines report.toMarkdown := by
      rw [findingLines_toMarkdown h.front]
      exact List.mem_flatMap.2 ⟨row, hrow, hl⟩
    exact hc (mem_of_mem_lines (mem_lines_of_mem_findingLines hfinding) hm)
  exact (forall_mem_findingRows (p := (c ∉ ·)) hnone).1 hrows

theorem Proper.of_normalize (hnormal : normalize report.toMarkdown = report.toMarkdown) :
    ∀ finding ∈ report.findings, '\t' ∉ findingRow finding ∧ '\r' ∉ findingRow finding := by
  have hcanonical := (normalize_eq_self_iff _).1 hnormal
  have htab := h.not_mem_findingRow hcanonical.noTab (by decide) (by decide)
  have hreturn := h.not_mem_findingRow hcanonical.noReturn (by decide) (by decide)
  exact fun finding hf => ⟨htab finding hf, hreturn finding hf⟩

theorem Proper.normalize_toMarkdown (hflat : ∀ finding ∈ report.findings, Flat (findingRow finding)) :
    normalize report.toMarkdown = report.toMarkdown := by
  have houtline : ∀ s ∈ report.outline, s.Itemized := by
    rw [outline, List.forall_mem_append, List.forall_mem_singleton]
    exact ⟨h.front, itemized_findingsChapter hflat⟩
  rw [toMarkdown_eq]
  exact normalize_itemized houtline rfl

end

/-- The report is canonical and has a line for every finding exactly if the places and messages of the
findings fit on a line as they are. -/
theorem normalize_toMarkdown_iff [Collation] {report : Report} (h : report.Recorded) :
    (normalize report.toMarkdown = report.toMarkdown ∧
        (findingLines report.toMarkdown).length = max 1 report.findings.length) ↔
      ∀ finding ∈ report.findings, Flat finding.place ∧ Flat finding.message := by
  rw [h.proper.length_findingLines_iff]
  constructor
  · rintro ⟨hnormal, hbreaks⟩ finding hf
    obtain ⟨htab, hreturn⟩ := h.proper.of_normalize hnormal finding hf
    exact (h.proper.flat_findingRow_iff hf).1 ⟨htab, hreturn, hbreaks finding hf⟩
  · intro hcells
    have hflat : ∀ finding ∈ report.findings, Flat (findingRow finding) :=
      fun finding hf => (h.proper.flat_findingRow_iff hf).2 (hcells finding hf)
    exact ⟨h.proper.normalize_toMarkdown hflat, fun finding hf => (hflat finding hf).2.2⟩

def started : Report :=
  start Export.toolName Export.toolVersion "/r".toList "2024-01-01T00:00:00.000Z".toList

def refusal (name : String) : Finding where
  kind := Finding.unreadable
  severity := Finding.warning
  message := "EACCES: permission denied, open '/r/".toList ++ name.toList ++ "'".toList
  file := name.toList

def barred : Report := (started.record (refusal "a|b.ts")).countGrammar Comment.Grammar.curly.name

def broken : Report := (started.record (refusal "a\nb.ts")).record (refusal "c\td.ts")

theorem recorded_started : started.Recorded :=
  .start (by decide) (by decide) (visible_of_all (by decide))

theorem Recorded.refuse {report : Report} (h : report.Recorded) (name : String) :
    (report.record (refusal name)).Recorded :=
  h.record (show Finding.unreadable ∈ Finding.kinds by decide)
    (show Finding.warning ∈ Finding.severities by decide)

theorem normalize_toMarkdown_barred :
    barred.Recorded ∧ normalize barred.toMarkdown = barred.toMarkdown ∧
      (findingLines barred.toMarkdown).length = 1 := by
  have hrecorded : barred.Recorded := (recorded_started.refuse "a|b.ts").countGrammar .curly
  have hcells : ∀ finding ∈ barred.findings, Flat finding.place ∧ Flat finding.message := by decide
  exact ⟨hrecorded, (normalize_toMarkdown_iff hrecorded).2 hcells⟩

/-- Neither half holds of every report of the tool. -/
theorem normalize_toMarkdown_broken_ne :
    broken.Recorded ∧ normalize broken.toMarkdown ≠ broken.toMarkdown ∧
      (findingLines broken.toMarkdown).length ≠ max 1 broken.findings.length := by
  have hrecorded : broken.Recorded := (recorded_started.refuse "a\nb.ts").refuse "c\td.ts"
  have hfindings : broken.findings = [refusal "a\nb.ts", refusal "c\td.ts"] := rfl
  refine ⟨hrecorded, fun hnormal => ?_, fun hlength => ?_⟩
  · have hrow := hrecorded.proper.of_normalize hnormal (refusal "c\td.ts") (by simp [hfindings])
    exact hrow.1 (by decide)
  · have hrows := hrecorded.proper.length_findingLines_iff.1 hlength
    exact hrows (refusal "a\nb.ts") (by simp [hfindings]) (by decide)

end Report

end SourceBook
