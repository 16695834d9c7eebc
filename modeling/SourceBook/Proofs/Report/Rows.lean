import SourceBook.Proofs.Document.Itemized
import SourceBook.Proofs.Number.Spelling
import SourceBook.Proofs.Text.Sorting
import SourceBook.Report.Markdown

namespace SourceBook.Report

open Document Text

theorem mem_cell {c : Char} {text : Text} (hbar : c ≠ '|') (hslash : c ≠ '\\') :
    c ∈ cell text ↔ c ∈ text := by
  rw [cell, replaceChar, List.mem_flatMap]
  constructor
  · rintro ⟨d, hd, hc⟩
    split at hc
    · simp [hbar, hslash] at hc
    · rwa [List.mem_singleton.1 hc]
  · intro hc
    exact ⟨c, hc, by simp [hbar]⟩

theorem flat_cell {text : Text} : Flat (cell text) ↔ Flat text := by
  simp only [Flat, mem_cell (show '\t' ≠ '|' by decide) (by decide),
    mem_cell (show '\r' ≠ '|' by decide) (by decide), mem_cell (show '\n' ≠ '|' by decide) (by decide)]

theorem flat_ofNat (n : Nat) : Flat (Number.ofNat n).text :=
  flat_of_visible Number.visible_of_mem_text

theorem isItem_row {line : Text} (hline : Flat line) (hopen : Opens line) :
    IsItem (line ++ " |".toList) :=
  isItem_append hline (by decide) hopen (by decide) (by decide)

theorem isItem_countRow {name : Text} (h : Flat name) (n : Nat) : IsItem (countRow name n) := by
  apply isItem_row
  · simp only [flat_append]
    exact ⟨⟨⟨by decide, h⟩, by decide⟩, flat_ofNat n⟩
  · repeat apply Opens.append
    exact .inr rfl

theorem isItem_figure {label : String} (h : Flat label.toList) (n : Nat) : IsItem (figure label n) := by
  apply isItem_append
  · simp only [flat_append]
    exact ⟨⟨⟨by decide, h⟩, by decide⟩, flat_ofNat n⟩
  · decide
  · repeat apply Opens.append
    exact .inl rfl
  · decide
  · decide

theorem flat_findingRow {finding : Finding} :
    Flat (findingRow finding) ↔
      Flat finding.severity ∧ Flat finding.kind ∧ Flat finding.place ∧ Flat finding.message := by
  have hbars : Flat "| ".toList ∧ Flat " | ".toList ∧ Flat " |".toList := by decide
  unfold findingRow
  simp only [flat_append, flat_cell, hbars, true_and, and_true, and_assoc]

theorem isItem_findingRow {finding : Finding} (h : Flat (findingRow finding)) :
    IsItem (findingRow finding) := by
  apply isItem_row (flat_append.1 h).1
  repeat apply Opens.append
  exact .inr rfl

def summary (report : Report) : List Text :=
  ["- Tool: **".toList ++ report.tool ++ "** ".toList ++ report.version,
    "- Source root: `".toList ++ report.sourceRoot ++ "`".toList,
    "- Started: ".toList ++ report.startedAt,
    "- Finished: ".toList ++ report.finishedAt,
    figure "Files scanned" report.scanned,
    figure "Files exported" report.exported,
    figure "Files skipped" report.skipped,
    figure "Bytes read" report.bytesRead]

def findingHead : List Text :=
  ["| Severity | Kind | Location | Message |".toList, "|---|---|---|---|".toList]

def chapter (level : Nat) (title : String) (items : List Text) : Section :=
  ⟨level, title.toList, .prose (unlines items)⟩

def chapterLines (level : Nat) (title : String) (items : List Text) : List Text :=
  (chapter level title items).heading :: [] :: items ++ [[]]

theorem flatMap_lines_chapterLines {items : List Text} (h : items ≠ []) (level : Nat) (title : String) :
    (chapterLines level title items).flatMap lines = (chapter level title items).pieces.flatMap lines := by
  simp [chapterLines, chapter, Section.pieces, Below.pieces, lines_unlines_flatMap h]

theorem summary_ne_nil (report : Report) : report.summary ≠ [] := List.cons_ne_nil _ _

theorem itemized_chapter {level : Nat} {title : String} {items : List Text} (hlevel : level ≠ 0)
    (htitle : IsPlain title.toList) (hne : items ≠ []) (h : ∀ item ∈ items, IsItem item) :
    (chapter level title items).Itemized :=
  ⟨hlevel, htitle, items, hne, rfl, h⟩

def findingLines (content : Text) : List Text :=
  (((lines content).dropWhile (· ≠ "## All findings".toList)).drop 4).dropLast

theorem dropWhile_ne_append {α : Type} [DecidableEq α] {upper : List α} {a : α} (h : a ∉ upper)
    (rest : List α) : (upper ++ a :: rest).dropWhile (· ≠ a) = a :: rest := by
  have hupper : ∀ b ∈ upper, decide (b ≠ a) = true :=
    fun b hb => decide_eq_true fun he => h (he ▸ hb)
  rw [List.dropWhile_append_of_pos hupper, List.dropWhile_cons_of_neg (by simp)]

variable [Collation]

def countRows (counts : Counts) : List Text :=
  ["| Kind | Count |".toList, "|---|---:|".toList] ++
    (Text.sortBy Prod.fst counts).map (fun (name, n) => countRow name n) ++
    if counts.isEmpty then ["| (none) | 0 |".toList] else []

def findingRows (findings : List Finding) : List Text :=
  (sortFindings findings).map findingRow ++
    if findings.isEmpty then ["| (none) | (none) | | |".toList] else []

def front (report : Report) : List Section :=
  [chapter 1 "Export report" report.summary,
    chapter 2 "Files by grammar" (countRows report.byGrammar),
    chapter 2 "Findings summary" (countRows (kindCounts report.findings))]

def findingsChapter (report : Report) : Section :=
  chapter 2 "All findings" (findingHead ++ findingRows report.findings)

def outline (report : Report) : List Section := report.front ++ [report.findingsChapter]

theorem markdownLines_eq (report : Report) :
    report.markdownLines = chapterLines 1 "Export report" report.summary ++
      chapterLines 2 "Files by grammar" (countRows report.byGrammar) ++
      chapterLines 2 "Findings summary" (countRows (kindCounts report.findings)) ++
      chapterLines 2 "All findings" (findingHead ++ findingRows report.findings) := by
  have hfindings : findingTable report.findings =
      findingHead ++ findingRows report.findings ++ [[]] := by
    simp only [findingTable, findingHead, findingRows, List.append_assoc]
  have hcounts (counts : Counts) : countTable counts = countRows counts ++ [[]] := rfl
  have htitle (items : List Text) :
      (chapter 1 "Export report" items).heading = "# Export report".toList := rfl
  have hgrammars (items : List Text) :
      (chapter 2 "Files by grammar" items).heading = "## Files by grammar".toList := rfl
  have hkinds (items : List Text) :
      (chapter 2 "Findings summary" items).heading = "## Findings summary".toList := rfl
  have hall (items : List Text) :
      (chapter 2 "All findings" items).heading = "## All findings".toList := rfl
  simp only [markdownLines, hfindings, hcounts, chapterLines, htitle, hgrammars, hkinds, hall, summary,
    List.append_assoc, List.cons_append, List.nil_append]

theorem countRows_ne_nil (counts : Counts) : countRows counts ≠ [] := List.cons_ne_nil _ _

theorem findingItems_ne_nil (findings : List Finding) : findingHead ++ findingRows findings ≠ [] :=
  List.cons_ne_nil _ _

theorem lines_toMarkdown (report : Report) :
    lines report.toMarkdown = (report.outline.flatMap Section.pieces).flatMap lines := by
  have hchapter {items : List Text} (h : items ≠ []) (level : Nat) (title : String) :=
    flatMap_lines_chapterLines h level title
  have hne : report.markdownLines ≠ [] := List.cons_ne_nil _ _
  rw [toMarkdown, lines_unlines_flatMap hne, markdownLines_eq, List.flatMap_append, List.flatMap_append,
    List.flatMap_append, hchapter (summary_ne_nil _), hchapter (countRows_ne_nil _),
    hchapter (countRows_ne_nil _), hchapter (findingItems_ne_nil _)]
  unfold outline front findingsChapter
  simp only [List.cons_append, List.nil_append, List.flatMap_cons, List.flatMap_append,
    List.flatMap_nil, List.append_nil, List.append_assoc]

theorem toMarkdown_eq (report : Report) :
    report.toMarkdown = unlines (report.outline.flatMap Section.pieces) := by
  have hne : report.outline.flatMap Section.pieces ≠ [] := by
    simp [outline, front, Section.pieces]
  rw [← unlines_flatMap_lines hne, ← lines_toMarkdown, unlines_lines]

theorem itemized_countRows {title : String} {counts : Counts} (htitle : IsPlain title.toList)
    (h : ∀ count ∈ counts, Flat count.1) : (chapter 2 title (countRows counts)).Itemized := by
  have hhead : ∀ item ∈ ["| Kind | Count |".toList, "|---|---:|".toList], IsItem item := by decide
  have hnone : ∀ item ∈ ["| (none) | 0 |".toList], IsItem item := by decide
  apply itemized_chapter (by decide) htitle (countRows_ne_nil counts)
  rw [countRows, List.forall_mem_append, List.forall_mem_append, List.forall_mem_map]
  refine ⟨⟨hhead, fun count hc => ?_⟩, ?_⟩
  · exact isItem_countRow (h count ((mem_sortBy Prod.fst counts).1 hc)) count.2
  · split
    · exact hnone
    · exact List.forall_mem_nil _

theorem sortFindings_perm (findings : List Finding) : (sortFindings findings).Perm findings :=
  (sortBy_perm _ _).trans ((sortBy_perm _ _).trans (sortBy_perm _ _))

theorem length_findingRows (findings : List Finding) :
    (findingRows findings).length = max 1 findings.length := by
  rw [findingRows, List.length_append, List.length_map, (sortFindings_perm findings).length_eq]
  cases findings with
  | nil => rfl
  | cons finding findings =>
      simp only [List.isEmpty_cons, Bool.false_eq_true, if_false, List.length_cons, List.length_nil]
      omega

theorem forall_mem_findingRows {p : Text → Prop} (hnone : p "| (none) | (none) | | |".toList)
    {findings : List Finding} :
    (∀ row ∈ findingRows findings, p row) ↔ ∀ finding ∈ findings, p (findingRow finding) := by
  rw [findingRows, List.forall_mem_append, List.forall_mem_map]
  simp only [(sortFindings_perm findings).mem_iff]
  refine and_iff_left ?_
  split
  · exact List.forall_mem_singleton.2 hnone
  · exact List.forall_mem_nil _

theorem itemized_findingsChapter {report : Report}
    (h : ∀ finding ∈ report.findings, Flat (findingRow finding)) : report.findingsChapter.Itemized := by
  have hhead : ∀ item ∈ findingHead, IsItem item := by decide +kernel
  apply itemized_chapter (by decide) (by decide) (findingItems_ne_nil report.findings)
  rw [List.forall_mem_append, forall_mem_findingRows (by decide)]
  exact ⟨hhead, fun finding hf => isItem_findingRow (h finding hf)⟩

theorem headings_front (report : Report) : report.front.map Section.heading =
    ["# Export report".toList, "## Files by grammar".toList, "## Findings summary".toList] := rfl

theorem flatMap_pieces_findingsChapter (report : Report) :
    report.findingsChapter.pieces.flatMap lines = "## All findings".toList :: [] ::
      (findingHead ++ (findingRows report.findings).flatMap lines ++ [[]]) := by
  have hheading : lines "## All findings".toList = ["## All findings".toList] := by decide
  have hhead : findingHead.flatMap lines = findingHead := by decide +kernel
  have hchapter := flatMap_lines_chapterLines (findingItems_ne_nil report.findings) 2 "All findings"
  refine hchapter.symm.trans ?_
  unfold chapterLines
  rw [List.cons_append, List.cons_append, List.flatMap_cons, List.flatMap_cons, lines_nil,
    List.flatMap_append, List.flatMap_append, hhead]
  exact congrArg (· ++ _) hheading

theorem findingLines_toMarkdown {report : Report} (h : ∀ s ∈ report.front, s.Itemized) :
    findingLines report.toMarkdown = (findingRows report.findings).flatMap lines := by
  have hheadings : "## All findings".toList ∉ report.front.map Section.heading := by
    rw [headings_front]
    decide
  have hupper : "## All findings".toList ∉ (report.front.flatMap Section.pieces).flatMap lines := by
    rw [flatMap_pieces_itemized h]
    intro hl
    obtain ⟨s, hs, hl⟩ := List.mem_flatMap.1 hl
    rcases (h s hs).mem_lines hl with hheading | hhead
    · exact hheadings (List.mem_map.2 ⟨s, hs, hheading.symm⟩)
    · exact hhead rfl
  have hlines : lines report.toMarkdown = (report.front.flatMap Section.pieces).flatMap lines ++
      report.findingsChapter.pieces.flatMap lines := by
    rw [lines_toMarkdown, outline, List.flatMap_append, List.flatMap_append, List.flatMap_singleton]
  rw [findingLines, hlines, flatMap_pieces_findingsChapter, dropWhile_ne_append hupper]
  exact List.dropLast_concat

end SourceBook.Report
