import SourceBook.Markdown.Normalize
import SourceBook.Proofs.Markdown.FenceState
import SourceBook.Proofs.Text.Trim

namespace SourceBook.Markdown

/-- Number signs that run into a visible character: heading marks without their space. -/
def IsCramped (line : Text) : Prop :=
  ∃ n c rest, line = List.replicate (n + 1) '#' ++ c :: rest ∧ c ≠ '#' ∧ Text.isBlank c = false

def isHeadingLine (p : Text × LineKind) : Bool := p.2 = .text && isHeading p.1

def Apart (a b : Text × LineKind) : Prop :=
  (isHeadingLine a → b.1 = []) ∧ (isHeadingLine b → a.1 = [])

structure Canonical (content : Text) : Prop where
  noReturn : '\r' ∉ content
  noTab : '\t' ∉ content
  trimmed : ∀ line ∈ Text.lines content, Text.trimEnd line = line
  marked : ∀ line, (line, .text) ∈ kinded (Text.lines content) → ¬ IsCramped line
  apart : (kinded (Text.lines content)).IsChain Apart
  noGap : ¬ ['\n', '\n', '\n'] <:+: content
  framed : content = ['\n'] ∨
    (∃ first rest, Text.lines content = first :: rest ∧ isTitle first = true) ∧
      ∃ body c, content = body ++ [c, '\n'] ∧ Text.isBlank c = false
  narrow : ∀ line, (line, .code) ∈ kinded (Text.lines content) → wrapThreshold < Text.width line →
    wrapLine wrapWidth line = [line]

structure Clean (p : Text × LineKind) : Prop where
  noReturn : '\r' ∉ p.1
  noTab : '\t' ∉ p.1
  trimmed : Text.trimEnd p.1 = p.1
  marked : p.2 = .text → ¬ IsCramped p.1

structure Tidy (lines : List Text) : Prop where
  clean : ∀ p ∈ kinded lines, Clean p
  apart : (kinded lines).IsChain Apart
  noGap : ∀ above below, lines = above ++ [] :: [] :: below → above = [] ∨ below = []

theorem not_isCramped_nil : ¬ IsCramped [] := by
  rintro ⟨n, c, rest, h, -⟩
  simp [List.replicate_succ] at h

theorem Clean.nil (kind : LineKind) : Clean ([], kind) :=
  ⟨by simp, by simp, Text.trimEnd_nil, fun _ => not_isCramped_nil⟩

theorem isHeadingLine_nil (kind : LineKind) : isHeadingLine ([], kind) = false := by
  cases kind <;> rfl

theorem isHeadingLine_code (line : Text) : isHeadingLine (line, .code) = false := rfl

theorem apart_nil_left (kind : LineKind) (p : Text × LineKind) : Apart ([], kind) p := by
  simp [Apart, isHeadingLine_nil]

theorem apart_nil_right (p : Text × LineKind) (kind : LineKind) : Apart p ([], kind) := by
  simp [Apart, isHeadingLine_nil]

theorem Apart.of_not_headings {a b : Text × LineKind} (ha : isHeadingLine a = false)
    (hb : isHeadingLine b = false) : Apart a b := by
  simp [Apart, ha, hb]

theorem exists_kind_of_mem_lines {lines : List Text} {line : Text} (h : line ∈ lines) :
    ∃ kind, (line, kind) ∈ kinded lines := by
  rw [← map_fst_kindedFrom none lines, List.mem_map] at h
  obtain ⟨⟨line', kind⟩, hp, rfl⟩ := h
  exact ⟨kind, hp⟩

theorem not_mem_of_kinded {content : Text} {c : Char} (hc : c ≠ '\n')
    (h : ∀ p ∈ kinded (Text.lines content), c ∉ p.1) : c ∉ content := by
  intro hm
  obtain ⟨line, hl, hline⟩ := Text.exists_mem_lines hm hc
  obtain ⟨kind, hp⟩ := exists_kind_of_mem_lines hl
  exact h _ hp hline

section

variable {content : Text} (h : Tidy (Text.lines content))

include h

theorem Tidy.noReturn : '\r' ∉ content :=
  not_mem_of_kinded (by decide) fun p hp => (h.clean p hp).noReturn

theorem Tidy.noTab : '\t' ∉ content :=
  not_mem_of_kinded (by decide) fun p hp => (h.clean p hp).noTab

theorem Tidy.trimmed : ∀ line ∈ Text.lines content, Text.trimEnd line = line := by
  intro line hl
  obtain ⟨kind, hp⟩ := exists_kind_of_mem_lines hl
  exact (h.clean _ hp).trimmed

theorem Tidy.not_infix : ¬ ['\n', '\n', '\n'] <:+: content := by
  intro hi
  obtain ⟨above, below, ha, hb, hs⟩ := (Text.three_breaks_infix_iff content).1 hi
  rcases h.noGap above below hs with h | h
  · exact ha h
  · exact hb h

theorem Tidy.canonical
    (hframed : content = ['\n'] ∨
      (∃ first rest, Text.lines content = first :: rest ∧ isTitle first = true) ∧
        ∃ body c, content = body ++ [c, '\n'] ∧ Text.isBlank c = false)
    (hnarrow : ∀ line, (line, .code) ∈ kinded (Text.lines content) → wrapThreshold < Text.width line →
      wrapLine wrapWidth line = [line]) : Canonical content :=
  ⟨h.noReturn, h.noTab, h.trimmed, fun _ hl => (h.clean _ hl).marked rfl, h.apart, h.not_infix, hframed,
    hnarrow⟩

end

theorem Canonical.tidy {content : Text} (h : Canonical content) : Tidy (Text.lines content) where
  clean := fun ⟨line, kind⟩ hp =>
    ⟨fun hc => h.noReturn (Text.mem_of_mem_lines (mem_of_mem_kinded hp) hc),
      fun hc => h.noTab (Text.mem_of_mem_lines (mem_of_mem_kinded hp) hc),
      h.trimmed line (mem_of_mem_kinded hp), fun hk => h.marked line (hk ▸ hp)⟩
  apart := h.apart
  noGap := fun above below hs => by
    by_contra hne
    rw [not_or] at hne
    exact h.noGap ((Text.three_breaks_infix_iff content).2 ⟨above, below, hne.1, hne.2, hs⟩)

end SourceBook.Markdown
