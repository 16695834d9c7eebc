import SourceBook.Proofs.Markdown.LinePasses
import Mathlib.Data.List.Chain

namespace SourceBook.Markdown

/-- The third pass on lines below a place where `fence` is open and, if `clear`, nothing or an empty
line stands above. -/
def spaced (clear : Bool) (fence : Option Nat) (lines : List Text) : List Text :=
  spaceAround clear ((kindedFrom fence lines).map fun p => (p.1, isHeadingLine p))

def underHeading (lines : List Text) : List Text :=
  if (kindedFrom none lines).head?.any fun p => !p.1.isEmpty && !isHeadingLine p then
    [] :: spaced true none lines
  else spaced false none lines

@[simp] theorem spaced_nil (clear : Bool) (fence : Option Nat) : spaced clear fence [] = [] := rfl

theorem kindAt_of_isHeadingLine {fence : Option Nat} {line : Text}
    (h : isHeadingLine (line, (kindAt fence line).1) = true) :
    fence = none ∧ kindAt none line = (.text, none) := by
  have ht : (kindAt fence line).1 = .text := by
    rw [isHeadingLine, Bool.and_eq_true] at h
    simpa using h.1
  obtain ⟨hf, ho⟩ := kindAt_fst_eq_text_iff.1 ht
  exact ⟨hf, kindAt_of_opens? ho⟩

section

variable {clear : Bool} {fence : Option Nat} {line : Text} {lines : List Text}

theorem spaced_cons_of_not_heading (h : isHeadingLine (line, (kindAt fence line).1) = false) :
    spaced clear fence (line :: lines) = line :: spaced line.isEmpty (kindAt fence line).2 lines := by
  rw [spaced, kindedFrom_cons, List.map_cons, h, spaceAround, spaced]

theorem spaced_cons_of_heading (h : isHeadingLine (line, (kindAt fence line).1) = true) :
    spaced clear fence (line :: lines) =
      (if clear then [line] else [[], line]) ++ underHeading lines := by
  obtain ⟨rfl, hk⟩ := kindAt_of_isHeadingLine h
  rw [spaced, kindedFrom_cons, List.map_cons, h, hk, underHeading, spaced, spaced, spaceAround.eq_def]
  cases lines with
  | nil => rfl
  | cons next lines => rfl

theorem head?_underHeading (lines : List Text) :
    ∀ p ∈ (kindedFrom none (underHeading lines)).head?, p.1 = [] := by
  cases lines with
  | nil => simp [underHeading]
  | cons next lines =>
      rw [underHeading]
      split
      · simp
      · next hn =>
          simp only [kindedFrom_cons, List.head?_cons, Option.any_some, Bool.and_eq_true,
            Bool.not_eq_true', not_and, Bool.not_eq_false] at hn
          cases hh : isHeadingLine (next, (kindAt none next).1) with
          | false =>
              have he : next = [] := by
                by_contra hne
                rw [hn (by simpa using hne)] at hh
                exact absurd hh (by decide)
              rw [spaced_cons_of_not_heading hh, he]
              simp
          | true =>
              rw [spaced_cons_of_heading hh]
              simp

end

theorem mem_kindedFrom_spaced {p : Text × LineKind} {clear : Bool} {fence : Option Nat}
    {lines : List Text} (h : p ∈ kindedFrom fence (spaced clear fence lines)) :
    p.1 = [] ∨ p ∈ kindedFrom fence lines := by
  induction lines generalizing clear fence with
  | nil => simp at h
  | cons line lines ih =>
      cases hh : isHeadingLine (line, (kindAt fence line).1) with
      | false =>
          rw [spaced_cons_of_not_heading hh, kindedFrom_cons, List.mem_cons] at h
          rw [kindedFrom_cons, List.mem_cons]
          rcases h with h | h
          · exact .inr (.inl h)
          · exact (ih h).imp_right .inr
      | true =>
          obtain ⟨rfl, hk⟩ := kindAt_of_isHeadingLine hh
          have hbelow : p ∈ kindedFrom none (underHeading lines) → p.1 = [] ∨ p ∈ kindedFrom none lines := by
            intro hp
            rw [underHeading] at hp
            split at hp
            · rw [kindedFrom_cons, List.mem_cons] at hp
              rcases hp with rfl | hp
              · exact .inl rfl
              · exact ih hp
            · exact ih hp
          have hcons : p = (line, .text) ∨ p ∈ kindedFrom none (underHeading lines) ∨ p.1 = [] := by
            rw [spaced_cons_of_heading hh] at h
            cases clear with
            | true =>
                simp only [if_true, List.singleton_append, kindedFrom_cons, hk, List.mem_cons] at h
                exact h.imp_right .inl
            | false =>
                simp only [Bool.false_eq_true, if_false, List.cons_append, List.nil_append,
                  kindedFrom_cons, kindAt_nil, Option.isSome_none, hk, List.mem_cons] at h
                rcases h with rfl | h | h
                · exact .inr (.inr rfl)
                · exact .inl h
                · exact .inr (.inl h)
          rw [kindedFrom_cons, hk, List.mem_cons]
          rcases hcons with rfl | h | h
          · exact .inr (.inl rfl)
          · exact (hbelow h).imp_right .inr
          · exact .inl h

/-- What the third pass writes below a line: headings stand apart, and where no empty line stands
above the first line is none. -/
theorem isChain_spaced (clear : Bool) (fence : Option Nat) (lines : List Text) :
    (kindedFrom fence (spaced clear fence lines)).IsChain Apart ∧
      (clear = false → ∀ p ∈ (kindedFrom fence (spaced clear fence lines)).head?,
        isHeadingLine p = false) := by
  induction lines generalizing clear fence with
  | nil => exact ⟨.nil, by simp⟩
  | cons line lines ih =>
      cases hh : isHeadingLine (line, (kindAt fence line).1) with
      | false =>
          rw [spaced_cons_of_not_heading hh, kindedFrom_cons]
          obtain ⟨hc, hf⟩ := ih line.isEmpty (kindAt fence line).2
          refine ⟨hc.cons fun p hp => ⟨fun ha => ?_, fun hb => ?_⟩, ?_⟩
          · rw [hh] at ha
            exact absurd ha (by decide)
          · by_contra hne
            rw [hf (by simpa using hne) p hp] at hb
            exact absurd hb (by decide)
          · rintro - p hp
            rw [List.head?_cons, Option.mem_some_iff] at hp
            exact hp ▸ hh
      | true =>
          obtain ⟨rfl, hk⟩ := kindAt_of_isHeadingLine hh
          have hunder : (kindedFrom none (underHeading lines)).IsChain Apart := by
            rw [underHeading]
            split
            · exact (ih true none).1.cons fun p _ => apart_nil_left _ p
            · exact (ih false none).1
          have hheading : ((line, .text) :: kindedFrom none (underHeading lines)).IsChain Apart := by
            refine hunder.cons fun ⟨below, kind⟩ hp => ?_
            obtain rfl : below = [] := head?_underHeading lines _ hp
            exact apart_nil_right _ kind
          rw [spaced_cons_of_heading hh]
          cases clear with
          | true => simpa [hk] using hheading
          | false =>
              simp only [Bool.false_eq_true, if_false, List.cons_append, List.nil_append,
                kindedFrom_cons, kindAt_nil, Option.isSome_none, hk]
              exact ⟨hheading.cons fun p _ => apart_nil_left _ p, by simp [isHeadingLine_nil]⟩

theorem isChain_of_not_headings {l : List (Text × LineKind)}
    (h : ∀ p ∈ l, isHeadingLine p = false) : l.IsChain Apart := by
  induction l with
  | nil => exact .nil
  | cons p l ih =>
      rw [List.forall_mem_cons] at h
      refine (ih h.2).cons fun q hq => ?_
      exact Apart.of_not_headings h.1 (h.2 q (List.mem_of_mem_head? hq))

theorem spaced_eq_self {clear : Bool} {fence : Option Nat} {lines : List Text}
    (h : (kindedFrom fence lines).IsChain Apart)
    (hclear : clear = false → ∀ p ∈ (kindedFrom fence lines).head?, isHeadingLine p = false) :
    spaced clear fence lines = lines := by
  induction lines generalizing clear fence with
  | nil => rfl
  | cons line lines ih =>
      rw [kindedFrom_cons, List.isChain_cons] at h
      obtain ⟨hfirst, hrest⟩ := h
      cases hh : isHeadingLine (line, (kindAt fence line).1) with
      | false =>
          rw [spaced_cons_of_not_heading hh, ih hrest]
          intro he p hp
          by_contra hne
          have hl : line = [] := (hfirst p hp).2 (by simpa using hne)
          simp [hl] at he
      | true =>
          have hempty : ∀ p ∈ (kindedFrom (kindAt fence line).2 lines).head?, p.1 = [] :=
            fun p hp => (hfirst p hp).1 hh
          obtain ⟨rfl, hk⟩ := kindAt_of_isHeadingLine hh
          rw [hk] at hempty hrest
          have hclear' : clear = true := by
            by_contra hne
            have hnone := hclear (by simpa using hne) (line, (kindAt none line).1) rfl
            rw [hh] at hnone
            exact absurd hnone (by decide)
          have hunder : underHeading lines = spaced false none lines := by
            rw [underHeading, if_neg]
            rw [Option.any_eq_true]
            rintro ⟨p, hp, hn⟩
            simp [hempty p hp] at hn
          rw [spaced_cons_of_heading hh, hclear', if_pos rfl, hunder, List.singleton_append, ih hrest]
          rintro - ⟨below, kind⟩ hp
          obtain rfl : below = [] := hempty _ hp
          exact isHeadingLine_nil kind

theorem lines_spaceHeadings (content : Text) :
    Text.lines (spaceHeadings content) = spaced true none (Text.lines content) := by
  refine Text.lines_unlines (fun line hl => ?_) ?_
  · change line ∈ spaced true none (Text.lines content) at hl
    rw [← map_fst_kindedFrom none (spaced true none (Text.lines content)), List.mem_map] at hl
    obtain ⟨p, hp, rfl⟩ := hl
    rcases mem_kindedFrom_spaced hp with h | h
    · simp [h]
    · exact Text.not_mem_of_mem_lines (mem_of_mem_kinded h)
  · change spaced true none (Text.lines content) ≠ []
    obtain ⟨line, lines, hs⟩ := List.exists_cons_of_ne_nil (Text.lines_ne_nil content)
    rw [hs]
    cases hh : isHeadingLine (line, (kindAt none line).1) with
    | false => simp [spaced_cons_of_not_heading hh]
    | true => simp [spaced_cons_of_heading hh]

theorem spaceHeadings_eq_self {content : Text}
    (h : (kinded (Text.lines content)).IsChain Apart) : spaceHeadings content = content := by
  rw [← Text.unlines_lines (spaceHeadings content), lines_spaceHeadings,
    spaced_eq_self h (by simp), Text.unlines_lines]

theorem apart_spaceHeadings (content : Text) :
    (kinded (Text.lines (spaceHeadings content))).IsChain Apart := by
  rw [lines_spaceHeadings]
  exact (isChain_spaced true none _).1

theorem clean_spaceHeadings {content : Text} (h : ∀ p ∈ kinded (Text.lines content), Clean p) :
    ∀ p ∈ kinded (Text.lines (spaceHeadings content)), Clean p := by
  rw [lines_spaceHeadings]
  rintro ⟨line, kind⟩ hp
  rcases mem_kindedFrom_spaced hp with rfl | hp
  · exact Clean.nil kind
  · exact h _ hp

theorem flatMap_filter_spaced (p : Char → Bool) (clear : Bool) (fence : Option Nat)
    (lines : List Text) :
    (spaced clear fence lines).flatMap (List.filter p) = lines.flatMap (List.filter p) := by
  induction lines generalizing clear fence with
  | nil => rfl
  | cons line lines ih =>
      cases hh : isHeadingLine (line, (kindAt fence line).1) with
      | false => rw [spaced_cons_of_not_heading hh, List.flatMap_cons, List.flatMap_cons, ih]
      | true =>
          have hunder : (underHeading lines).flatMap (List.filter p) = lines.flatMap (List.filter p) := by
            rw [underHeading]
            split
            · exact ih true none
            · exact ih false none
          rw [spaced_cons_of_heading hh, List.flatMap_append, hunder, List.flatMap_cons]
          cases clear <;> simp

theorem filter_spaceHeadings {p : Char → Bool} (h : p '\n' = false) (content : Text) :
    (spaceHeadings content).filter p = content.filter p := by
  rw [← Text.unlines_lines (spaceHeadings content), lines_spaceHeadings, Text.filter_unlines h,
    flatMap_filter_spaced, ← Text.filter_unlines h, Text.unlines_lines]

end SourceBook.Markdown
