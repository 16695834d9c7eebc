import SourceBook.Proofs.Markdown.BlankLines

namespace SourceBook.Markdown

def titleLine : Text := "# ".toList ++ defaultTitle

def Titled (lines : List Text) : Prop := ∃ first rest, lines = first :: rest ∧ isTitle first = true

theorem head?_of_isTitle {line : Text} (h : isTitle line = true) : line.head? = some '#' := by
  rw [isTitle.eq_def] at h
  split at h
  · rfl
  · exact absurd h (by decide)

theorem kindAt_of_isTitle {line : Text} (h : isTitle line = true) : kindAt none line = (.text, none) :=
  kindAt_of_head? (by rw [head?_of_isTitle h]; decide) none

theorem eq_nil_of_spaces {line : Text} (h : Text.trimEnd line = line)
    (hs : (line.all fun c => c == ' ' || c == '\t') = true) : line = [] := by
  refine Text.eq_nil_of_allBlank h ?_
  rw [Text.allBlank, List.all_eq_true]
  intro c hc
  rw [List.all_eq_true] at hs
  have hsc := hs c hc
  rw [Bool.or_eq_true, beq_iff_eq, beq_iff_eq] at hsc
  rcases hsc with rfl | rfl <;> rfl

/-- The lines that go at the top are empty, and the first one that stays is not, unless it is the
last. -/
theorem exists_dropTopBlank {lines : List Text} (hne : lines ≠ [])
    (h : ∀ line ∈ lines, Text.trimEnd line = line) :
    ∃ n first rest, lines = List.replicate n [] ++ first :: rest ∧
      dropTopBlank lines = first :: rest ∧ (first = [] → rest = []) := by
  induction lines with
  | nil => exact absurd rfl hne
  | cons line lines ih =>
      cases lines with
      | nil => exact ⟨0, line, [], rfl, rfl, fun _ => rfl⟩
      | cons next lines =>
          rw [dropTopBlank]
          split
          · next hs =>
              obtain rfl := eq_nil_of_spaces (h line (by simp)) hs
              obtain ⟨n, first, rest, hl, hd, hf⟩ := ih (by simp) fun l hl => h l (by simp [hl])
              exact ⟨n + 1, first, rest, by rw [hl, List.replicate_succ, List.cons_append], hd, hf⟩
          · next hs =>
              refine ⟨0, line, next :: lines, rfl, rfl, ?_⟩
              rintro rfl
              exact absurd rfl hs

theorem dropTopBlank_of_titled {lines : List Text} (h : Titled lines) : dropTopBlank lines = lines := by
  obtain ⟨first, rest, rfl, hf⟩ := h
  cases rest with
  | nil => rfl
  | cons next rest =>
      rw [dropTopBlank, if_neg]
      have hhead := head?_of_isTitle hf
      cases first with
      | nil => simp at hhead
      | cons c first =>
          obtain rfl : c = '#' := by simpa using hhead
          simp

theorem ensureTitle_of_titled {content : Text} (h : Titled (Text.lines content)) (title : Text) :
    ensureTitle title content = content := by
  rw [ensureTitle, dropTopBlank_of_titled h]
  obtain ⟨first, rest, hs, hf⟩ := h
  rw [if_pos, Text.unlines_lines]
  rw [hs, kinded_eq_kindedFrom, kindedFrom_cons, kindAt_of_isTitle hf]
  simp [hf]

theorem ensureTitle_eq_or (title content : Text) :
    ensureTitle title content = Text.unlines (dropTopBlank (Text.lines content)) ∨
      ensureTitle title content =
        "# ".toList ++ title ++ "\n\n".toList ++ Text.unlines (dropTopBlank (Text.lines content)) :=
  ite_eq_or_eq _ _ _

theorem Tidy.of_cons_nil {lines : List Text} (h : Tidy ([] :: lines)) : Tidy lines where
  clean := fun p hp => h.clean p (List.mem_cons_of_mem _ hp)
  apart := h.apart.tail
  noGap := fun above below hs =>
    (h.noGap ([] :: above) below (by rw [hs, List.cons_append])).imp_left fun hn => absurd hn (by simp)

theorem Tidy.of_replicate_append {lines : List Text} {n : Nat}
    (h : Tidy (List.replicate n [] ++ lines)) : Tidy lines := by
  induction n with
  | zero => simpa using h
  | succ n ih => exact ih h.of_cons_nil

theorem clean_titleLine : Clean (titleLine, .text) where
  noReturn := by decide
  noTab := by decide
  trimmed := by decide
  marked := fun _ => by
    have hr : titleLine = List.replicate 1 '#' ++ ' ' :: defaultTitle := rfl
    rw [hr, isCramped_replicate_append (by simp)]
    simp [Text.isBlank_space]

theorem Tidy.titleLine_cons {first : Text} {rest : List Text} (h : Tidy (first :: rest))
    (hf : first ≠ []) : Tidy (titleLine :: [] :: first :: rest) := by
  have hk : kinded (titleLine :: [] :: first :: rest) =
      (titleLine, .text) :: ([], .text) :: kinded (first :: rest) := by
    rw [kinded_eq_kindedFrom, kindedFrom_cons, kindAt_of_isTitle (by decide), kindedFrom_cons, kindAt_nil]
    rfl
  refine ⟨fun p hp => ?_, ?_, fun above below hs => ?_⟩
  · rw [hk, List.mem_cons, List.mem_cons] at hp
    rcases hp with rfl | rfl | hp
    · exact clean_titleLine
    · exact Clean.nil .text
    · exact h.clean p hp
  · rw [hk]
    exact (h.apart.cons fun p _ => apart_nil_left _ p).cons_cons (apart_nil_right _ _)
  · rcases above with _ | ⟨top, _ | ⟨next, above⟩⟩
    · exact .inl rfl
    · simp only [List.singleton_append, List.cons.injEq] at hs
      exact absurd hs.2.2.1 hf
    · simp only [List.cons_append, List.cons.injEq] at hs
      rcases h.noGap above below hs.2.2 with rfl | hb
      · rw [List.nil_append, List.cons.injEq] at hs
        exact absurd hs.2.2.1 hf
      · exact .inr hb

/-- The fifth pass keeps tidy lines tidy. They are blank then, or open with a title. -/
theorem tidy_ensureTitle {content : Text} (h : Tidy (Text.lines content)) :
    Tidy (Text.lines (ensureTitle defaultTitle content)) ∧
      (ensureTitle defaultTitle content = [] ∨
        Titled (Text.lines (ensureTitle defaultTitle content))) := by
  obtain ⟨n, first, rest, hs, hd, hf⟩ := exists_dropTopBlank (Text.lines_ne_nil content) h.trimmed
  have htidy : Tidy (first :: rest) := by
    rw [hs] at h
    exact h.of_replicate_append
  have hmem : ∀ line ∈ first :: rest, line ∈ Text.lines content := by
    intro line hl
    rw [hs]
    exact List.mem_append_right _ hl
  have hlines : Text.lines (Text.unlines (first :: rest)) = first :: rest :=
    Text.lines_unlines (fun line hl => Text.not_mem_of_mem_lines (hmem line hl)) (by simp)
  rw [ensureTitle, hd]
  by_cases hblank : (first :: rest).all Text.allBlank = true
  · have hfirst : first = [] := by
      rw [List.all_cons, Bool.and_eq_true] at hblank
      exact Text.eq_nil_of_allBlank (htidy.clean (first, _) (List.mem_cons_self)).trimmed hblank.1
    rw [if_pos (by rw [hblank, Bool.true_or]), hlines]
    rw [hf hfirst, hfirst] at htidy ⊢
    exact ⟨htidy, .inl rfl⟩
  · have hne : first ≠ [] := by
      rintro rfl
      rw [hf rfl] at hblank
      exact hblank rfl
    by_cases htitle : isTitle first = true
    · rw [if_pos (by simp [kinded_eq_kindedFrom, kindAt_of_isTitle htitle, htitle]), hlines]
      exact ⟨htidy, .inr ⟨first, rest, rfl, htitle⟩⟩
    · rw [if_neg (by simp [kinded_eq_kindedFrom, htitle] at hblank ⊢; exact hblank)]
      have hl : Text.lines ("# ".toList ++ defaultTitle ++ "\n\n".toList ++ Text.unlines (first :: rest)) =
          titleLine :: [] :: first :: rest := by
        change Text.lines (titleLine ++ '\n' :: '\n' :: Text.unlines (first :: rest)) = _
        rw [Text.lines_append_break, Text.lines_cons_break, hlines, Text.lines_of_not_mem (by decide)]
        rfl
      rw [hl]
      exact ⟨htidy.titleLine_cons hne, .inr ⟨titleLine, _, rfl, by decide⟩⟩

end SourceBook.Markdown
