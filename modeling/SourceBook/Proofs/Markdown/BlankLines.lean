import SourceBook.Proofs.Markdown.Spacing

namespace SourceBook.Markdown

def squeezeCons (line : Text) : List Text → List Text
  | [] :: [] :: last :: rest => line :: [] :: last :: rest
  | below => line :: below

def squeeze (lines : List Text) : List Text := lines.foldr squeezeCons []

@[simp] theorem squeeze_nil : squeeze [] = [] := rfl

theorem squeeze_cons (line : Text) (lines : List Text) :
    squeeze (line :: lines) = squeezeCons line (squeeze lines) := rfl

theorem squeezeCons_cases (line : Text) (below : List Text) :
    (∃ last rest, below = [] :: [] :: last :: rest ∧
        squeezeCons line below = line :: [] :: last :: rest) ∨
      (∀ last rest, below ≠ [] :: [] :: last :: rest) ∧ squeezeCons line below = line :: below := by
  rw [squeezeCons.eq_def]
  split
  · exact .inl ⟨_, _, rfl, rfl⟩
  · next h => exact .inr ⟨fun last rest hb => h last rest hb, rfl⟩

theorem squeezeCons_ne_nil (line : Text) (below : List Text) : squeezeCons line below ≠ [] := by
  rcases squeezeCons_cases line below with ⟨last, rest, -, h⟩ | ⟨-, h⟩ <;> simp [h]

theorem head?_squeeze (lines : List Text) : (squeeze lines).head? = lines.head? := by
  cases lines with
  | nil => rfl
  | cons line lines =>
      rw [squeeze_cons]
      rcases squeezeCons_cases line (squeeze lines) with ⟨last, rest, -, h⟩ | ⟨-, h⟩ <;> simp [h]

def onceBlank : List Text → List Text
  | [] => []
  | line :: rest => if line = [] ∧ rest.head? = some [] then onceBlank rest else line :: onceBlank rest

theorem head?_onceBlank (lines : List Text) : (onceBlank lines).head? = lines.head? := by
  induction lines with
  | nil => rfl
  | cons line rest ih =>
      rw [onceBlank]
      split
      · next h => rw [ih, h.2, List.head?_cons, h.1]
      · rfl

theorem mem_of_mem_onceBlank {line : Text} {lines : List Text} (h : line ∈ onceBlank lines) :
    line ∈ lines := by
  induction lines with
  | nil => exact h
  | cons first rest ih =>
      rw [onceBlank] at h
      split at h
      · exact List.mem_cons_of_mem _ (ih h)
      · rw [List.mem_cons] at h ⊢
        exact h.imp_right ih

theorem squeezeCons_of_head? {below : List Text} (h : below.head? ≠ some []) (line : Text) :
    squeezeCons line below = line :: below := by
  rcases squeezeCons_cases line below with ⟨last, rest, rfl, -⟩ | ⟨-, hs⟩
  · exact absurd rfl h
  · exact hs

theorem squeezeCons_nil_cons {below : List Text} (h : below.head? ≠ some []) (line : Text) :
    squeezeCons line ([] :: below) = line :: [] :: below := by
  rcases squeezeCons_cases line ([] :: below) with ⟨last, rest, hb, -⟩ | ⟨-, hs⟩
  · rw [List.cons.injEq] at hb
    rw [hb.2] at h
    exact absurd rfl h
  · exact hs

theorem squeeze_cons_of_head? {lines : List Text} (h : lines.head? ≠ some []) (line : Text) :
    squeeze (line :: lines) = line :: squeeze lines := by
  rw [squeeze_cons, squeezeCons_of_head?]
  rwa [head?_squeeze]

/-- Between two lines that are not empty the pass reduces every run of empty lines to one. -/
theorem squeeze_cons_append_cons {closing : Text} (h : closing ≠ []) (line : Text)
    (inner rest : List Text) :
    squeeze (line :: (inner ++ closing :: rest)) =
      line :: (onceBlank inner ++ squeeze (closing :: rest)) := by
  have hclosing : (squeeze (closing :: rest)).head? ≠ some [] := by
    rw [head?_squeeze]
    simpa using h
  induction inner generalizing line with
  | nil => rw [List.nil_append, squeeze_cons, squeezeCons_of_head? hclosing, onceBlank, List.nil_append]
  | cons first inner ih =>
      rw [List.cons_append, squeeze_cons, ih, onceBlank]
      by_cases hf : first = []
      · subst hf
        have hhead := head?_onceBlank inner
        cases hi : onceBlank inner with
        | nil =>
            rw [hi] at hhead
            rw [List.nil_append, squeezeCons_nil_cons hclosing, if_neg (by simp [← hhead])]
            rfl
        | cons second others =>
            rw [hi, List.head?_cons] at hhead
            by_cases hs : second = []
            · subst hs
              obtain ⟨last, lower, hl⟩ :
                  ∃ last lower, others ++ squeeze (closing :: rest) = last :: lower := by
                apply List.exists_cons_of_ne_nil
                simp [squeeze_cons, squeezeCons_ne_nil]
              rw [if_pos ⟨rfl, hhead.symm⟩, List.cons_append, hl]
              rfl
            · rw [if_neg (by simp [← hhead, hs]), squeezeCons_nil_cons (by simpa using hs)]
              rfl
      · rw [if_neg (by simp [hf]), squeezeCons_of_head? (by simpa using hf)]
        rfl

theorem startsWith_breaks_iff (text : Text) :
    Text.startsWith ['\n', '\n'] text = true ↔
      ∃ last rest, Text.lines text = [] :: [] :: last :: rest := by
  rw [Text.startsWith, Option.isSome_iff_exists]
  constructor
  · rintro ⟨tail, h⟩
    obtain ⟨last, rest, hs⟩ := List.exists_cons_of_ne_nil (Text.lines_ne_nil tail)
    refine ⟨last, rest, ?_⟩
    rw [Text.after?_eq_some_iff.1 h, ← hs]
    simp [Text.lines_cons_break]
  · rintro ⟨last, rest, h⟩
    refine ⟨Text.unlines (last :: rest), Text.after?_eq_some_iff.2 ?_⟩
    rw [← Text.unlines_lines text, h, Text.unlines_cons (by simp), Text.unlines_cons (by simp)]
    rfl

theorem collapseBlankLines_cons (c : Char) (text : Text) :
    collapseBlankLines (c :: text) =
      if c = '\n' ∧ Text.startsWith ['\n', '\n'] (collapseBlankLines text) then
        collapseBlankLines text
      else c :: collapseBlankLines text := rfl

theorem lines_collapseBlankLines (content : Text) :
    Text.lines (collapseBlankLines content) = squeeze (Text.lines content) := by
  induction content with
  | nil => rfl
  | cons c text ih =>
      rw [collapseBlankLines_cons]
      by_cases hc : c = '\n'
      · subst hc
        rw [Text.lines_cons_break, squeeze_cons, ← ih]
        rcases squeezeCons_cases [] (Text.lines (collapseBlankLines text)) with
          ⟨last, rest, hb, hs⟩ | ⟨hb, hs⟩
        · rw [if_pos ⟨rfl, (startsWith_breaks_iff _).2 ⟨last, rest, hb⟩⟩, hs, hb]
        · rw [if_neg, hs, Text.lines_cons_break]
          rintro ⟨-, h⟩
          obtain ⟨last, rest, h⟩ := (startsWith_breaks_iff _).1 h
          exact hb last rest h
      · rw [if_neg (by simp [hc]), Text.lines_cons_of_ne hc, Text.lines_cons_of_ne hc, ih]
        obtain ⟨line, lines, hs⟩ := List.exists_cons_of_ne_nil (Text.lines_ne_nil text)
        rw [hs, List.modifyHead_cons, squeeze_cons, squeeze_cons, squeezeCons.eq_def, squeezeCons.eq_def]
        split <;> rfl

theorem collapseBlankLines_eq_self {content : Text} (h : ¬ ['\n', '\n', '\n'] <:+: content) :
    collapseBlankLines content = content := by
  induction content with
  | nil => rfl
  | cons c text ih =>
      have ht := ih fun hi => h (hi.trans (List.suffix_cons c text).isInfix)
      rw [collapseBlankLines_cons, ht, if_neg]
      rintro ⟨rfl, hs⟩
      obtain ⟨rest, hr⟩ := Option.isSome_iff_exists.1 hs
      rw [Text.after?_eq_some_iff.1 hr] at h
      exact h (List.prefix_append ['\n', '\n', '\n'] rest).isInfix

theorem mem_kindedFrom_squeeze {p : Text × LineKind} {fence : Option Nat} {lines : List Text}
    (h : p ∈ kindedFrom fence (squeeze lines)) : p ∈ kindedFrom fence lines := by
  induction lines generalizing fence with
  | nil => simp at h
  | cons line lines ih =>
      rw [squeeze_cons] at h
      rw [kindedFrom_cons, List.mem_cons]
      rcases squeezeCons_cases line (squeeze lines) with ⟨last, rest, hb, hs⟩ | ⟨-, hs⟩
      · rw [hs, kindedFrom_cons, List.mem_cons] at h
        refine h.imp_right fun hm => ih ?_
        rw [hb, kindedFrom_cons, kindAt_nil]
        exact List.mem_cons_of_mem _ hm
      · rw [hs, kindedFrom_cons, List.mem_cons] at h
        exact h.imp_right ih

theorem isChain_squeeze {fence : Option Nat} {lines : List Text}
    (h : (kindedFrom fence lines).IsChain Apart) :
    (kindedFrom fence (squeeze lines)).IsChain Apart := by
  induction lines generalizing fence with
  | nil => exact .nil
  | cons line lines ih =>
      rw [kindedFrom_cons, List.isChain_cons] at h
      have hrest := ih h.2
      rw [squeeze_cons]
      rcases squeezeCons_cases line (squeeze lines) with ⟨last, rest, hb, hs⟩ | ⟨-, hs⟩
      · rw [hb, kindedFrom_cons, kindAt_nil] at hrest
        rw [hs, kindedFrom_cons]
        refine hrest.tail.cons fun p hp => ?_
        simp only [List.tail_cons, kindedFrom_cons, List.head?_cons, Option.mem_some_iff] at hp
        exact hp ▸ apart_nil_right _ _
      · rw [hs, kindedFrom_cons]
        refine hrest.cons fun p hp => h.1 p ?_
        have hhead := head?_squeeze lines
        cases lines with
        | nil => simp at hp
        | cons first lines =>
            obtain ⟨below, hq⟩ : ∃ below, squeeze (first :: lines) = first :: below :=
              List.head?_eq_some_iff.1 hhead
            rw [hq] at hp
            simpa using hp

theorem noGap_squeeze {lines above below : List Text}
    (h : squeeze lines = above ++ [] :: [] :: below) : above = [] ∨ below = [] := by
  induction lines generalizing above with
  | nil => simp at h
  | cons line lines ih =>
      cases above with
      | nil => exact .inl rfl
      | cons top above =>
          rw [squeeze_cons] at h
          rcases squeezeCons_cases line (squeeze lines) with ⟨last, rest, hb, hs⟩ | ⟨hb, hs⟩
          · rw [hs, List.cons_append, List.cons.injEq] at h
            have hrest : [] :: above = [] ∨ below = [] := ih (by rw [hb, h.2, List.cons_append])
            exact .inr (hrest.resolve_left (by simp))
          · rw [hs, List.cons_append, List.cons.injEq] at h
            rcases ih h.2 with rfl | hbelow
            · cases below with
              | nil => exact .inr rfl
              | cons last rest => exact absurd h.2 (hb last rest)
            · exact .inr hbelow

/-- After the first four passes the lines are tidy. -/
theorem tidy_collapseBlankLines {content : Text}
    (hclean : ∀ p ∈ kinded (Text.lines content), Clean p)
    (hapart : (kinded (Text.lines content)).IsChain Apart) :
    Tidy (Text.lines (collapseBlankLines content)) := by
  rw [lines_collapseBlankLines]
  exact ⟨fun p hp => hclean p (mem_kindedFrom_squeeze hp), isChain_squeeze hapart,
    fun above below => noGap_squeeze⟩

theorem filter_collapseBlankLines {p : Char → Bool} (h : p '\n' = false) (content : Text) :
    (collapseBlankLines content).filter p = content.filter p := by
  induction content with
  | nil => rfl
  | cons c text ih =>
      rw [collapseBlankLines_cons]
      split
      · next hc => rw [ih, hc.1, List.filter_cons_of_neg (by simp [h])]
      · rw [List.filter_cons, List.filter_cons, ih]

end SourceBook.Markdown
