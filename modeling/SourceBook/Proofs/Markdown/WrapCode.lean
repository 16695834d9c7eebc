import SourceBook.Proofs.Markdown.Title
import SourceBook.Proofs.Markdown.Wrapping

namespace SourceBook.Markdown

def segments (p : Text × LineKind) : List Text :=
  if isOverlong p.1 p.2 then wrapLine wrapWidth p.1 else [p.1]

/-- No segment of a wrapped line ends in a blank. -/
def NeatlyWrapped (lines : List Text) : Prop :=
  ∀ line, (line, .code) ∈ kinded lines → wrapThreshold < Text.width line →
    ∀ segment ∈ wrapLine wrapWidth line, Text.trimEnd segment = segment

theorem isOverlong_iff {p : Text × LineKind} :
    isOverlong p.1 p.2 = true ↔ p.2 = .code ∧ wrapThreshold < Text.width p.1 := by
  simp [isOverlong]

theorem segments_of_not_code {p : Text × LineKind} (h : p.2 ≠ .code) : segments p = [p.1] := by
  rw [segments, if_neg (by simp [isOverlong, h])]

theorem segments_nil (kind : LineKind) : segments ([], kind) = [[]] := by
  rw [segments, if_neg (by simp [isOverlong, Text.width])]

theorem segments_ne_nil (p : Text × LineKind) : segments p ≠ [] := by
  rw [segments]
  split
  · exact wrapLine_ne_nil _ _
  · simp

theorem mem_of_mem_segments {p : Text × LineKind} {segment : Text} {c : Char}
    (h : segment ∈ segments p) (hc : c ∈ segment) : c = ' ' ∨ c ∈ p.1 := by
  rw [segments] at h
  split at h
  · exact mem_of_mem_wrapLine h hc
  · exact .inr (List.mem_singleton.1 h ▸ hc)

theorem words_ne_nil_of_trimmed {line : Text} (h : Text.trimEnd line = line) (hne : line ≠ []) :
    words line ≠ [] := by
  intro hw
  refine hne (Text.eq_nil_of_allBlank h ?_)
  rw [Text.allBlank, List.all_eq_true]
  intro c hc
  rw [eq_space_of_words_eq_nil hw c hc, Text.isBlank_space]

/-- No segment of a trimmed line ends in a space, and only an empty line has an empty one. -/
theorem getLast?_of_mem_segments {p : Text × LineKind} {segment : Text}
    (ht : Text.trimEnd p.1 = p.1) (hne : p.1 ≠ []) (h : segment ∈ segments p) :
    ∃ c, segment.getLast? = some c ∧ c ≠ ' ' := by
  rw [segments] at h
  split at h
  · exact getLast?_of_mem_wrapLine (words_ne_nil_of_trimmed ht hne) h
  · rw [List.mem_singleton.1 h]
    have hl := List.getLast?_eq_some_getLast hne
    refine ⟨_, hl, fun hs => ?_⟩
    have hb := Text.trimEnd_eq_self_iff.1 ht _ hl
    rw [hs, Text.isBlank_space] at hb
    exact absurd hb (by decide)

theorem isBareFence_of_closes {n : Nat} {line : Text} (h : closes n line = true)
    (ht : Text.trimEnd line = line) : isBareFence line = true := by
  obtain ⟨hlong, -, hblank⟩ := leadTicks_of_closes h
  have hs := List.takeWhile_append_dropWhile (p := (· == tick)) (l := line)
  have hrest : line.dropWhile (· == tick) = [] := by
    have hb := Text.trimEnd_append_of_blank hblank (line.takeWhile (· == tick))
    rw [hs, ht] at hb
    have hlen := (Text.trimEnd_isPrefix (line.takeWhile (· == tick))).length_le
    have hsum := congrArg List.length hs
    rw [List.length_append] at hsum
    rw [← hb] at hlen
    exact List.eq_nil_of_length_eq_zero (by omega)
  rw [hrest, List.append_nil] at hs
  rw [leadTicks, hs] at hlong
  rw [isBareFence, Bool.and_eq_true, decide_eq_true_eq, List.all_eq_true]
  exact ⟨hlong, fun c hc => List.mem_takeWhile_imp (p := (· == tick)) (hs.symm ▸ hc)⟩

theorem closes_of_mem_wrapLine {n width : Nat} {line segment : Text} (h : closes n line = false)
    (hline : Text.trimEnd line = line) (hm : segment ∈ wrapLine width line)
    (hs : Text.trimEnd segment = segment) : closes n segment = false := by
  by_contra hc
  rw [Bool.not_eq_false] at hc
  have hend : line.getLast? ≠ some ' ' := by
    intro hl
    have hb := Text.trimEnd_eq_self_iff.1 hline ' ' hl
    rw [Text.isBlank_space] at hb
    exact absurd hb (by decide)
  rw [eq_of_isBareFence_of_mem_wrapLine hend hm (isBareFence_of_closes hc hs), h] at hc
  exact absurd hc (by decide)

theorem kinded_segments {lines : List Text} (hclean : ∀ p ∈ kinded lines, Clean p)
    (hneat : NeatlyWrapped lines) :
    kinded ((kinded lines).flatMap segments) =
      (kinded lines).flatMap fun p => (segments p).map (·, p.2) := by
  refine kindedFrom_flatMap segments none lines fun ⟨line, kind⟩ hp f hk => ?_
  dsimp only at hk
  cases ho : isOverlong line kind with
  | false => simp [segments, ho, hk]
  | true =>
      obtain ⟨rfl, hw⟩ := (isOverlong_iff (p := (line, kind))).1 ho
      obtain ⟨n, rfl, hc⟩ := kindAt_fst_eq_code_iff.1 hk
      rw [segments, if_pos ho, kindAt_of_closes hc]
      exact kindedFrom_code fun s hs =>
        closes_of_mem_wrapLine hc (hclean _ hp).trimmed hs (hneat line hp hw s hs)

theorem lines_wrapCode (content : Text) :
    Text.lines (wrapCode content) = (kinded (Text.lines content)).flatMap segments := by
  refine Text.lines_unlines (fun line hl hc => ?_) ?_
  · obtain ⟨p, hp, hs⟩ := List.mem_flatMap.1 hl
    rcases mem_of_mem_segments hs hc with hc | hc
    · exact absurd hc (by decide)
    · exact Text.not_mem_of_mem_lines (mem_of_mem_kinded hp) hc
  · obtain ⟨line, lines, hs⟩ := List.exists_cons_of_ne_nil (Text.lines_ne_nil content)
    intro hnil
    rw [List.flatMap_eq_nil_iff] at hnil
    exact segments_ne_nil (line, (kindAt none line).1) (hnil _ (by rw [hs]; exact List.mem_cons_self))

theorem kinded_wrapCode {content : Text} (hclean : ∀ p ∈ kinded (Text.lines content), Clean p)
    (hneat : NeatlyWrapped (Text.lines content)) :
    kinded (Text.lines (wrapCode content)) =
      (kinded (Text.lines content)).flatMap fun p => (segments p).map (·, p.2) := by
  rw [lines_wrapCode, kinded_segments hclean hneat]

theorem isChain_flatMap {α β : Type} {R : β → β → Prop} {l : List α} {g : α → List β}
    (hne : ∀ a ∈ l, g a ≠ []) (hin : ∀ a ∈ l, (g a).IsChain R)
    (hbetween : l.IsChain fun a b => ∀ x ∈ (g a).getLast?, ∀ y ∈ (g b).head?, R x y) :
    (l.flatMap g).IsChain R := by
  rw [List.flatMap_def, List.isChain_flatten, List.isChain_map]
  · refine ⟨fun piece hp => ?_, hbetween⟩
    obtain ⟨a, ha, rfl⟩ := List.mem_map.1 hp
    exact hin a ha
  · intro hnil
    obtain ⟨a, ha, hg⟩ := List.mem_map.1 hnil
    exact hne a ha hg

theorem eq_of_isHeadingLine {p x : Text × LineKind} (hx : x ∈ (segments p).map (·, p.2))
    (hh : isHeadingLine x = true) : x = p := by
  obtain ⟨segment, hs, rfl⟩ := List.mem_map.1 hx
  have hk : p.2 ≠ .code := by
    intro hk
    rw [hk, isHeadingLine_code] at hh
    exact absurd hh (by decide)
  rw [segments_of_not_code hk, List.mem_singleton] at hs
  rw [hs]

theorem apart_segments {p q x y : Text × LineKind} (h : Apart p q)
    (hx : x ∈ (segments p).map (·, p.2)) (hy : y ∈ (segments q).map (·, q.2)) : Apart x y := by
  -- The neighbour of a heading is empty, so it is the only line that stands for itself.
  have hempty {r z : Text × LineKind} (hz : z ∈ (segments r).map (·, r.2)) (hr : r.1 = []) : z.1 = [] := by
    obtain ⟨line, kind⟩ := r
    obtain rfl : line = [] := hr
    rw [segments_nil] at hz
    simpa using congrArg Prod.fst (List.mem_singleton.1 hz)
  refine ⟨fun hh => hempty hy (h.1 ?_), fun hh => hempty hx (h.2 ?_)⟩
  · rwa [← eq_of_isHeadingLine hx hh]
  · rwa [← eq_of_isHeadingLine hy hh]

theorem isChain_segments {l : List (Text × LineKind)} (h : l.IsChain Apart) :
    (l.flatMap fun p => (segments p).map (·, p.2)).IsChain Apart := by
  refine isChain_flatMap (fun p _ => ?_) (fun p _ => ?_) (h.imp fun p q hpq x hx y hy => ?_)
  · simpa using segments_ne_nil p
  · by_cases hk : p.2 = .code
    · refine isChain_of_not_headings fun x hx => ?_
      obtain ⟨segment, -, rfl⟩ := List.mem_map.1 hx
      rw [hk, isHeadingLine_code]
    · rw [segments_of_not_code hk]
      exact .singleton _
  · exact apart_segments hpq (List.mem_of_getLast? hx) (List.mem_of_head? hy)

theorem exists_of_flatMap_segments {l : List (Text × LineKind)} {above below : List Text}
    (ht : ∀ p ∈ l, Text.trimEnd p.1 = p.1) (h : l.flatMap segments = above ++ [] :: below) :
    ∃ top kind rest, l = top ++ ([], kind) :: rest ∧ top.flatMap segments = above ∧
      rest.flatMap segments = below := by
  induction l generalizing above with
  | nil => simp at h
  | cons p l ih =>
      rw [List.flatMap_cons] at h
      have hrest {above' : List Text} (h : l.flatMap segments = above' ++ [] :: below) :
          ∃ top kind rest, p :: l = top ++ ([], kind) :: rest ∧
            top.flatMap segments = segments p ++ above' ∧ rest.flatMap segments = below := by
        obtain ⟨top, kind, rest, rfl, rfl, rfl⟩ := ih (fun q hq => ht q (by simp [hq])) h
        exact ⟨p :: top, kind, rest, rfl, List.flatMap_cons, rfl⟩
      rcases List.append_eq_append_iff.1 h with ⟨above', rfl, ha⟩ | ⟨pieces, hp, hb⟩
      · exact hrest ha
      · cases pieces with
        | nil =>
            rw [List.append_nil] at hp
            rw [List.nil_append] at hb
            have hbelow : l.flatMap segments = [] ++ [] :: below := by rw [← hb, List.nil_append]
            simpa [hp] using hrest hbelow
        | cons piece pieces =>
            rw [List.cons_append, List.cons.injEq] at hb
            obtain ⟨rfl, hb⟩ := hb
            obtain ⟨line, kind⟩ := p
            have hnil : line = [] := by
              by_contra hne
              obtain ⟨c, hc, -⟩ := getLast?_of_mem_segments (ht _ List.mem_cons_self) hne
                (hp ▸ List.mem_append_right _ List.mem_cons_self)
              simp at hc
            subst hnil
            rw [segments_nil, List.singleton_eq_append_iff] at hp
            obtain ⟨rfl, hp⟩ | ⟨-, hp⟩ := hp
            · rw [List.cons.injEq] at hp
              exact ⟨[], kind, l, rfl, rfl, by rw [hb, hp.2, List.nil_append]⟩
            · exact absurd hp (by simp)

/-- Wrapping leaves no empty line that was not there. -/
theorem noGap_wrapCode {content : Text} (h : Tidy (Text.lines content)) {above below : List Text}
    (hs : Text.lines (wrapCode content) = above ++ [] :: [] :: below) : above = [] ∨ below = [] := by
  have ht : ∀ p ∈ kinded (Text.lines content), Text.trimEnd p.1 = p.1 :=
    fun p hp => (h.clean p hp).trimmed
  rw [lines_wrapCode] at hs
  obtain ⟨top, kind, rest, hl, rfl, hrest⟩ := exists_of_flatMap_segments ht hs
  have hrest' : rest.flatMap segments = [] ++ [] :: below := hrest
  obtain ⟨top', kind', rest', rfl, htop, rfl⟩ :=
    exists_of_flatMap_segments (fun p hp => ht p (by rw [hl]; simp [hp])) hrest'
  have hnil : top' = [] := by
    rw [List.flatMap_eq_nil_iff] at htop
    exact List.eq_nil_iff_forall_not_mem.2 fun p hp => segments_ne_nil p (htop p hp)
  subst hnil
  have hfst := congrArg (List.map Prod.fst) hl
  rw [kinded_eq_kindedFrom, map_fst_kindedFrom] at hfst
  simp only [List.nil_append, List.map_append, List.map_cons] at hfst
  rcases h.noGap _ _ hfst with hn | hn
  · rw [List.map_eq_nil_iff] at hn
    exact .inl (by rw [hn, List.flatMap_nil])
  · rw [List.map_eq_nil_iff] at hn
    exact .inr (by rw [hn, List.flatMap_nil])

theorem tidy_wrapCode {content : Text} (h : Tidy (Text.lines content))
    (hneat : NeatlyWrapped (Text.lines content)) : Tidy (Text.lines (wrapCode content)) where
  clean := fun x hx => by
    rw [kinded_wrapCode h.clean hneat, List.mem_flatMap] at hx
    obtain ⟨⟨line, kind⟩, hp, hm⟩ := hx
    obtain ⟨segment, hs, rfl⟩ := List.mem_map.1 hm
    have hclean := h.clean _ hp
    refine ⟨fun hc => ?_, fun hc => ?_, ?_, fun hk => ?_⟩
    · exact (mem_of_mem_segments hs hc).elim (by decide) hclean.noReturn
    · exact (mem_of_mem_segments hs hc).elim (by decide) hclean.noTab
    · rw [segments] at hs
      split at hs
      · next ho =>
          obtain ⟨rfl, hw⟩ := isOverlong_iff.1 ho
          exact hneat line hp hw segment hs
      · rw [List.mem_singleton.1 hs]
        exact hclean.trimmed
    · obtain rfl : kind = .text := hk
      rw [segments_of_not_code (p := (line, .text)) nofun, List.mem_singleton] at hs
      rw [hs]
      exact hclean.marked rfl
  apart := by
    rw [kinded_wrapCode h.clean hneat]
    exact isChain_segments h.apart
  noGap := fun _ _ hs => noGap_wrapCode h hs

theorem filter_wrapCode {p : Char → Bool} (hspace : p ' ' = false) (hbreak : p '\n' = false)
    (content : Text) : (wrapCode content).filter p = content.filter p := by
  have hsegments (q : Text × LineKind) : (segments q).flatMap (List.filter p) = q.1.filter p := by
    rw [segments]
    split
    · exact flatMap_filter_wrapLine hspace wrapWidth q.1
    · exact List.flatMap_singleton ..
  rw [← Text.unlines_lines (wrapCode content), lines_wrapCode, Text.filter_unlines hbreak,
    List.flatMap_assoc]
  simp only [hsegments]
  rw [← List.flatMap_map, kinded_eq_kindedFrom, map_fst_kindedFrom, ← Text.filter_unlines hbreak,
    Text.unlines_lines]

theorem trimEnd_of_mem_getLast?_segments {p : Text × LineKind} {segment : Text}
    (ht : Text.trimEnd p.1 = p.1) (hne : p.1 ≠ []) (h : segment ∈ (segments p).getLast?) :
    Text.trimEnd segment = segment := by
  rw [segments] at h
  split at h
  · obtain ⟨c, hc, hs⟩ := getLast?_of_mem_wrapLine (words_ne_nil_of_trimmed ht hne)
      (List.mem_of_getLast? h)
    -- Without its spaces the line is what its segments are, so both end in the same character.
    have hline := flatMap_filter_wrapLine (p := (· != ' ')) rfl wrapWidth p.1
    obtain ⟨init, hi⟩ := List.getLast?_eq_some_iff.1 h
    obtain ⟨start, rfl⟩ := List.getLast?_eq_some_iff.1 hc
    obtain ⟨d, hd⟩ : ∃ d, p.1.getLast? = some d := ⟨_, List.getLast?_eq_some_getLast hne⟩
    have hb := Text.trimEnd_eq_self_iff.1 ht d hd
    obtain ⟨begin, hp⟩ := List.getLast?_eq_some_iff.1 hd
    have hds : d ≠ ' ' := by
      rintro rfl
      exact absurd hb (by decide)
    have hlast := congrArg List.getLast? hline
    rw [hi, hp] at hlast
    simp [hs, hds] at hlast
    rw [Text.trimEnd_concat, hlast, hb]
    rfl
  · rw [List.getLast?_singleton, Option.mem_some_iff] at h
    rw [← h, ht]

theorem exists_kept_wrapCode {content : Text}
    (ht : ∀ line ∈ Text.lines content, Text.trimEnd line = line) :
    ∃ kept n, Text.lines (wrapCode content) = kept ++ List.replicate n [] ∧
      ∀ line ∈ kept.getLast?, line ≠ [] ∧ Text.trimEnd line = line := by
  obtain ⟨upper, n, hs, hlast⟩ := Text.exists_eq_append_replicate (Text.lines content)
  have hempty (fence : Option Nat) :
      (kindedFrom fence (List.replicate n [])).flatMap segments = List.replicate n [] := by
    clear hs
    induction n with
    | zero => rfl
    | succ n ih =>
        rw [List.replicate_succ, kindedFrom_cons, List.flatMap_cons, segments_nil, kindAt_nil, ih]
        rfl
  refine ⟨(kinded upper).flatMap segments, n, ?_, ?_⟩
  · rw [lines_wrapCode, hs, kinded_eq_kindedFrom, kindedFrom_append, List.flatMap_append, hempty]
    rfl
  · cases upper using List.reverseRecOn with
    | nil => simp [kinded_eq_kindedFrom]
    | append_singleton upper last =>
        intro line hline
        have hne : last ≠ [] := hlast last (by simp)
        have htrim := ht last (by rw [hs]; simp)
        rw [kinded_eq_kindedFrom, kindedFrom_append, List.flatMap_append] at hline
        simp only [kindedFrom_cons, kindedFrom_nil, List.flatMap_cons, List.flatMap_nil,
          List.append_nil] at hline
        rw [List.getLast?_append_of_ne_nil _ (segments_ne_nil _)] at hline
        refine ⟨?_, trimEnd_of_mem_getLast?_segments htrim hne hline⟩
        obtain ⟨c, hc, -⟩ := getLast?_of_mem_segments htrim hne (List.mem_of_getLast? hline)
        rintro rfl
        simp at hc

end SourceBook.Markdown
