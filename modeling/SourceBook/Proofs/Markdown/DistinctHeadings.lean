import SourceBook.Proofs.Markdown.Repeats
import Mathlib.Data.List.Nodup

namespace SourceBook.Markdown

/-- No heading has the text that a repeated heading gets. -/
def SuffixesFree (all : List Heading) : Prop :=
  ∀ h ∈ all, 0 < repeats all h → ∀ other ∈ all, other.text ≠ (retitled all h).text

theorem trim_append_suffix {text : Text} (h : Text.trimStart text = text) (n : Nat) :
    Text.trim (text ++ suffix n) =
      (if text = [] then [] else text ++ [' ']) ++ '(' :: (toString n).toList ++ [')'] := by
  have hend (start : Text) : Text.trimEnd (start ++ [')']) = start ++ [')'] := by
    rw [Text.trimEnd_concat]
    rfl
  cases text with
  | nil => exact hend ('(' :: (toString n).toList)
  | cons c rest =>
      have hc : Text.isBlank c = false := by
        by_contra hb
        rw [Bool.not_eq_false] at hb
        rw [Text.trimStart, List.dropWhile_cons_of_pos hb] at h
        have hlength := (List.dropWhile_suffix (p := Text.isBlank) (l := rest)).length_le
        rw [h, List.length_cons] at hlength
        omega
      rw [Text.trim, Text.trimStart, List.cons_append, List.dropWhile_cons_of_neg (by simp [hc]), suffix,
        ← List.cons_append, ← List.append_assoc, hend, if_neg (List.cons_ne_nil _ _)]
      simp

theorem trim_append_suffix_inj {a b : Text} {m n : Nat} (ha : Text.trimStart a = a)
    (hb : Text.trimStart b = b) (h : Text.trim (a ++ suffix m) = Text.trim (b ++ suffix n)) :
    a = b ∧ m = n := by
  rw [trim_append_suffix ha, trim_append_suffix hb] at h
  obtain ⟨htext, rfl⟩ := Document.append_number_inj (by decide) (List.append_cancel_right h)
  refine ⟨?_, rfl⟩
  split_ifs at htext with hna hnb hnb
  · rw [hna, hnb]
  · simp at htext
  · simp at htext
  · exact List.append_cancel_right htext

theorem text_retitled_of_first {all : List Heading} {h : Heading} (hfirst : repeats all h = 0) :
    (retitled all h).text = h.text := if_pos hfirst

theorem text_retitled_of_repeated {all : List Heading} {h : Heading} (hrepeated : 0 < repeats all h) :
    (retitled all h).text = Text.trim (h.text ++ suffix (repeats all h)) := if_neg hrepeated.ne'

theorem trimStart_text {lines : List Text} {h : Heading} (hm : h ∈ headings lines) :
    Text.trimStart h.text = h.text := by
  obtain ⟨p, -, hof⟩ := mem_headings_iff.1 hm
  obtain ⟨-, -, -, rest, -, htext⟩ := exists_of_headingParts? (exists_of_headingOf? hof).2
  rw [htext, Text.trimStart_trim]

section

variable {all : List Heading} (hsorted : all.Pairwise fun a b => a.line < b.line)

include hsorted

theorem repeats_of_split {above below : List Heading} {h : Heading} (hs : all = above ++ h :: below) :
    repeats all h = (above.map Heading.text).count h.text := by
  rw [hs, List.pairwise_append, List.pairwise_cons] at hsorted
  obtain ⟨-, ⟨hbelow, -⟩, habove⟩ := hsorted
  have hkept : above.filter (·.line < h.line) = above :=
    List.filter_eq_self.2 fun a ha => by simpa using habove a ha h List.mem_cons_self
  have hgone : below.filter (·.line < h.line) = [] :=
    List.filter_eq_nil_iff.2 fun b hb => by simpa using (hbelow b hb).le
  rw [repeats, hs, List.filter_append, List.filter_cons_of_neg (by simp), hkept, hgone, List.append_nil]

variable {x y : Heading}

theorem repeats_lt (hx : x ∈ all) (hlt : x.line < y.line) (htext : x.text = y.text) :
    repeats all x < repeats all y := by
  obtain ⟨above, below, hs⟩ := List.append_of_mem hx
  have habove : above.filter (·.line < y.line) = above := by
    rw [hs, List.pairwise_append] at hsorted
    refine List.filter_eq_self.2 fun a ha => ?_
    simpa using (hsorted.2.2 a ha x List.mem_cons_self).trans hlt
  rw [repeats_of_split hsorted hs, repeats, hs, List.filter_append,
    List.filter_cons_of_pos (by simpa using hlt), habove, List.map_append, List.map_cons,
    List.count_append, htext, List.count_cons_self]
  omega

theorem eq_of_repeats_eq (hx : x ∈ all) (hy : y ∈ all) (htext : x.text = y.text)
    (hrepeats : repeats all x = repeats all y) : x = y := by
  have hlines : (all.map Heading.line).Nodup := List.pairwise_map.2 (hsorted.imp fun hlt => hlt.ne)
  rcases lt_trichotomy x.line y.line with hlt | heq | hlt
  · exact absurd hrepeats (repeats_lt hsorted hx hlt htext).ne
  · exact List.inj_on_of_nodup_map hlines hx hy heq
  · exact absurd hrepeats (repeats_lt hsorted hy hlt htext.symm).ne'

/-- The first heading with a text is not repeated. -/
theorem exists_first (hx : x ∈ all) : ∃ first ∈ all, first.text = x.text ∧ repeats all first = 0 := by
  obtain ⟨above, below, hmap, hnone⟩ := List.eq_append_cons_of_mem (List.mem_map_of_mem hx)
  obtain ⟨upper, lower, hs, rfl, hlower⟩ := List.map_eq_append_iff.1 hmap
  obtain ⟨first, rest, rfl, htext, -⟩ := List.map_eq_cons_iff.1 hlower
  refine ⟨first, by simp [hs], htext, ?_⟩
  rw [repeats_of_split hsorted hs, htext]
  exact List.count_eq_zero_of_not_mem hnone

theorem retitled_inj (htrimmed : ∀ h ∈ all, Text.trimStart h.text = h.text)
    (hfree : SuffixesFree all) (hx : x ∈ all) (hy : y ∈ all)
    (h : (retitled all x).text = (retitled all y).text) : x = y := by
  rcases (repeats all x).eq_zero_or_pos with hxzero | hxpos
  · rcases (repeats all y).eq_zero_or_pos with hyzero | hypos
    · rw [text_retitled_of_first hxzero, text_retitled_of_first hyzero] at h
      exact eq_of_repeats_eq hsorted hx hy h (hxzero.trans hyzero.symm)
    · rw [text_retitled_of_first hxzero] at h
      exact absurd h (hfree y hy hypos x hx)
  · rcases (repeats all y).eq_zero_or_pos with hyzero | hypos
    · rw [text_retitled_of_first hyzero] at h
      exact absurd h.symm (hfree x hx hxpos y hy)
    · rw [text_retitled_of_repeated hxpos, text_retitled_of_repeated hypos] at h
      obtain ⟨htext, hrepeats⟩ := trim_append_suffix_inj (htrimmed x hx) (htrimmed y hy) h
      exact eq_of_repeats_eq hsorted hx hy htext hrepeats

theorem nodup_map_retitled_iff (htrimmed : ∀ h ∈ all, Text.trimStart h.text = h.text) :
    (all.map fun h => (retitled all h).text).Nodup ↔ SuffixesFree all := by
  have hnodup : all.Nodup := hsorted.imp fun hlt heq => absurd (heq ▸ hlt) (lt_irrefl _)
  rw [List.nodup_map_iff_inj_on hnodup]
  constructor
  · intro hinj h hm hrepeated other hother heq
    obtain ⟨first, hfirst, htext, hzero⟩ := exists_first hsorted hother
    obtain rfl := hinj first hfirst h hm (by rw [text_retitled_of_first hzero, htext, heq])
    exact hrepeated.ne' hzero
  · intro hfree x hx y hy h
    exact retitled_inj hsorted htrimmed hfree hx hy h

end

/-- All headings differ afterwards exactly if no heading has the text that a repeated one gets. -/
theorem nodup_headings_distinguishHeadings_iff (content : Text) :
    ((headings (Text.lines (distinguishHeadings content))).map Heading.text).Nodup ↔
      SuffixesFree (headings (Text.lines content)) := by
  rw [headings_distinguishHeadings, List.map_map]
  exact nodup_map_retitled_iff (pairwise_headings _) fun h hm => trimStart_text hm

/-- The second heading `A` gets the text of the third. -/
theorem distinguishHeadings_not_nodup :
    ¬ ((headings (Text.lines (distinguishHeadings "# A\n# A\n# A (1)\n".toList))).map
      Heading.text).Nodup := by
  decide +kernel

end SourceBook.Markdown
