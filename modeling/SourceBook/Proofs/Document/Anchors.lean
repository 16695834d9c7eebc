import SourceBook.Proofs.Document.Assemble
import SourceBook.Proofs.Text.Occurrences

namespace SourceBook.Document

open SourceBook.Text (occurrencesFrom mem_occurrences)

def numberedAnchor (base : Text) (n : Nat) : Text :=
  if n = 0 then base else base ++ '-' :: (toString n).toList

/-- No slug is the numbered form of one that occurs so often. -/
def AnchorsFree (slugs : List Text) : Prop :=
  ∀ base ∈ slugs, ∀ other ∈ slugs, ∀ n < slugs.count base, 1 ≤ n → other ≠ numberedAnchor base n

instance (slugs : List Text) : Decidable (AnchorsFree slugs) :=
  inferInstanceAs (Decidable (∀ base ∈ slugs, ∀ other ∈ slugs, ∀ n < slugs.count base, 1 ≤ n → _))

/-- The sections of a document in front of its files. -/
def front [Text.Collation] (root : Text) (parts : Parts) (entries : List Entry) : List Section :=
  (outline root parts entries).takeWhile (·.level < 3)

theorem anchorsFrom_eq (earlier texts : List Text) :
    anchorsFrom earlier texts =
      (occurrencesFrom earlier (texts.map slug)).map fun p => numberedAnchor p.1 (p.2 - 1) := by
  induction texts generalizing earlier with
  | nil => rfl
  | cons text texts ih =>
      rw [anchorsFrom, ih]
      rfl

theorem numberedAnchor_inj {a b : Text} {m n : Nat} (hm : m ≠ 0) (hn : n ≠ 0)
    (h : numberedAnchor a m = numberedAnchor b n) : a = b ∧ m = n := by
  rw [numberedAnchor, numberedAnchor, if_neg hm, if_neg hn] at h
  exact append_number_inj (by decide) h

theorem nodup_anchors_iff (texts : List Text) :
    (anchors texts).Nodup ↔ AnchorsFree (texts.map slug) := by
  have hfirst (base : Text) : numberedAnchor base (1 - 1) = base := rfl
  have hinj (a b : Text) (m n : Nat) (hm : 1 < m) (hn : 1 < n)
      (h : numberedAnchor a (m - 1) = numberedAnchor b (n - 1)) : a = b ∧ m = n := by
    obtain ⟨hbase, hnumber⟩ := numberedAnchor_inj (by omega) (by omega) h
    exact ⟨hbase, by omega⟩
  rw [anchors, anchorsFrom_eq,
    Text.nodup_map_mark_iff (fun p => numberedAnchor p.1 (p.2 - 1)) hfirst hinj]
  constructor
  · intro h base hbase other hother n hlt hn
    exact h base hbase other hother (n + 1) hlt (by omega)
  · intro h base hbase other hother n hle hn
    exact h base hbase other hother (n - 1) (by omega) (by omega)

theorem mem_anchors_iff {texts : List Text} {anchor : Text} :
    anchor ∈ anchors texts ↔
      ∃ base n, n < (texts.map slug).count base ∧ anchor = numberedAnchor base n := by
  rw [anchors, anchorsFrom_eq, List.mem_map]
  constructor
  · rintro ⟨⟨base, n⟩, hp, rfl⟩
    obtain ⟨hpos, hle⟩ := mem_occurrences.1 hp
    exact ⟨base, n - 1, by omega, rfl⟩
  · rintro ⟨base, n, hlt, rfl⟩
    exact ⟨(base, n + 1), mem_occurrences.2 ⟨by omega, hlt⟩, rfl⟩

/-- A text is an anchor if it is a slug, or a slug with a number that it gets. -/
theorem not_mem_anchors_iff {texts : List Text} {anchor : Text} :
    anchor ∉ anchors texts ↔ anchor ∉ texts.map slug ∧
      ∀ base ∈ texts.map slug, ∀ n < (texts.map slug).count base, 1 ≤ n →
        anchor ≠ numberedAnchor base n := by
  rw [mem_anchors_iff]
  push Not
  constructor
  · intro h
    refine ⟨fun hmem => ?_, fun base _ n hlt _ => h base n hlt⟩
    exact h anchor 0 (List.count_pos_iff.2 hmem) rfl
  · rintro ⟨hslug, hnumbered⟩ base n hlt
    have hbase : base ∈ texts.map slug := List.count_pos_iff.1 ((Nat.zero_le n).trans_lt hlt)
    rcases n.eq_zero_or_pos with rfl | hpos
    · rintro rfl
      exact hslug hbase
    · exact hnumbered base hbase n hlt hpos

theorem ne_numberedAnchor {anchor base : Text} {n : Nat} (hn : 1 ≤ n)
    (h : ∀ c ∈ anchor.getLast?, c.isDigit = false) : anchor ≠ numberedAnchor base n := by
  rintro rfl
  have hdigits : (toString n).toList ≠ [] := by
    rw [Nat.toString_eq_repr, Nat.toList_repr]
    exact Nat.toDigits_ne_nil
  have hlast : (numberedAnchor base n).getLast? = some ((toString n).toList.getLast hdigits) := by
    rw [numberedAnchor, if_neg (by omega), List.getLast?_append_of_ne_nil _ (by simp),
      List.getLast?_cons_of_ne_nil hdigits, List.getLast?_eq_getLast_of_ne_nil hdigits]
  have hdigit := isDigit_of_mem_toString (List.getLast_mem hdigits)
  rw [h _ hlast] at hdigit
  cases hdigit

section

variable [Text.Collation] {root : Text} {parts : Parts} {entries : List Entry}

theorem titleOutline_mem_front : titleOutline root ∈ front root parts entries := by
  rw [front, outline, List.cons_append, List.cons_append,
    List.takeWhile_cons_of_pos (by simp [titleOutline])]
  exact List.mem_cons_self

theorem eq_title_or_of_mem_front {s : Section} (h : s ∈ front root parts entries) :
    s = titleOutline root ∨
      s.text ∈ ["Directory Structure".toList, "Table of Contents".toList, "Files".toList] := by
  have hall : ∀ s ∈ outline root parts entries, s.level < 3 → s = titleOutline root ∨
      s.text ∈ ["Directory Structure".toList, "Table of Contents".toList, "Files".toList] := by
    apply forall_mem_outline
    · exact fun _ => .inl rfl
    · exact fun _ _ => .inr List.mem_cons_self
    · exact fun _ _ => .inr (List.mem_cons_of_mem _ List.mem_cons_self)
    · exact fun _ => .inr (List.mem_cons_of_mem _ (List.mem_cons_of_mem _ List.mem_cons_self))
    · exact fun entry _ hlevel => absurd hlevel (Nat.lt_irrefl 3)
  have hlevel : s.level < 3 := by simpa using List.mem_takeWhile_imp h
  exact hall s ((List.takeWhile_prefix _).subset h) hlevel

end

/-- The sections that every document names alike have slugs that end in letters. -/
theorem isDigit_getLast?_slug {text : Text}
    (h : text ∈ ["Directory Structure".toList, "Table of Contents".toList, "Files".toList]) :
    ∀ c ∈ (slug text).getLast?, c.isDigit = false := by
  have hall : ∀ text ∈ ["Directory Structure".toList, "Table of Contents".toList, "Files".toList],
      (slug text).getLast?.any Char.isDigit = false := by decide +kernel
  intro c hc
  have htext := hall text h
  rwa [hc] at htext

/-- The links of a document have anchors of their own exactly if no numbered slug is a slug itself, and
none leads to a section in front of the files exactly if no path has the slug of a section and the title
is not the numbered form of one. -/
theorem anchors_reach_files_iff [Text.Collation] (root : Text) (parts : Parts) (entries : List Entry) :
    ((anchors (entries.map Entry.path)).Nodup ↔
        AnchorsFree ((entries.map Entry.path).map slug)) ∧
      ((∀ s ∈ front root parts entries, slug s.text ∉ anchors (entries.map Entry.path)) ↔
        (∀ s ∈ front root parts entries, slug s.text ∉ (entries.map Entry.path).map slug) ∧
          ∀ base ∈ (entries.map Entry.path).map slug,
            ∀ n < ((entries.map Entry.path).map slug).count base, 1 ≤ n →
              slug (titleOutline root).text ≠ numberedAnchor base n) := by
  refine ⟨nodup_anchors_iff _, ?_⟩
  constructor
  · intro h
    have htitle := not_mem_anchors_iff.1 (h _ titleOutline_mem_front)
    exact ⟨fun s hs => (not_mem_anchors_iff.1 (h s hs)).1, htitle.2⟩
  · rintro ⟨hslugs, hnumbered⟩ s hs
    apply not_mem_anchors_iff.2
    refine ⟨hslugs s hs, fun base hbase n hlt hn => ?_⟩
    rcases eq_title_or_of_mem_front hs with rfl | htext
    · exact hnumbered base hbase n hlt hn
    · exact ne_numberedAnchor hn (isDigit_getLast?_slug htext)

/-- The second `ab` takes the slug of the third path, and a file may have the slug of a section. -/
theorem anchors_miss_files :
    ["a/b".toList, "ab".toList, "ab-1".toList].Nodup ∧
      ¬ (anchors ["a/b".toList, "ab".toList, "ab-1".toList]).Nodup ∧
      ∃ s ∈ front "w".toList {} [⟨"table-of-conten.ts".toList, ".ts".toList, []⟩],
        slug s.text ∈ anchors ["table-of-conten.ts".toList] := by
  have hfront : front "w".toList {} [⟨"table-of-conten.ts".toList, ".ts".toList, []⟩] =
      [titleOutline "w".toList, treeOutline "w".toList ["table-of-conten.ts".toList],
        contentsOutline ["table-of-conten.ts".toList],
        filesOutline [⟨"table-of-conten.ts".toList, ".ts".toList, []⟩]] := rfl
  refine ⟨by decide, by decide +kernel, contentsOutline ["table-of-conten.ts".toList], ?_, ?_⟩
  · rw [hfront]
    simp
  · decide +kernel

end SourceBook.Document
