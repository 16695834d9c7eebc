import SourceBook.Proofs.Data.PrintedKeys
import SourceBook.Proofs.Data.Rearranged

namespace SourceBook.Data

/-- Values that are the same but for the order of entries have one text. The value that is printed is the
given one but for the order of entries and the lost key, its keys stand in their order in every record,
and that is how they come in the text. -/
theorem stableText_forgets_order {value : Data} (h : value.WellKeyed) :
    (∀ other, value.Rearranged other → ∀ indent, value.stableText indent = other.stableText indent) ∧
      (sortKeys value).Rearranged value.withoutLost ∧
      (sortKeys value).AllKeys (List.Pairwise Precedes) ∧
      ∀ indent, printedKeys (value.stableText indent) = keys 0 (sortKeys value) := by
  refine ⟨fun other hother indent => ?_, rearranged_sortKeys h, allKeys_sortKeys h,
    printedKeys_stableText value⟩
  rw [stableText, stableText, hother.sortKeys_eq h]

def innerEntries : List (Text × Data) :=
  [("z".toList, null), (lostKey, text ['x']), ("10".toList, null), ("2".toList, null)]

def nested : Data := record [("b".toList, list [record innerEntries]), ("7".toList, null)]

def turned : Data := record [("7".toList, null), ("b".toList, list [record innerEntries.reverse])]

theorem wellKeyed_innerEntries : (record innerEntries).WellKeyed := by
  refine .record (by decide) ?_
  simp only [innerEntries, List.forall_mem_cons]
  exact ⟨.null, .text _, .null, .null, List.forall_mem_nil _⟩

theorem rearranged_turned : nested.Rearranged turned := by
  refine .record (by decide) fun a ha b hb hkey => ?_
  simp only [List.mem_cons, List.not_mem_nil, or_false] at ha hb
  obtain rfl | rfl := ha <;> obtain rfl | rfl := hb
  · exact absurd hkey (by decide)
  · refine .list rfl (List.forall_mem_singleton.2 ?_)
    exact rearranged_of_perm (by decide) (List.reverse_perm _).symm
  · exact .refl null
  · exact absurd hkey (by decide)

/-- The keys of each record in it come in the reverse of their order. -/
theorem sortKeys_nested :
    sortKeys nested = record
      [(['7'], null), (['b'], list [record [(['2'], null), ("10".toList, null), (['z'], null)]])] := by
  have hinner : sortEntries innerEntries = [(['2'], null), ("10".toList, null), (['z'], null)] :=
    sortEntries_eq_of_pairwise (by decide)
      (List.reverse_perm [(['z'], null), ("10".toList, null), (['2'], null)]) (by decide)
  have hlisted : sortKeys (list [record innerEntries]) = list [record (sortEntries innerEntries)] := rfl
  rw [nested, sortKeys, sortKeysEntries_eq_map, List.map_cons, hlisted, hinner]
  exact congrArg record
    (sortEntries_eq_of_pairwise (by decide) (List.reverse_perm [(['b'], _), (['7'], null)]) (by decide))

theorem stableText_forgets_order_nested :
    nested.WellKeyed ∧ nested.Rearranged turned ∧ nested.stableText 2 = turned.stableText 2 ∧
      printedKeys (nested.stableText 2) =
        [(1, ['7']), (1, ['b']), (3, ['2']), (3, "10".toList), (3, ['z'])] := by
  have hkeyed : nested.WellKeyed := by
    refine .record (by decide) ?_
    simp only [List.forall_mem_cons]
    exact ⟨.list (List.forall_mem_singleton.2 wellKeyed_innerEntries), .null, List.forall_mem_nil _⟩
  obtain ⟨hsame, -, -, hkeys⟩ := stableText_forgets_order hkeyed
  refine ⟨hkeyed, rearranged_turned, hsame turned rearranged_turned 2, (hkeys 2).trans ?_⟩
  rw [sortKeys_nested]
  rfl

end SourceBook.Data
