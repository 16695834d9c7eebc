import SourceBook.Proofs.Data.KeyOrder

namespace SourceBook.Data

inductive AllKeys (P : List Text → Prop) : Data → Prop
  | null : AllKeys P null
  | bool (value) : AllKeys P (bool value)
  | number (value) : AllKeys P (number value)
  | text (value) : AllKeys P (text value)
  | list {items} (hitems : ∀ item ∈ items, AllKeys P item) : AllKeys P (list items)
  | record {entries} (hkeys : P (entries.map Prod.fst))
      (hvalues : ∀ entry ∈ entries, AllKeys P entry.2) : AllKeys P (record entries)

abbrev WellKeyed (value : Data) : Prop := value.AllKeys List.Nodup

/-- Equality up to the order of entries at every depth. Items keep their order. -/
inductive Rearranged : Data → Data → Prop
  | refl (value) : Rearranged value value
  | list {items others} (hlength : items.length = others.length)
      (hitems : ∀ pair ∈ items.zip others, Rearranged pair.1 pair.2) :
      Rearranged (list items) (list others)
  | record {entries others} (hkeys : (entries.map Prod.fst).Perm (others.map Prod.fst))
      (hvalues : ∀ a ∈ entries, ∀ b ∈ others, a.1 = b.1 → Rearranged a.2 b.2) :
      Rearranged (record entries) (record others)

mutual

/-- The value without what stands under the lost key, at every depth. -/
def withoutLost : Data → Data
  | list items => list (withoutLostItems items)
  | record entries => record (withoutLostEntries entries)
  | null => null
  | bool value => bool value
  | number value => number value
  | text value => text value

def withoutLostItems : List Data → List Data
  | [] => []
  | item :: rest => withoutLost item :: withoutLostItems rest

def withoutLostEntries : List (Text × Data) → List (Text × Data)
  | [] => []
  | (key, value) :: rest =>
    if key = lostKey then withoutLostEntries rest
    else (key, withoutLost value) :: withoutLostEntries rest

end

theorem sortKeysItems_eq_map (items : List Data) : sortKeysItems items = items.map sortKeys := by
  induction items with
  | nil => rfl
  | cons item rest ih => rw [sortKeysItems, ih, List.map_cons]

theorem sortKeysEntries_eq_map (entries : List (Text × Data)) :
    sortKeysEntries entries = entries.map fun entry => (entry.1, sortKeys entry.2) := by
  induction entries with
  | nil => rfl
  | cons entry rest ih => rw [sortKeysEntries, ih, List.map_cons]

theorem withoutLostItems_eq_map (items : List Data) : withoutLostItems items = items.map withoutLost := by
  induction items with
  | nil => rfl
  | cons item rest ih => rw [withoutLostItems, ih, List.map_cons]

theorem withoutLostEntries_eq_map (entries : List (Text × Data)) :
    withoutLostEntries entries =
      (entries.filter fun entry => entry.1 != lostKey).map fun entry => (entry.1, withoutLost entry.2) := by
  induction entries with
  | nil => rfl
  | cons entry rest ih =>
      rw [withoutLostEntries, ih]
      by_cases h : entry.1 = lostKey
      · rw [if_pos h, List.filter_cons_of_neg (by simpa using h)]
      · rw [if_neg h, List.filter_cons_of_pos (by simpa using h), List.map_cons]

section

variable {α β : Type} {entries : List (Text × α)}

theorem map_fst_map (f : Text × α → β) (entries : List (Text × α)) :
    (entries.map fun entry => (entry.1, f entry)).map Prod.fst = entries.map Prod.fst := by
  rw [List.map_map]
  rfl

theorem exists_of_keys_perm {others : List (Text × α)}
    (hkeys : (entries.map Prod.fst).Perm (others.map Prod.fst)) {a : Text × α} (ha : a ∈ entries) :
    ∃ b ∈ others, a.1 = b.1 := by
  obtain ⟨b, hb, hkey⟩ := List.mem_map.1 (hkeys.mem_iff.1 (List.mem_map_of_mem ha))
  exact ⟨b, hb, hkey.symm⟩

end

/-- With each key once, entries with the same keys and values are the same but for their order. -/
theorem perm_of_keys_perm {α : Type} {entries others : List (Text × α)}
    (hnodup : (entries.map Prod.fst).Nodup) (hkeys : (entries.map Prod.fst).Perm (others.map Prod.fst))
    (hvalues : ∀ a ∈ entries, ∀ b ∈ others, a.1 = b.1 → a.2 = b.2) : entries.Perm others := by
  rw [List.perm_ext_iff_of_nodup hnodup.of_map ((hkeys.nodup_iff.1 hnodup).of_map)]
  intro entry
  constructor
  · intro ha
    obtain ⟨b, hb, hkey⟩ := exists_of_keys_perm hkeys ha
    rwa [Prod.ext hkey (hvalues entry ha b hb hkey)]
  · intro hb
    obtain ⟨a, ha, hkey⟩ := exists_of_keys_perm hkeys.symm hb
    rwa [Prod.ext hkey (hvalues a ha entry hb hkey.symm).symm]

theorem rearranged_of_perm {entries others : List (Text × Data)}
    (hnodup : (entries.map Prod.fst).Nodup) (h : entries.Perm others) :
    Rearranged (record entries) (record others) := by
  refine .record (h.map Prod.fst) fun a ha b hb hkey => ?_
  rw [List.inj_on_of_nodup_map hnodup ha (h.mem_iff.2 hb) hkey]
  exact .refl b.2

theorem Rearranged.sortKeys_eq {value other : Data} (h : value.Rearranged other)
    (hkeys : value.WellKeyed) : sortKeys value = sortKeys other := by
  induction h with
  | refl value => rfl
  | @list items others hlength hitems ih =>
      cases hkeys with
      | list hbelow =>
          rw [sortKeys, sortKeys, sortKeysItems_eq_map, sortKeysItems_eq_map, list.injEq]
          apply List.ext_getElem (by rw [List.length_map, List.length_map, hlength])
          intro i hi hj
          rw [List.length_map] at hi hj
          have hpair : (items[i], others[i]) ∈ items.zip others := by
            rw [← List.getElem_zip]
            exact List.getElem_mem (by rw [List.length_zip]; omega)
          rw [List.getElem_map, List.getElem_map]
          exact ih _ hpair (hbelow _ (List.getElem_mem hi))
  | @record entries others hperm hvalues ih =>
      cases hkeys with
      | record hnodup hbelow =>
          rw [sortKeys, sortKeys, sortKeysEntries_eq_map, sortKeysEntries_eq_map]
          have hsorted := map_fst_map (fun entry => sortKeys entry.2) entries
          rw [sortEntries_eq_of_perm]
          · rwa [hsorted]
          · apply perm_of_keys_perm
            · rwa [hsorted]
            · rwa [hsorted, map_fst_map fun entry => sortKeys entry.2]
            · intro x hx y hy hkey
              obtain ⟨a, ha, rfl⟩ := List.mem_map.1 hx
              obtain ⟨b, hb, rfl⟩ := List.mem_map.1 hy
              exact ih a ha b hb hkey (hbelow a ha)

theorem rearranged_sortKeys {value : Data} (h : value.WellKeyed) :
    (sortKeys value).Rearranged value.withoutLost := by
  induction h with
  | null => exact .refl null
  | bool value => exact .refl (bool value)
  | number value => exact .refl (number value)
  | text value => exact .refl (text value)
  | @list items hitems ih =>
      rw [sortKeys, withoutLost, sortKeysItems_eq_map, withoutLostItems_eq_map]
      apply Rearranged.list (by rw [List.length_map, List.length_map])
      intro pair hpair
      rw [List.zip_map'] at hpair
      obtain ⟨item, hitem, rfl⟩ := List.mem_map.1 hpair
      exact ih item hitem
  | @record entries hnodup hvalues ih =>
      rw [sortKeys, withoutLost, sortKeysEntries_eq_map, withoutLostEntries_eq_map]
      have hperm := sortEntries_perm (entries.map fun entry => (entry.1, sortKeys entry.2))
      rw [List.filter_map] at hperm
      apply Rearranged.record
      · refine (hperm.map Prod.fst).trans ?_
        rw [map_fst_map fun entry => sortKeys entry.2, map_fst_map fun entry => withoutLost entry.2]
        rfl
      · intro x hx y hy hkey
        obtain ⟨a, ha, rfl⟩ := List.mem_map.1 (hperm.mem_iff.1 hx)
        obtain ⟨b, hb, rfl⟩ := List.mem_map.1 hy
        have hentry := List.mem_of_mem_filter ha
        obtain rfl := List.inj_on_of_nodup_map hnodup hentry (List.mem_of_mem_filter hb) hkey
        exact ih a hentry

theorem allKeys_sortKeys {value : Data} (h : value.WellKeyed) :
    (sortKeys value).AllKeys (List.Pairwise Precedes) := by
  induction h with
  | null => exact .null
  | bool value => exact .bool value
  | number value => exact .number value
  | text value => exact .text value
  | @list items hitems ih =>
      rw [sortKeys, sortKeysItems_eq_map]
      apply AllKeys.list
      intro sorted hsorted
      obtain ⟨item, hitem, rfl⟩ := List.mem_map.1 hsorted
      exact ih item hitem
  | @record entries hnodup hvalues ih =>
      rw [sortKeys, sortKeysEntries_eq_map]
      apply AllKeys.record
      · apply pairwise_precedes_sortEntries
        rwa [map_fst_map fun entry => sortKeys entry.2]
      · intro sorted hsorted
        obtain ⟨entry, hentry, rfl⟩ := List.mem_map.1 (mem_of_mem_sortEntries hsorted)
        exact ih entry hentry

end SourceBook.Data
