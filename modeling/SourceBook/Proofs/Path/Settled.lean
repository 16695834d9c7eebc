import SourceBook.Proofs.Path.Join

namespace SourceBook.Path

def IsSettled (path : List Text) : Prop := ∀ name ∈ path, name ≠ here ∧ name ≠ parent

instance (path : List Text) : Decidable (IsSettled path) :=
  inferInstanceAs (Decidable (∀ name ∈ path, name ≠ here ∧ name ≠ parent))

theorem IsSettled.step {settled : List Text} (h : IsSettled settled) (name : Text) :
    IsSettled (step false settled name) := by
  by_cases hhere : name = here
  · unfold Path.step
    rwa [if_pos hhere]
  by_cases hparent : name = parent
  · subst hparent
    cases settled with
    | nil =>
        unfold Path.step
        rw [if_neg hhere, if_pos rfl]
        exact h
    | cons last rest =>
        have hlast : last ≠ parent := (h last List.mem_cons_self).2
        rw [Path.step, if_neg hhere, if_pos rfl, if_neg hlast]
        exact fun other hother => h other (List.mem_cons_of_mem _ hother)
  · rw [step_of_ne hhere hparent]
    exact List.forall_mem_cons.2 ⟨⟨hhere, hparent⟩, h⟩

theorem isSettled_settle (path : List Text) : IsSettled (settle false path) := by
  have hfold (settled : List Text) (h : IsSettled settled) :
      IsSettled (path.foldl (Path.step false) settled) := by
    induction path generalizing settled with
    | nil => exact h
    | cons name path ih => exact ih _ (h.step name)
  intro name hname
  rw [settle, List.mem_reverse] at hname
  exact hfold [] (by simp [IsSettled]) name hname

theorem isSettled_resolve (cwd : Location) (path : Text) : IsSettled (resolve cwd path) :=
  isSettled_settle _

theorem settle_of_isSettled (mayLeave : Bool) {path : List Text} (h : IsSettled path) :
    settle mayLeave path = path := by
  induction path using List.reverseRecOn with
  | nil => rfl
  | append_singleton path name ih =>
      obtain ⟨hhere, hparent⟩ := h name (by simp)
      rw [settle_concat _ _ hhere hparent, ih fun other hother => h other (List.mem_append_left _ hother)]

theorem isAbsolute_slashed {path : List Text} (h : ∀ name ∈ path, IsName name) :
    isAbsolute (slashed path) = false := by
  cases path with
  | nil => rfl
  | cons first rest =>
      obtain ⟨hne, hslash⟩ := h first List.mem_cons_self
      obtain ⟨c, name, rfl⟩ := List.exists_cons_of_ne_nil hne
      have hc : c ≠ '/' := fun heq => hslash (heq ▸ List.mem_cons_self)
      have hhead : (slashed ((c :: name) :: rest)).head? = some c := by
        cases rest <;> simp [slashed, List.intercalate_singleton, List.intercalate_cons_of_ne_nil]
      rw [isAbsolute, hhead]
      simpa using hc

/-- A path to something below its start, in its shortest spelling. -/
structure IsRelative (path : Text) : Prop where
  names_ne_nil : names path ≠ []
  slashed : slashed (names path) = path
  settled : IsSettled (names path)

instance (path : Text) : Decidable (IsRelative path) :=
  decidable_of_iff (names path ≠ [] ∧ Path.slashed (names path) = path ∧ IsSettled (names path))
    ⟨fun ⟨hne, hslashed, hsettled⟩ => ⟨hne, hslashed, hsettled⟩, fun h => ⟨h.1, h.2, h.3⟩⟩

theorem IsRelative.isAbsolute {path : Text} (h : IsRelative path) : isAbsolute path = false := by
  rw [← h.slashed]
  exact isAbsolute_slashed fun name => isName_of_mem_names

theorem resolve_isRelative {root : Location} (hroot : IsSettled root) {path : Text} (h : IsRelative path) :
    resolve root path = root ++ names path := by
  have hboth : IsSettled (root ++ names path) := fun name hname =>
    (List.mem_append.1 hname).elim (hroot name) (h.settled name)
  rw [resolve, h.isAbsolute]
  exact settle_of_isSettled false hboth

end SourceBook.Path
