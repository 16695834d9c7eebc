import SourceBook.Proofs.Files.Names

namespace SourceBook.Path

section

variable {mayLeave : Bool} {settled path : List Text} {name : Text}

theorem step_of_ne (hhere : name ≠ here) (hparent : name ≠ parent) :
    step mayLeave settled name = name :: settled := by
  unfold step
  rw [if_neg hhere, if_neg hparent]

theorem step_subset : step mayLeave settled name ⊆ name :: settled := by
  by_cases hhere : name = here
  · unfold step
    rw [if_pos hhere]
    exact List.subset_cons_self _ _
  by_cases hparent : name = parent
  · subst hparent
    cases settled with
    | nil => cases mayLeave <;> simp [step, hhere]
    | cons last rest =>
        by_cases hlast : last = parent
        · rw [step, if_neg hhere, if_pos rfl, if_pos hlast]
          exact List.Subset.refl _
        · rw [step, if_neg hhere, if_pos rfl, if_neg hlast]
          intro other h
          exact List.mem_cons_of_mem _ (List.mem_cons_of_mem _ h)
  · rw [step_of_ne hhere hparent]
    exact List.Subset.refl _

theorem foldl_step_subset : path.foldl (step mayLeave) settled ⊆ settled ++ path := by
  induction path generalizing settled with
  | nil => simp
  | cons name path ih =>
      intro other h
      rcases List.mem_append.1 (ih h) with h | h
      · rcases List.mem_cons.1 (step_subset h) with rfl | h
        · simp
        · exact List.mem_append_left _ h
      · exact List.mem_append_right _ (List.mem_cons_of_mem _ h)

theorem mem_of_mem_settle (h : name ∈ settle mayLeave path) : name ∈ path := by
  rw [settle, List.mem_reverse] at h
  exact foldl_step_subset h

theorem settle_concat (mayLeave : Bool) (path : List Text) (hhere : name ≠ here)
    (hparent : name ≠ parent) :
    settle mayLeave (path ++ [name]) = settle mayLeave path ++ [name] := by
  rw [settle, settle, List.foldl_append, List.foldl_cons, List.foldl_nil, step_of_ne hhere hparent,
    List.reverse_cons]

end

theorem isName_of_mem_resolve {cwd : Location} (hcwd : ∀ name ∈ cwd, IsName name) {path name : Text}
    (h : name ∈ resolve cwd path) : IsName name := by
  have hmem := mem_of_mem_settle h
  split_ifs at hmem
  · exact isName_of_mem_names hmem
  · rcases List.mem_append.1 hmem with hmem | hmem
    · exact hcwd name hmem
    · exact isName_of_mem_names hmem

theorem names_of_isName {name : Text} (h : IsName name) : names name = [name] := by
  simpa [slashed] using names_slashed (List.forall_mem_singleton.2 h)

theorem names_append_slash (a b : Text) : names (a ++ '/' :: b) = names a ++ names b := by
  rw [names, List.splitOn_append_cons_self, List.filter_append]
  rfl

theorem slashed_concat (path : List Text) (name : Text) :
    slashed (path ++ [name]) = path.flatMap (· ++ ['/']) ++ name := by
  induction path with
  | nil => simp [slashed]
  | cons first path ih =>
      rw [slashed] at ih ⊢
      rw [List.cons_append, List.intercalate_cons_of_ne_nil (by simp), ih, List.flatMap_cons]
      simp

theorem normalize_of_names {path name : Text} (above : List Text) (hhere : name ≠ here)
    (hparent : name ≠ parent) (hpath : names path = above ++ [name]) (hlast : path.getLast? ≠ some '/') :
    normalize path = (if isAbsolute path then ['/'] else []) ++
      ((settle (!isAbsolute path) above).flatMap (· ++ ['/']) ++ name) := by
  have hsettled := settle_concat (!isAbsolute path) above hhere hparent
  simp [normalize, hpath, hsettled, slashed_concat, hlast]

/-- What stands in front of a name that is joined to a path does not depend on the name. -/
theorem exists_join_eq (a : Text) : ∃ start, ∀ name, IsName name → name ≠ here → name ≠ parent →
    join a name = start ++ name := by
  refine ⟨(if isAbsolute a then ['/'] else []) ++
    (settle (!isAbsolute a) (names a)).flatMap (· ++ ['/']), ?_⟩
  intro name hname hhere hparent
  have hlast : ∀ front, (front ++ name).getLast? ≠ some '/' := by
    intro front hl
    rw [List.getLast?_append_of_ne_nil _ hname.1] at hl
    exact hname.2 (List.mem_of_getLast? hl)
  have hne : name.isEmpty = false := by simp [hname.1]
  cases a with
  | nil =>
      have hrelative : isAbsolute name = false := by
        rw [isAbsolute, beq_eq_false_iff_ne]
        intro hhead
        exact hname.2 (List.mem_of_head? hhead)
      have hnormal := normalize_of_names [] hhere hparent (names_of_isName hname)
        (by simpa using hlast [])
      rw [hrelative] at hnormal
      exact hnormal
  | cons c a =>
      have hnames : names (c :: a ++ '/' :: name) = names (c :: a) ++ [name] := by
        rw [names_append_slash, names_of_isName hname]
      have hnormal := normalize_of_names _ hhere hparent hnames (by simpa using hlast (c :: a ++ ['/']))
      rw [join, List.isEmpty_cons, hne, List.append_assoc]
      exact hnormal

end SourceBook.Path
