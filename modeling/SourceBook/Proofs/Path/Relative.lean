import SourceBook.Proofs.Path.Settled

namespace SourceBook.Path

/-- The rest of a location below a root; nothing when it is the root or lies elsewhere. -/
def below? (root location : Location) : Option (List Text) :=
  match root.isPrefixOf? location with
  | some [] => none
  | rest => rest

theorem below?_append (root : Location) {below : List Text} (h : below ≠ []) :
    below? root (root ++ below) = some below := by
  rw [below?, List.isPrefixOf?_eq_some_iff_append_eq.2 rfl]
  cases below with
  | nil => exact absurd rfl h
  | cons name below => rfl

theorem way_append (origin below : List Text) : way origin (origin ++ below) = below := by
  induction origin with
  | nil => rw [List.nil_append, way.eq_def]; rfl
  | cons name origin ih => rw [List.cons_append, way, if_pos rfl, ih]

theorem relative_append (origin below : List Text) : relative origin (origin ++ below) = slashed below := by
  rw [relative, way_append]

theorem mem_of_mem_way {origin target : List Text} {name : Text} (h : name ∈ way origin target) :
    name = parent ∨ name ∈ target := by
  have hup {n : Nat} {rest : List Text} (h : name ∈ List.replicate n parent ++ rest) :
      name = parent ∨ name ∈ rest :=
    (List.mem_append.1 h).imp_left List.eq_of_mem_replicate
  induction origin generalizing target with
  | nil => exact hup h
  | cons a origin ih =>
      cases target with
      | nil => exact hup h
      | cons b target =>
          rw [way] at h
          split_ifs at h
          · exact (ih h).imp_right (List.mem_cons_of_mem b)
          · exact hup h

section

variable {mayLeave : Bool}

theorem settle_up {name : Text} (hhere : name ≠ here) (hparent : name ≠ parent) (path rest : List Text) :
    settle mayLeave (path ++ name :: parent :: rest) = settle mayLeave (path ++ rest) := by
  have hback (settled : List Text) : step mayLeave (name :: settled) parent = settled := by
    rw [step, if_neg (by decide), if_pos rfl, if_neg hparent]
  rw [settle, settle, List.foldl_append, List.foldl_append, List.foldl_cons, List.foldl_cons,
    step_of_ne hhere hparent, hback]

theorem settle_climb {origin : List Text} (h : IsSettled origin) (path rest : List Text) :
    settle mayLeave (path ++ origin ++ (List.replicate origin.length parent ++ rest)) =
      settle mayLeave (path ++ rest) := by
  induction origin using List.reverseRecOn with
  | nil => rw [List.append_nil]; rfl
  | append_singleton origin name ih =>
      obtain ⟨hhere, hparent⟩ := h name (by simp)
      have hsplit : path ++ (origin ++ [name]) ++
          (List.replicate (origin ++ [name]).length parent ++ rest) =
            (path ++ origin) ++ name :: parent :: (List.replicate origin.length parent ++ rest) := by
        simp [List.replicate_succ]
      rw [hsplit, settle_up hhere hparent]
      exact ih fun other hother => h other (List.mem_append_left _ hother)

-- The names that both locations start with are in front of the place to which the steps up lead.
theorem settle_way {origin : List Text} (h : IsSettled origin) (path target : List Text) :
    settle mayLeave (path ++ origin ++ way origin target) = settle mayLeave (path ++ target) := by
  induction origin generalizing path target with
  | nil => exact settle_climb h path target
  | cons a origin ih =>
      cases target with
      | nil => exact settle_climb h path []
      | cons b target =>
          rw [way]
          split_ifs with hsame
          · subst hsame
            rw [List.append_cons, List.append_cons path a target]
            exact ih (List.forall_mem_cons.1 h).2 _ target
          · exact settle_climb h path (b :: target)

end

/-- The path from one location to another leads there. -/
theorem resolve_relative {origin target : Location} (horigin : IsSettled origin)
    (htarget : IsSettled target) (hnames : ∀ name ∈ target, IsName name) :
    resolve origin (relative origin target) = target := by
  have hway : ∀ name ∈ way origin target, IsName name := by
    intro name hname
    rcases mem_of_mem_way hname with rfl | hname
    · exact (by decide : IsName parent)
    · exact hnames name hname
  rw [resolve, relative, isAbsolute_slashed hway, names_slashed hway]
  exact (settle_way horigin [] target).trans (settle_of_isSettled false htarget)

end SourceBook.Path
