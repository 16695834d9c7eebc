import SourceBook.Number.Shortest
import SourceBook.Proofs.Text.Trim

namespace SourceBook.Number

open Text (isBlank)

section

variable {P : Char → Prop} (hdigit : ∀ c : Char, c.isDigit = true → P c)

include hdigit

theorem forall_mem_digits (n : Nat) : ∀ c ∈ digits n, P c :=
  fun c hc => hdigit c (Nat.isDigit_of_mem_toDigits (by decide) (by decide) hc)

theorem forall_mem_shortestDigits (q : Rat) : ∀ c ∈ (shortestDigits q).1, P c := by
  intro c hc
  rw [shortestDigits, List.mem_reverse] at hc
  exact forall_mem_digits hdigit _ c (List.mem_reverse.1 ((List.dropWhile_suffix _).subset hc))

theorem forall_mem_zeros (n : Nat) : ∀ c ∈ List.replicate n '0', P c := by
  intro c hc
  rw [List.eq_of_mem_replicate hc]
  exact hdigit '0' rfl

variable (hpoint : P '.') (hexponent : P 'e') (hplus : P '+') (hminus : P '-')

include hpoint hexponent hplus hminus

theorem forall_mem_layout {ds : Text} (h : ∀ c ∈ ds, P c) (point : Int) : ∀ c ∈ layout ds point, P c := by
  unfold layout
  extract_lets k e mantissa
  have hmantissa : ∀ c ∈ mantissa, P c := by
    subst mantissa
    split
    · rw [List.forall_mem_cons] at h
      exact List.forall_mem_cons.2 ⟨h.1, List.forall_mem_cons.2 ⟨hpoint, h.2⟩⟩
    · exact h
  have hsign : P (if e < 0 then '-' else '+') := by
    split
    · exact hminus
    · exact hplus
  have hzeros := forall_mem_zeros hdigit
  split
  · exact List.forall_mem_append.2 ⟨h, hzeros _⟩
  · split
    · refine List.forall_mem_append.2 ⟨fun c hc => h c (List.mem_of_mem_take hc), ?_⟩
      exact List.forall_mem_cons.2 ⟨hpoint, fun c hc => h c (List.mem_of_mem_drop hc)⟩
    · split
      · refine List.forall_mem_append.2 ⟨?_, h⟩
        exact List.forall_mem_cons.2 ⟨hdigit '0' rfl, List.forall_mem_cons.2 ⟨hpoint, hzeros _⟩⟩
      · refine List.forall_mem_append.2 ⟨hmantissa, List.forall_mem_cons.2 ⟨hexponent, ?_⟩⟩
        exact List.forall_mem_cons.2 ⟨hsign, forall_mem_digits hdigit _⟩

theorem forall_mem_text (q : Rat) : ∀ c ∈ (finite q).text, P c := by
  have hlayout (q : Rat) := forall_mem_layout hdigit hpoint hexponent hplus hminus
    (forall_mem_shortestDigits hdigit q)
  rw [text]
  split_ifs
  · exact List.forall_mem_singleton.2 (hdigit '0' rfl)
  · exact List.forall_mem_append.2 ⟨List.forall_mem_singleton.2 hminus, hlayout _ _⟩
  · exact hlayout _ _

end

theorem visible_of_mem_text {number : Number} : ∀ c ∈ number.text, isBlank c = false := by
  cases number with
  | infinite negative => cases negative <;> exact Text.visible_of_all (by decide)
  | finite q => exact forall_mem_text (fun c => Text.isBlank_of_isDigit) rfl rfl rfl rfl q

end SourceBook.Number
