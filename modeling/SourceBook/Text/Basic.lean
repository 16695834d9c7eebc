namespace SourceBook

/-- A text is the list of its characters in reading order, so a rule about text is a rule about
lists and is proved by induction on them. -/
abbrev Text := List Char

namespace Text

def after? : Text → Text → Option Text
  | [], text => some text
  | _ :: _, [] => none
  | m :: mark, c :: text => if m = c then after? mark text else none

def startsWith (mark text : Text) : Bool := (after? mark text).isSome

def includes (mark : Text) : Text → Bool
  | [] => mark.isEmpty
  | c :: text => startsWith mark (c :: text) || includes mark text

theorem after?_eq_some_iff {mark text rest : Text} :
    after? mark text = some rest ↔ text = mark ++ rest := by
  induction mark generalizing text with
  | nil => simp [after?]
  | cons m mark ih =>
    cases text with
    | nil => simp [after?]
    | cons c text =>
      by_cases h : m = c
      · simp [after?, h, ih]
      · simp [after?, h, Ne.symm h]

theorem startsWith_iff_isPrefix {mark text : Text} : startsWith mark text = true ↔ mark <+: text := by
  rw [startsWith, Option.isSome_iff_exists]
  constructor
  · rintro ⟨rest, h⟩
    exact ⟨rest, (after?_eq_some_iff.1 h).symm⟩
  · rintro ⟨rest, h⟩
    exact ⟨rest, after?_eq_some_iff.2 h.symm⟩

/-- A mark does not reach over a character that is not in it. -/
theorem startsWith_append_of_head? {mark next : Text} (h : ∀ c ∈ next.head?, c ∉ mark) (line : Text) :
    startsWith mark (line ++ next) = startsWith mark line := by
  induction mark generalizing line with
  | nil => rfl
  | cons m mark ih =>
    cases line with
    | cons c line =>
      have hbelow := ih (fun d hd hm => h d hd (List.mem_cons_of_mem m hm)) line
      simp only [startsWith, List.cons_append, after?] at hbelow ⊢
      split
      · exact hbelow
      · rfl
    | nil =>
      cases next with
      | nil => rfl
      | cons c next =>
        have hne : m ≠ c := fun he => h c rfl (he ▸ List.mem_cons_self)
        simp [startsWith, after?, hne]

def replaceChar (c : Char) (inserted text : Text) : Text :=
  text.flatMap fun d => if d = c then inserted else [d]

end Text

end SourceBook
