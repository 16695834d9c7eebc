import SourceBook.Comment.Rules
import SourceBook.Comment.Python
import SourceBook.Proofs.Text.Trim

namespace SourceBook.Comment

inductive Act where
  | pass (mode : Mode) (skip : Nat)
  | close (skip : Nat)
  | keep
  | stop

namespace Rules

variable (rules : Rules)

def next : Mode → Char → Mode
  | .code, c => if rules.quotes.elem c then .literal c false else .code
  | .literal quote escaped, c =>
    if escaped then .literal quote false
    else if c = '\\' ∧ rules.escapes quote then .literal quote true
    else if c = quote then .code
    else .literal quote false
  | .block, _ => .block

def startsMark (before rest : Text) : Bool :=
  Text.startsWith rules.opener rest || rules.startsTail before rest

def act : Mode → Nat → (before : Text) → Char → Text → Act
  | mode, skip + 1, _, _, _ => .pass mode skip
  | .block, 0, _, c, rest =>
    if Text.startsWith rules.closer (c :: rest) then .close (rules.closer.length - 1) else .pass .block 0
  | .literal _ _, 0, _, _, _ => .keep
  | .code, 0, before, c, rest =>
    if rules.quotes.elem c then .keep
    else if Text.startsWith rules.opener (c :: rest) then .pass .block (rules.opener.length - 1)
    else if rules.startsTail before (c :: rest) then .stop
    else .keep

theorem scan_cons (mode : Mode) (skip : Nat) (before kept : Text) (c : Char) (rest : Text) :
    rules.scan mode skip before kept (c :: rest) =
      match rules.act mode skip before c rest with
      | .pass mode skip => rules.scan mode skip (c :: before) kept rest
      | .close skip => rules.scan .code skip (c :: before) kept rest
      | .keep => rules.scan (rules.next mode c) 0 (c :: before) (c :: kept) rest
      | .stop => (kept.reverse, .code) := by
  cases skip with
  | succ skip => rw [scan, act]
  | zero =>
      cases mode with
      | literal quote escaped => rw [scan, act, next]
      | block =>
          rw [scan, act]
          split_ifs <;> rfl
      | code =>
          rw [scan, act, next]
          split_ifs <;> rfl

section

variable {rules} {mode mode' : Mode} {skip skip' : Nat} {before rest : Text} {c : Char}

theorem of_act_eq_pass (h : rules.act mode skip before c rest = .pass mode' skip') :
    (skip = skip' + 1 ∧ mode' = mode) ∨
      skip = 0 ∧ mode' = .block ∧
        (mode = .block ∨ mode = .code ∧ Text.startsWith rules.opener (c :: rest) = true) := by
  cases skip with
  | succ skip =>
      cases h
      exact .inl ⟨rfl, rfl⟩
  | zero =>
      cases mode with
      | literal quote escaped => cases h
      | block =>
          rw [act] at h
          split_ifs at h
          cases h
          exact .inr ⟨rfl, rfl, .inl rfl⟩
      | code =>
          rw [act] at h
          split_ifs at h with hq ho
          cases h
          exact .inr ⟨rfl, rfl, .inr ⟨rfl, ho⟩⟩

theorem of_act_eq_close (h : rules.act mode skip before c rest = .close skip') :
    skip = 0 ∧ mode = .block ∧ Text.startsWith rules.closer (c :: rest) = true ∧
      skip' = rules.closer.length - 1 := by
  cases skip with
  | succ skip => cases h
  | zero =>
      cases mode with
      | literal quote escaped => cases h
      | block =>
          rw [act] at h
          split_ifs at h with hc
          cases h
          exact ⟨rfl, rfl, hc, rfl⟩
      | code =>
          rw [act] at h
          split_ifs at h

theorem of_act_eq_keep (h : rules.act mode skip before c rest = .keep) :
    skip = 0 ∧ mode ≠ .block ∧
      (mode = .code → rules.quotes.elem c = false → rules.startsMark before (c :: rest) = false) := by
  cases skip with
  | succ skip => cases h
  | zero =>
      cases mode with
      | literal quote escaped => exact ⟨rfl, by simp, by simp⟩
      | block =>
          rw [act] at h
          split_ifs at h
      | code =>
          rw [act] at h
          refine ⟨rfl, by simp, fun _ hc => ?_⟩
          rw [startsMark]
          split_ifs at h <;> simp_all

end

theorem act_eq_keep_iff {mode : Mode} (h : mode ≠ .block) (before : Text) (c : Char) (rest : Text) :
    rules.act mode 0 before c rest = .keep ↔
      (mode = .code → rules.quotes.elem c = false → rules.startsMark before (c :: rest) = false) := by
  refine ⟨fun hk => (of_act_eq_keep hk).2.2, fun hk => ?_⟩
  cases mode with
  | literal quote escaped => rfl
  | block => exact absurd rfl h
  | code =>
      rw [startsMark] at hk
      rw [act]
      split_ifs <;> simp_all

theorem next_ne_block {mode : Mode} (h : mode ≠ .block) (c : Char) : rules.next mode c ≠ .block := by
  cases mode with
  | block => exact absurd rfl h
  | code | literal quote escaped =>
      rw [next]
      split_ifs <;> simp

variable (mode : Mode) (skip : Nat) (before : Text)

/-- What has been kept before stands in front of what is kept of the rest. -/
theorem scan_eq_append (kept line : Text) :
    rules.scan mode skip before kept line =
      (kept.reverse ++ (rules.scan mode skip before [] line).1, (rules.scan mode skip before [] line).2) := by
  induction line generalizing mode skip before kept with
  | nil => simp [scan]
  | cons c rest ih =>
      rw [scan_cons, scan_cons]
      cases rules.act mode skip before c rest with
      | pass mode skip => exact ih mode skip (c :: before) kept
      | close skip => exact ih .code skip (c :: before) kept
      | stop => simp
      | keep =>
          simp only
          rw [ih _ _ _ (c :: kept), ih _ _ _ [c]]
          simp

theorem scan_sublist (line : Text) : (rules.scan mode skip before [] line).1.Sublist line := by
  induction line generalizing mode skip before with
  | nil => exact List.Sublist.refl []
  | cons c rest ih =>
      rw [scan_cons]
      cases rules.act mode skip before c rest with
      | pass mode skip => exact (ih mode skip (c :: before)).cons c
      | close skip => exact (ih .code skip (c :: before)).cons c
      | stop => exact List.nil_sublist _
      | keep =>
          simp only
          rw [scan_eq_append]
          exact (ih (rules.next mode c) 0 (c :: before)).cons_cons c

end Rules

namespace Python

/-- The state behind a character; nothing where a comment starts. -/
def advance : Quote → Nat → Char → Text → Option (Quote × Nat)
  | quote, copy + 1, _, _ => some (quote, copy)
  | .none, 0, c, rest =>
    match opening (c :: rest) with
    | .none => if c = '#' then none else some (.none, 0)
    | quote => some (quote, (delimiter quote).length - 1)
  | quote, 0, c, rest =>
    if c = '\\' then some (quote, 1)
    else if Text.startsWith (delimiter quote) (c :: rest) then
      some (.none, (delimiter quote).length - 1)
    else some (quote, 0)

theorem scan_cons (quote : Quote) (copy : Nat) (kept : Text) (c : Char) (rest : Text) :
    scan quote copy kept (c :: rest) =
      match advance quote copy c rest with
      | some (quote, copy) => scan quote copy (c :: kept) rest
      | none => (kept.reverse, .none) := by
  cases copy with
  | succ copy => cases quote <;> rw [scan, advance]
  | zero =>
      cases quote with
      | none =>
          rw [scan, advance]
          cases opening (c :: rest) with
          | none => split_ifs <;> rfl
          | single | double | tripleSingle | tripleDouble => rfl
      | single | double | tripleSingle | tripleDouble =>
          rw [scan, advance]
          · split_ifs <;> rfl
          · simp
          · simp

theorem of_advance_eq_none {quote : Quote} {copy : Nat} {c : Char} {rest : Text}
    (h : advance quote copy c rest = none) : quote = .none ∧ copy = 0 ∧ c = '#' := by
  cases copy with
  | succ copy => cases quote <;> cases h
  | zero =>
      cases quote with
      | none =>
          rw [advance] at h
          split at h
          · split_ifs at h with hc
            exact ⟨rfl, rfl, hc⟩
          · cases h
      | single | double | tripleSingle | tripleDouble =>
          rw [advance] at h
          · split_ifs at h
          · simp

/-- What is kept is the line up to a number sign, or all of it. -/
theorem exists_scan (quote : Quote) (copy : Nat) (kept line : Text) :
    ∃ text tail, line = text ++ tail ∧ (∀ c ∈ tail.head?, c = '#') ∧
      (scan quote copy kept line).1 = kept.reverse ++ text := by
  induction line generalizing quote copy kept with
  | nil => exact ⟨[], [], rfl, by simp, by simp [scan]⟩
  | cons c rest ih =>
      rw [scan_cons]
      cases hadvance : advance quote copy c rest with
      | none =>
          obtain ⟨-, -, rfl⟩ := of_advance_eq_none hadvance
          exact ⟨[], '#' :: rest, rfl, by simp, by simp⟩
      | some state =>
          obtain ⟨text, tail, rfl, htail, htext⟩ := ih state.1 state.2 (c :: kept)
          exact ⟨c :: text, tail, rfl, htail, by simp [htext]⟩

end Python

end SourceBook.Comment
