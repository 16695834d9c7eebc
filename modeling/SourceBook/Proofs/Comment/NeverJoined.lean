import SourceBook.Proofs.Comment.Runs

namespace SourceBook.Comment

theorem eq_of_pair_isPrefix {a b : Char} {mark right : Text} (hne : mark ≠ [])
    (hin : [a, b] <+: mark ++ right) (hout : ¬ [a, b] <+: mark) : mark = [a] ∧ right.head? = some b := by
  obtain ⟨c, tail, rfl⟩ := List.exists_cons_of_ne_nil hne
  rw [List.cons_append, List.cons_prefix_cons] at hin
  rw [List.cons_prefix_cons, not_and] at hout
  obtain ⟨rfl, hin⟩ := hin
  cases tail with
  | nil =>
      obtain ⟨rest, rfl⟩ := hin
      exact ⟨rfl, rfl⟩
  | cons d tail =>
      rw [List.cons_append, List.cons_prefix_cons] at hin
      exact absurd (List.cons_prefix_cons.2 ⟨hin.1, List.nil_prefix⟩) (hout rfl)

/-- A slash that is kept stands before no comment: a block comment behind it would have made the two a line
comment. -/
theorem getLast?_runs_curly (mode : Mode) (skip : Nat) (before run line : Text)
    (hcode : mode = .code → run.head? = some '/' → skip = 0 ∧ line.head? ≠ some '/')
    (hblock : mode = .block → run.head? ≠ some '/')
    (hquote : ∀ quote escaped, mode = .literal quote escaped → quote ∈ curly.quotes) :
    ∀ text ∈ (curly.runs mode skip before run line).dropLast, text.getLast? ≠ some '/' := by
  induction line generalizing mode skip before run with
  | nil => simp [Rules.runs]
  | cons c rest ih =>
      rw [Rules.runs]
      cases hact : curly.act mode skip before c rest with
      | stop => simp
      | pass mode' skip' =>
          obtain ⟨rfl, rfl⟩ | ⟨-, rfl, hmode⟩ := Rules.of_act_eq_pass hact
          · refine ih mode' skip' _ run (fun hm hrun => ?_) hblock hquote
            exact absurd (hcode hm hrun).1 (Nat.succ_ne_zero skip')
          · refine ih .block skip' _ run (by simp) (fun _ => ?_) (by simp)
            rcases hmode with rfl | ⟨rfl, hopen⟩
            · exact hblock rfl
            · intro hrun
              obtain ⟨tail, htail⟩ := Text.startsWith_iff_isPrefix.1 hopen
              obtain ⟨rfl, -⟩ := List.cons.inj htail
              exact (hcode rfl hrun).2 rfl
      | close skip' =>
          obtain ⟨-, rfl, -⟩ := Rules.of_act_eq_close hact
          have hne := curly.runs_ne_nil .code skip' (c :: before) [] rest
          simp only
          rw [List.dropLast_cons_of_ne_nil hne, List.forall_mem_cons, List.getLast?_reverse]
          exact ⟨hblock rfl, ih .code skip' _ [] (by simp) (by simp) (by simp)⟩
      | keep =>
          obtain ⟨rfl, hm, hmark⟩ := Rules.of_act_eq_keep hact
          refine ih _ _ _ _ (fun hnext hc => ⟨rfl, fun hd => ?_⟩) ?_ (Rules.quote_mem_of_next hquote)
          · obtain rfl : c = '/' := by simpa using hc
            obtain ⟨tail, rfl⟩ := List.head?_eq_some_iff.1 hd
            cases mode with
            | block => exact hm rfl
            | code =>
                have hbare := hmark rfl (by decide)
                simp [Rules.startsMark, curly, Text.startsWith, Text.after?] at hbare
            | literal quote escaped =>
                rw [Rules.next] at hnext
                split_ifs at hnext with _ _ he
                exact absurd (he ▸ hquote quote escaped rfl) (by decide)
          · exact fun hnext => absurd hnext (Rules.next_ne_block curly hm c)

theorem not_joins_curly (mode : Mode) (hm : mode.outside = .code) (line : Text) :
    ¬ curly.Joins (curly.runs mode 0 [] [] line) := by
  rintro ⟨left, right, hruns, hj⟩
  obtain ⟨front, mark, whole, hleft, hne, hwhole, -, hout, hin, -⟩ :=
    Signs.exists_mark_of_joinsMark describes_curly hj
  obtain ⟨rfl, hhead⟩ : mark = ['/'] ∧ right.flatten ≠ [] := by
    obtain ⟨b, rfl⟩ : ∃ b, whole = ['/', b] := by
      rcases List.mem_pair.1 hwhole with rfl | rfl <;> exact ⟨_, rfl⟩
    obtain ⟨hmark, hhead⟩ := eq_of_pair_isPrefix hne hin hout
    exact ⟨hmark, fun hnil => by simp [hnil] at hhead⟩
  have hright : right ≠ [] := by
    rintro rfl
    exact hhead rfl
  have hlast : left.flatten.getLast? = some '/' := by simp [hleft]
  rw [List.getLast?_flatten] at hlast
  obtain ⟨text, htext, hslash⟩ := List.exists_of_findSome?_eq_some hlast
  have hmem : text ∈ (curly.runs mode 0 [] [] line).dropLast := by
    rw [hruns, List.dropLast_append_of_ne_nil hright]
    exact List.mem_append_left _ (List.mem_reverse.1 htext)
  refine getLast?_runs_curly mode 0 [] [] line (by simp) (by simp) ?_ text hmem hslash
  rintro quote escaped rfl
  cases hm

/-- No run begins with a number sign: it would have started a line comment. -/
theorem head?_runs_powerShell (mode : Mode) (skip : Nat) (before run line : Text)
    (hnil : run = [] → mode ≠ .block →
      mode = .code ∧ ((line.take skip).reverse ++ before).head? ≠ some '[')
    (hrun : run.getLast? ≠ some '#') :
    ∀ text ∈ powerShell.runs mode skip before run line, text.head? ≠ some '#' := by
  induction line generalizing mode skip before run with
  | nil => simpa [Rules.runs] using hrun
  | cons c rest ih =>
      rw [Rules.runs]
      cases hact : powerShell.act mode skip before c rest with
      | stop => simpa using hrun
      | pass mode' skip' =>
          refine ih mode' skip' _ run (fun hr hm => ?_) hrun
          obtain ⟨rfl, rfl⟩ | ⟨-, rfl, -⟩ := Rules.of_act_eq_pass hact
          · simpa using hnil hr hm
          · exact absurd rfl hm
      | close skip' =>
          refine List.forall_mem_cons.2
            ⟨by simpa using hrun, ih .code skip' _ [] (fun _ _ => ⟨rfl, ?_⟩) (by simp)⟩
          rw [Rules.reverse_take_closer hact (by decide)]
          simp [powerShell]
      | keep =>
          obtain ⟨rfl, hm, hmark⟩ := Rules.of_act_eq_keep hact
          refine ih _ 0 _ (c :: run) (by simp) ?_
          cases run with
          | cons d run => rwa [List.getLast?_cons_cons]
          | nil =>
              obtain ⟨rfl, hbefore⟩ := hnil rfl hm
              simp only [List.getLast?_singleton, ne_eq, Option.some.injEq]
              rintro rfl
              have hbare := hmark rfl (by decide)
              have hopen : powerShell.startsMark before ('#' :: rest) = !Text.startsWith ['['] before := rfl
              rw [hopen, Bool.not_eq_false', Text.startsWith_iff_isPrefix] at hbare
              obtain ⟨far, rfl⟩ := hbare
              exact hbefore rfl

theorem not_joins_powerShell (mode : Mode) (hm : mode.outside = .code) (line : Text) :
    ¬ powerShell.Joins (powerShell.runs mode 0 [] [] line) := by
  rintro ⟨left, right, hruns, hj⟩
  obtain ⟨front, mark, whole, -, hne, hwhole, hbegin, hout, hin, -⟩ :=
    Signs.exists_mark_of_joinsMark describes_powerShell hj
  have hhead : right.flatten.head? = some '#' := by
    rcases List.mem_pair.1 hwhole with rfl | rfl
    · exact (eq_of_pair_isPrefix hne hin hout).2
    · -- A mark of one character has no beginning but itself.
      have hwhole := hbegin.eq_of_length_le (List.length_pos_iff.2 hne)
      exact absurd (hwhole ▸ List.prefix_refl mark) hout
  rw [List.head?_flatten] at hhead
  obtain ⟨text, htext, hsign⟩ := List.exists_of_findSome?_eq_some hhead
  have hmem : text ∈ powerShell.runs mode 0 [] [] line := by
    rw [hruns]
    exact List.mem_append_right left htext
  refine head?_runs_powerShell mode 0 [] [] line (fun _ hb => ⟨?_, by simp⟩) (by simp) text hmem hsign
  rw [← hm, Mode.outside_of_ne hb]

end SourceBook.Comment
