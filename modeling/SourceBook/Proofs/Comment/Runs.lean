import SourceBook.Proofs.Comment.Steps
import SourceBook.Proofs.Comment.Automaton
import SourceBook.Proofs.Comment.OnePass

namespace SourceBook.Comment

namespace Rules

variable (rules : Rules)

/-- The pieces of a line that are kept. `run` is what has been kept since the last cut, nearest first. -/
def runs : Mode → Nat → (before run : Text) → Text → List Text
  | _, _, _, run, [] => [run.reverse]
  | mode, skip, before, run, c :: rest =>
    match rules.act mode skip before c rest with
    | .pass mode skip => runs mode skip (c :: before) run rest
    | .close skip => run.reverse :: runs .code skip (c :: before) [] rest
    | .keep => runs (rules.next mode c) 0 (c :: before) (c :: run) rest
    | .stop => [run.reverse]

/-- A comment mark begins in `left`, and only `right` completes it. -/
def JoinsMark (left right : Text) : Prop :=
  ∃ front mark, left = front ++ mark ∧ mark ≠ [] ∧ rules.startsMark front.reverse mark = false ∧
    rules.startsMark front.reverse (mark ++ right) = true

/-- A mark is put together where two runs meet. -/
def Joins (runs : List Text) : Prop :=
  ∃ left right, runs = left ++ right ∧ rules.JoinsMark left.flatten right.flatten

def Unmarked : Mode → (before : Text) → Text → Prop
  | _, _, [] => True
  | mode, before, c :: rest =>
    (mode = .code → rules.quotes.elem c = false → rules.startsMark before (c :: rest) = false) ∧
      Unmarked (rules.next mode c) (c :: before) rest

def after (mode : Mode) (text : Text) : Mode := text.foldl rules.next mode

theorem flatten_runs (mode : Mode) (skip : Nat) (before run line : Text) :
    (rules.runs mode skip before run line).flatten =
      run.reverse ++ (rules.scan mode skip before [] line).1 := by
  induction line generalizing mode skip before run with
  | nil => simp [runs, scan]
  | cons c rest ih =>
      rw [runs, scan_cons]
      cases rules.act mode skip before c rest with
      | pass mode skip => exact ih mode skip (c :: before) run
      | close skip => simp [ih]
      | stop => simp
      | keep =>
          simp only [ih]
          rw [scan_eq_append _ _ _ _ [c]]
          simp

theorem runs_ne_nil (mode : Mode) (skip : Nat) (before run line : Text) :
    rules.runs mode skip before run line ≠ [] := by
  induction line generalizing mode skip before run with
  | nil => exact List.cons_ne_nil _ _
  | cons c rest ih =>
      rw [runs]
      cases rules.act mode skip before c rest with
      | pass mode skip => exact ih mode skip (c :: before) run
      | close skip => exact List.cons_ne_nil _ _
      | stop => exact List.cons_ne_nil _ _
      | keep => exact ih _ 0 (c :: before) (c :: run)

theorem exists_runs_block (skip : Nat) (before run line : Text) :
    ∃ others, rules.runs .block skip before run line = run.reverse :: others := by
  induction line generalizing skip before with
  | nil => exact ⟨[], rfl⟩
  | cons c rest ih =>
      rw [runs]
      cases hact : rules.act .block skip before c rest with
      | pass mode skip =>
          obtain ⟨-, rfl⟩ | ⟨-, rfl, -⟩ := of_act_eq_pass hact
          · exact ih skip (c :: before)
          · exact ih skip (c :: before)
      | close skip => exact ⟨_, rfl⟩
      | stop => exact ⟨[], rfl⟩
      | keep => exact absurd rfl (of_act_eq_keep hact).2.1

/-- Up to the next comment the characters of a line are kept. -/
theorem exists_runs {mode : Mode} (h : mode ≠ .block) (before run line : Text) :
    ∃ first others, rules.runs mode 0 before run line = (run.reverse ++ first) :: others ∧
      first <+: line := by
  induction line generalizing mode before run with
  | nil => exact ⟨[], [], by simp [runs], List.prefix_refl []⟩
  | cons c rest ih =>
      rw [runs]
      cases hact : rules.act mode 0 before c rest with
      | pass mode skip =>
          obtain ⟨hskip, -⟩ | ⟨-, rfl, -⟩ := of_act_eq_pass hact
          · exact absurd hskip (by simp)
          · obtain ⟨others, hothers⟩ := rules.exists_runs_block skip (c :: before) run rest
            exact ⟨[], others, by simp [hothers], List.nil_prefix⟩
      | close skip => exact absurd (of_act_eq_close hact).2.1 h
      | stop => exact ⟨[], [], by simp, List.nil_prefix⟩
      | keep =>
          obtain ⟨first, others, hruns, hpre⟩ := ih (next_ne_block rules h c) (c :: before) (c :: run)
          exact ⟨c :: first, others, by simp [hruns], List.cons_prefix_cons.2 ⟨rfl, hpre⟩⟩

/-- Since the last cut all that has been read has been kept. -/
def Tracks (before run : Text) : Prop :=
  ∃ far, before = run ++ far ∧ (far = [] ∨ rules.closer.reverse <+: far)

variable {rules} {mode mode' : Mode} {skip skip' : Nat} {before run rest : Text} {c : Char}

theorem Tracks.cons (h : rules.Tracks before run) (c : Char) : rules.Tracks (c :: before) (c :: run) := by
  obtain ⟨far, rfl, hfar⟩ := h
  exact ⟨far, rfl, hfar⟩

theorem Tracks.pass (hact : rules.act mode skip before c rest = .pass mode' skip') (hm : mode' ≠ .block)
    (h : rules.Tracks (((c :: rest).take skip).reverse ++ before) run) :
    rules.Tracks ((rest.take skip').reverse ++ c :: before) run := by
  obtain ⟨rfl, -⟩ | ⟨-, hblock, -⟩ := of_act_eq_pass hact
  · simpa using h
  · exact absurd hblock hm

theorem reverse_take_closer (hact : rules.act mode skip before c rest = .close skip')
    (hc : rules.closer ≠ []) :
    (rest.take skip').reverse ++ c :: before = rules.closer.reverse ++ before := by
  obtain ⟨-, -, hcloser, rfl⟩ := of_act_eq_close hact
  obtain ⟨tail, htail⟩ := Text.startsWith_iff_isPrefix.1 hcloser
  obtain ⟨d, closer, hd⟩ := List.exists_cons_of_ne_nil hc
  rw [hd, List.cons_append] at htail
  obtain ⟨rfl, rfl⟩ := List.cons.inj htail
  simp [hd]

theorem Tracks.close (hact : rules.act mode skip before c rest = .close skip') (hc : rules.closer ≠ []) :
    rules.Tracks ((rest.take skip').reverse ++ c :: before) [] := by
  rw [reverse_take_closer hact hc]
  exact ⟨_, rfl, .inr (List.prefix_append _ _)⟩

end Rules

namespace Signs

def marks (s : Signs) : List Text := s.opener :: s.tail.toList

/-- The marks keep clear of quotes and of blanks, and what shields from a line comment does not overlap
the end of a block comment. -/
structure Apart (s : Signs) : Prop where
  marks : ∀ mark ∈ s.marks, mark ≠ [] ∧ ∀ c ∈ mark, c ∉ s.quotes ∧ Text.isBlank c = false
  closer : s.closer ≠ []
  shield : ∀ shield ∈ s.shield, ∀ far ∈ shield.reverse.tails, far ≠ [] →
    ¬ far <+: s.closer.reverse ∧ ¬ s.closer.reverse <+: far

variable {s : Signs} {rules : Rules} (h : s.Describes rules)

include h

theorem startsMark_iff (before rest : Text) :
    rules.startsMark before rest = true ↔
      s.opener <+: rest ∨
        (∃ mark ∈ s.tail, mark <+: rest) ∧ ∀ shield ∈ s.shield, ¬ shield.reverse <+: before := by
  have hno : (!s.shield.any fun shield => Text.startsWith shield.reverse before) = true ↔
      ∀ shield ∈ s.shield, ¬ shield.reverse <+: before := by
    cases s.shield <;> simp [← Text.startsWith_iff_isPrefix]
  have hmark : (s.tail.any fun mark => Text.startsWith mark rest) = true ↔
      ∃ mark ∈ s.tail, mark <+: rest := by
    cases s.tail <;> simp [← Text.startsWith_iff_isPrefix]
  rw [Rules.startsMark, Bool.or_eq_true, h.opener, h.startsTail, startsTail, Bool.and_eq_true, hno, hmark,
    Text.startsWith_iff_isPrefix]

theorem exists_mark {before rest : Text} (hm : rules.startsMark before rest = true) :
    ∃ mark ∈ s.marks, mark <+: rest ∧ ∀ other, mark <+: other → rules.startsMark before other = true := by
  rcases (startsMark_iff h before rest).1 hm with ho | ⟨⟨mark, hmem, hpre⟩, hshield⟩
  · exact ⟨s.opener, by simp [marks], ho, fun other hp => (startsMark_iff h before other).2 (.inl hp)⟩
  · exact ⟨mark, by simp [marks, Option.mem_toList.2 hmem], hpre,
      fun other hp => (startsMark_iff h before other).2 (.inr ⟨⟨mark, hmem, hp⟩, hshield⟩)⟩

/-- The beginning of a mark stands in front of the cut, and the mark goes on behind it. -/
theorem exists_mark_of_joinsMark {left right : Text} (hj : rules.JoinsMark left right) :
    ∃ front mark whole, left = front ++ mark ∧ mark ≠ [] ∧ whole ∈ s.marks ∧ mark <+: whole ∧
      ¬ whole <+: mark ∧ whole <+: mark ++ right ∧
      rules.startsMark front.reverse (mark ++ right) = true := by
  obtain ⟨front, mark, hleft, hne, hbare, hstart⟩ := hj
  obtain ⟨whole, hwhole, hin, hall⟩ := exists_mark h hstart
  have hout : ¬ whole <+: mark := fun hp => by
    rw [hall mark hp] at hbare
    exact absurd hbare (by decide)
  have hbegin := (List.prefix_or_prefix_of_prefix hin (List.prefix_append mark right)).resolve_left hout
  exact ⟨front, mark, whole, hleft, hne, hwhole, hbegin, hout, hin, hstart⟩

variable (ha : s.Apart)

include ha

theorem startsMark_append_of_blank {blank : Text} (hb : ∀ c ∈ blank, Text.isBlank c = true)
    (before rest : Text) : rules.startsMark before (rest ++ blank) = rules.startsMark before rest := by
  have hmark : ∀ mark ∈ s.marks, mark <+: rest ++ blank → mark <+: rest := by
    intro mark hmem hpre
    rw [← Text.startsWith_iff_isPrefix] at hpre ⊢
    rwa [Text.startsWith_append_of_head?] at hpre
    intro c hc hcm
    have hvisible := ((ha.marks mark hmem).2 c hcm).2
    rw [hb c (List.mem_of_mem_head? hc)] at hvisible
    exact absurd hvisible (by decide)
  rw [Bool.eq_iff_iff]
  constructor
  · intro hm
    obtain ⟨mark, hmem, hpre, hall⟩ := exists_mark h hm
    exact hall rest (hmark mark hmem hpre)
  · intro hm
    obtain ⟨mark, -, hpre, hall⟩ := exists_mark h hm
    exact hall _ (hpre.trans (List.prefix_append rest blank))

/-- What is shielded in the line is shielded in what is kept of it. -/
theorem startsMark_run {before run first rest : Text} (ht : rules.Tracks before run)
    (hf : first <+: rest) (hm : rules.startsMark before rest = false) (done : Text) :
    rules.startsMark (run ++ done) first = false := by
  rw [Bool.eq_false_iff] at hm ⊢
  refine fun hstart => hm ((startsMark_iff h before rest).2 ?_)
  rcases (startsMark_iff h _ first).1 hstart with ho | ⟨⟨mark, hmem, hpre⟩, hshield⟩
  · exact .inl (ho.trans hf)
  · refine .inr ⟨⟨mark, hmem, hpre.trans hf⟩, fun shield hs hbefore => ?_⟩
    obtain ⟨far, rfl, hfar⟩ := ht
    -- The shield stands in the run, or its far end meets the end of a block comment.
    rcases List.prefix_or_prefix_of_prefix hbefore (List.prefix_append run far) with hin | ⟨span, hspan⟩
    · exact hshield shield hs (hin.trans (List.prefix_append run done))
    · rw [← hspan, List.prefix_append_right_inj] at hbefore
      by_cases hnil : span = []
      · rw [hnil, List.append_nil] at hspan
        exact hshield shield hs (hspan ▸ List.prefix_append run done)
      · obtain ⟨hleft, hright⟩ := ha.shield shield hs span ((List.mem_tails _ _).2 ⟨run, hspan⟩) hnil
        rw [h.closer] at hfar
        rcases hfar with rfl | hfar
        · exact hnil (List.prefix_nil.1 hbefore)
        · exact (List.prefix_or_prefix_of_prefix hbefore hfar).elim hleft hright

end Signs

def Mode.outside : Mode → Mode
  | .block => .code
  | .code => .code
  | .literal quote escaped => .literal quote escaped

theorem Mode.outside_of_ne {mode : Mode} (h : mode ≠ .block) : mode.outside = mode := by
  cases mode with
  | block => exact absurd rfl h
  | code | literal quote escaped => rfl

namespace Rules

variable {rules : Rules}

theorem outside_of_act_eq_pass {mode mode' : Mode} {skip skip' : Nat} {before rest : Text} {c : Char}
    (h : rules.act mode skip before c rest = .pass mode' skip') : mode'.outside = mode.outside := by
  obtain ⟨-, rfl⟩ | ⟨-, rfl, rfl | ⟨rfl, -⟩⟩ := of_act_eq_pass h <;> rfl

theorem after_append (mode : Mode) (a b : Text) :
    rules.after mode (a ++ b) = rules.after (rules.after mode a) b :=
  List.foldl_append

theorem after_ne_block {mode : Mode} (h : mode ≠ .block) (text : Text) : rules.after mode text ≠ .block := by
  induction text generalizing mode with
  | nil => exact h
  | cons c rest ih => exact ih (next_ne_block rules h c)

theorem scan_of_unmarked {mode : Mode} {before text : Text} (hm : mode ≠ .block)
    (h : rules.Unmarked mode before text) :
    rules.scan mode 0 before [] text = (text, rules.after mode text) := by
  induction text generalizing mode before with
  | nil => rfl
  | cons c rest ih =>
      rw [Unmarked] at h
      rw [scan_cons, (act_eq_keep_iff rules hm before c rest).2 h.1]
      simp only
      rw [scan_eq_append, ih (next_ne_block rules hm c) h.2]
      rfl

theorem unmarked_of_scan {mode : Mode} {before text : Text} (hm : mode ≠ .block)
    (h : (rules.scan mode 0 before [] text).1 = text) : rules.Unmarked mode before text := by
  induction text generalizing mode before with
  | nil => trivial
  | cons c rest ih =>
      have hshorter {mode' : Mode} {skip : Nat}
          (heq : (rules.scan mode' skip (c :: before) [] rest).1 = c :: rest) : False := by
        have hlength := (rules.scan_sublist mode' skip (c :: before) rest).length_le
        rw [heq, List.length_cons] at hlength
        omega
      rw [scan_cons] at h
      cases hact : rules.act mode 0 before c rest with
      | pass mode skip => rw [hact] at h; exact (hshorter h).elim
      | close skip => rw [hact] at h; exact (hshorter h).elim
      | stop => rw [hact] at h; exact absurd h (by simp)
      | keep =>
          rw [hact] at h
          simp only at h
          rw [scan_eq_append] at h
          refine ⟨(act_eq_keep_iff rules hm before c rest).1 hact, ih (next_ne_block rules hm c) ?_⟩
          exact (List.cons.inj h).2

theorem Unmarked.behind {mode : Mode} {before a b : Text} (h : rules.Unmarked mode before (a ++ b)) :
    rules.Unmarked (rules.after mode a) (a.reverse ++ before) b := by
  induction a generalizing mode before with
  | nil => exact h
  | cons c a ih =>
      have hbehind := ih h.2
      rwa [List.reverse_cons, List.append_assoc, List.singleton_append]

end Rules

namespace Signs

variable {s : Signs} {rules : Rules} (h : s.Describes rules) (ha : s.Apart)

include h ha

theorem startsMark_of_blank {blank : Text} (hb : ∀ c ∈ blank, Text.isBlank c = true) (before : Text) :
    rules.startsMark before blank = false := by
  rw [← List.nil_append blank, startsMark_append_of_blank h ha hb, Bool.eq_false_iff]
  intro hm
  obtain ⟨mark, hmem, hpre, -⟩ := exists_mark h hm
  exact (ha.marks mark hmem).1 (List.prefix_nil.1 hpre)

theorem unmarked_append_of_blank {blank : Text} (hb : ∀ c ∈ blank, Text.isBlank c = true) (mode : Mode)
    (before text : Text) :
    rules.Unmarked mode before (text ++ blank) ↔ rules.Unmarked mode before text := by
  induction text generalizing mode before with
  | nil =>
      refine iff_of_true ?_ trivial
      rw [List.nil_append]
      induction blank generalizing mode before with
      | nil => trivial
      | cons c blank ih =>
          exact ⟨fun _ _ => startsMark_of_blank h ha hb before, ih (List.forall_mem_cons.1 hb).2 _ _⟩
  | cons c text ih =>
      rw [List.cons_append, Rules.Unmarked, Rules.Unmarked, ← List.cons_append,
        startsMark_append_of_blank h ha hb, ih]

end Signs

namespace Rules

variable {rules : Rules}

theorem quote_mem_of_next {mode : Mode}
    (hm : ∀ quote escaped, mode = .literal quote escaped → quote ∈ rules.quotes) {c : Char} :
    ∀ quote escaped, rules.next mode c = .literal quote escaped → quote ∈ rules.quotes := by
  intro quote escaped hnext
  cases mode with
  | block => cases hnext
  | code =>
      rw [next] at hnext
      split_ifs at hnext with hc
      cases hnext
      exact List.elem_iff.1 hc
  | literal opened taken =>
      apply hm quote taken
      rw [next] at hnext
      split_ifs at hnext <;> cases hnext <;> rfl

theorem quote_mem_of_after {mode : Mode}
    (hm : ∀ quote escaped, mode = .literal quote escaped → quote ∈ rules.quotes) {text : Text} :
    ∀ quote escaped, rules.after mode text = .literal quote escaped → quote ∈ rules.quotes := by
  induction text generalizing mode with
  | nil => exact hm
  | cons c text ih => exact ih (quote_mem_of_next hm)

theorem exists_after_literal {quote : Char} (hq : quote ∈ rules.quotes) {text : Text}
    (ht : ∀ c ∈ text, c ∉ rules.quotes) (escaped : Bool) :
    ∃ escaped', rules.after (.literal quote escaped) text = .literal quote escaped' := by
  induction text generalizing escaped with
  | nil => exact ⟨escaped, rfl⟩
  | cons c text ih =>
      obtain ⟨hc, ht⟩ := List.forall_mem_cons.1 ht
      have hne : c ≠ quote := fun he => hc (he ▸ hq)
      obtain ⟨escaped', hnext⟩ :
          ∃ escaped', rules.next (.literal quote escaped) c = .literal quote escaped' := by
        rw [next]
        split_ifs <;> exact ⟨_, rfl⟩
      rw [after, List.foldl_cons, hnext]
      exact ih ht escaped'

/-- What stands in front of a cut has left the reader in code. -/
theorem after_left (mode : Mode) (skip : Nat) (before run line done : Text)
    (hm : rules.after .code (done ++ run.reverse) = mode.outside) {left right : List Text}
    (hr : rules.runs mode skip before run line = left ++ right) (hleft : left ≠ []) (hright : right ≠ []) :
    rules.after .code (done ++ left.flatten) = .code := by
  have hone {text : Text} {left : List Text} (hl : left ≠ []) (he : [text] = left ++ right) : False := by
    rcases List.append_eq_singleton_iff.1 he.symm with ⟨hnil, -⟩ | ⟨-, hnil⟩
    · exact hl hnil
    · exact hright hnil
  induction line generalizing mode skip before run done left with
  | nil => exact (hone hleft hr).elim
  | cons c rest ih =>
      rw [runs] at hr
      cases hact : rules.act mode skip before c rest with
      | stop => rw [hact] at hr; exact (hone hleft hr).elim
      | pass mode' skip' =>
          rw [hact] at hr
          exact ih _ _ _ _ done (hm.trans (outside_of_act_eq_pass hact).symm) hr hleft
      | close skip' =>
          rw [hact] at hr
          obtain ⟨-, rfl, -⟩ := of_act_eq_close hact
          obtain ⟨first, left, rfl⟩ := List.exists_cons_of_ne_nil hleft
          obtain ⟨rfl, hbehind⟩ := List.cons.inj hr
          rw [List.flatten_cons, ← List.append_assoc]
          by_cases hl : left = []
          · rw [hl, List.flatten_nil, List.append_nil]
            exact hm
          · exact ih _ _ _ [] (done ++ run.reverse) (by rw [List.reverse_nil, List.append_nil]; exact hm)
              hbehind hl
      | keep =>
          rw [hact] at hr
          obtain ⟨-, hblock, -⟩ := of_act_eq_keep hact
          refine ih _ _ _ _ done ?_ hr hleft
          rw [List.reverse_cons, ← List.append_assoc, after_append, hm, Mode.outside_of_ne hblock,
            Mode.outside_of_ne (next_ne_block rules hblock c)]
          rfl

end Rules

namespace Signs

variable {s : Signs} {rules : Rules} (h : s.Describes rules) (ha : s.Apart)

include h ha

theorem not_joinsMark {left right : Text} (hleft : rules.after .code left = .code)
    (hu : rules.Unmarked .code [] (left ++ right)) : ¬ rules.JoinsMark left right := by
  intro hj
  obtain ⟨front, mark, whole, rfl, hne, hwhole, hbegin, -, -, hstart⟩ := exists_mark_of_joinsMark h hj
  rw [List.append_assoc] at hu
  rw [Rules.after_append] at hleft
  have hbehind := hu.behind
  rw [List.append_nil] at hbehind
  -- What stands in front of the cut is the beginning of a mark, so there is no quote in it.
  have hquotes : ∀ c ∈ mark, c ∉ rules.quotes := by
    intro c hc
    rw [h.quotes]
    exact ((ha.marks whole hwhole).2 c (hbegin.subset hc)).1
  cases hmode : rules.after .code front with
  | block => exact Rules.after_ne_block (by simp) front hmode
  | code =>
      obtain ⟨c, tail, rfl⟩ := List.exists_cons_of_ne_nil hne
      rw [hmode, List.cons_append, Rules.Unmarked] at hbehind
      have hc : rules.quotes.elem c = false := by
        rw [← Bool.not_eq_true, List.elem_iff]
        exact hquotes c List.mem_cons_self
      rw [List.cons_append, hbehind.1 rfl hc] at hstart
      exact absurd hstart (by decide)
  | literal quote escaped =>
      have hq := Rules.quote_mem_of_after (by simp) quote escaped hmode
      obtain ⟨escaped', hafter⟩ := Rules.exists_after_literal hq hquotes escaped
      rw [hmode, hafter] at hleft
      exact absurd hleft (by simp)

/-- Where no mark is put together at a cut to come, no comment starts in what is kept from here on. -/
theorem unmarked_scan (mode : Mode) (skip : Nat) (before run line done : Text)
    (ht : mode ≠ .block → rules.Tracks ((line.take skip).reverse ++ before) run)
    (hj : ∀ left right, rules.runs mode skip before run line = left ++ right → left ≠ [] →
      ¬ rules.JoinsMark (done ++ left.flatten) right.flatten) :
    rules.Unmarked mode.outside (run ++ done.reverse) (rules.scan mode skip before [] line).1 := by
  -- `done` is what the runs in front of the last cut hold; at every cut it takes in the run that ends there.
  induction line generalizing mode skip before run done with
  | nil => trivial
  | cons c rest ih =>
      rw [Rules.scan_cons]
      rw [Rules.runs] at hj
      cases hact : rules.act mode skip before c rest with
      | stop => trivial
      | pass mode' skip' =>
          rw [hact] at hj
          rw [← Rules.outside_of_act_eq_pass hact]
          refine ih _ _ _ _ done (fun hm => Rules.Tracks.pass hact hm (ht fun hblock => ?_)) hj
          subst hblock
          obtain ⟨-, rfl⟩ | ⟨-, rfl, -⟩ := Rules.of_act_eq_pass hact <;> exact hm rfl
      | close skip' =>
          rw [hact] at hj
          obtain ⟨-, rfl, -⟩ := Rules.of_act_eq_close hact
          have hcloser : rules.closer ≠ [] := h.closer ▸ ha.closer
          have hrest := ih .code skip' (c :: before) [] (done ++ run.reverse)
            (fun _ => Rules.Tracks.close hact hcloser) fun left right hr _ => by
              have hcut := hj (run.reverse :: left) right (by simp only [hr, List.cons_append])
                (List.cons_ne_nil _ _)
              rwa [List.flatten_cons, ← List.append_assoc] at hcut
          rw [List.nil_append, List.reverse_append, List.reverse_reverse] at hrest
          exact hrest
      | keep =>
          rw [hact] at hj
          obtain ⟨rfl, hblock, hmark⟩ := Rules.of_act_eq_keep hact
          have hnext := Rules.next_ne_block rules hblock c
          obtain ⟨first, others, hruns, hpre⟩ := rules.exists_runs hnext (c :: before) (c :: run) rest
          have hflatten := rules.flatten_runs (rules.next mode c) 0 (c :: before) (c :: run) rest
          rw [hruns, List.flatten_cons, List.append_assoc, List.append_cancel_left_eq] at hflatten
          simp only
          rw [Rules.scan_eq_append, ← hflatten, Mode.outside_of_ne hblock]
          refine ⟨fun hcode hq => ?_, ?_⟩
          · have hbare := startsMark_run h ha (ht hblock) (List.cons_prefix_cons.2 ⟨rfl, hpre⟩)
              (hmark hcode hq) done.reverse
            rw [← Bool.not_eq_true]
            intro hstart
            apply hj [(c :: run).reverse ++ first] others hruns (List.cons_ne_nil _ _)
            exact ⟨done ++ run.reverse, c :: first, by simp, List.cons_ne_nil _ _, by simpa using hbare,
              by simpa using hstart⟩
          · have hrest := ih _ _ _ _ done (fun _ => (ht hblock).cons c) hj
            rwa [← hflatten, Mode.outside_of_ne hnext] at hrest

/-- A line without its block comments holds a comment exactly if a mark is put together at a cut. -/
theorem unmarked_flatten_runs_iff (mode : Mode) (hm : mode.outside = .code) (line : Text) :
    rules.Unmarked .code [] (rules.runs mode 0 [] [] line).flatten ↔
      ¬ rules.Joins (rules.runs mode 0 [] [] line) := by
  constructor
  · rintro hu ⟨left, right, hr, hjoin⟩
    have hleft : left ≠ [] := by
      rintro rfl
      obtain ⟨front, mark, hnil, hne, -⟩ := hjoin
      exact hne (List.append_eq_nil_iff.1 hnil.symm).2
    have hright : right ≠ [] := by
      rintro rfl
      obtain ⟨front, mark, -, -, hbare, hstart⟩ := hjoin
      rw [List.flatten_nil, List.append_nil, hbare] at hstart
      exact absurd hstart (by decide)
    rw [hr, List.flatten_append] at hu
    exact not_joinsMark h ha (Rules.after_left mode 0 [] [] line [] hm.symm hr hleft hright) hu hjoin
  · intro hj
    have hrest := unmarked_scan h ha mode 0 [] [] line [] (fun _ => ⟨[], rfl, .inl rfl⟩)
      fun left right hr _ hjoin => hj ⟨left, right, hr, hjoin⟩
    rw [hm] at hrest
    rw [Rules.flatten_runs]
    exact hrest

end Signs

end SourceBook.Comment
