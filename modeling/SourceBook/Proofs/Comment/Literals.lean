import SourceBook.Proofs.Comment.LineStructure
import SourceBook.Proofs.Comment.OnePass

namespace SourceBook.Comment.Python

structure Mark where
  double : Bool
  long : Bool
  deriving DecidableEq, Repr

namespace Mark

variable (mark : Mark)

def char : Char := if mark.double then '"' else '\''

def text : Text := List.replicate (if mark.long then 3 else 1) mark.char

def quote : Quote :=
  match mark with
  | ⟨true, true⟩ => .tripleDouble
  | ⟨true, false⟩ => .double
  | ⟨false, true⟩ => .tripleSingle
  | ⟨false, false⟩ => .single

end Mark

inductive Place where
  | code
  | literal (mark : Mark)
  | comment
  deriving DecidableEq, Repr

namespace Place

def isLong : Place → Bool
  | .literal mark => mark.long
  | .code | .comment => false

def below (place : Place) : Place := if place.isLong then place else .code

def quote : Place → Quote
  | .literal mark => mark.quote
  | .code | .comment => .none

end Place

/-- What is read at once: a character, the quotes at an end of a literal, or a backslash with the
character that it takes along. -/
structure Token where
  more : Nat
  place : Place
  next : Place

def token (place : Place) (c : Char) (rest : Text) : Token :=
  match place with
  | .code =>
    if c = '"' ∨ c = '\'' then
      let mark : Mark := ⟨c = '"', Text.startsWith [c, c] rest⟩
      ⟨mark.text.length - 1, .literal mark, .literal mark⟩
    else if c = '#' then ⟨0, .comment, .comment⟩
    else ⟨0, .code, .code⟩
  | .literal mark =>
    if c = '\\' then
      ⟨if rest.head?.any fun d => !Text.isBreak d then 1 else 0, .literal mark, .literal mark⟩
    else if Text.startsWith mark.text (c :: rest) then ⟨mark.text.length - 1, .literal mark, .code⟩
    else ⟨0, .literal mark, .literal mark⟩
  | .comment => ⟨0, .comment, .comment⟩

def Token.chars (token : Token) (c : Char) (rest : Text) : List (Char × Place) :=
  (c :: rest.take token.more).map fun d => (d, token.place)

structure ReadLine where
  chars : List (Char × Place)
  ending : Place
  deriving DecidableEq, Repr

namespace ReadLine

variable (line : ReadLine)

def text : Text := line.chars.map Prod.fst

def code : Text := (line.chars.takeWhile fun entry => entry.2 ≠ .comment).map Prod.fst

/-- What is left of the line: all of it when it ends in a long literal. -/
def stripped : Text := if line.ending.isLong then line.text else Text.trimEnd line.code

def behind (chars : List (Char × Place)) : ReadLine := ⟨chars ++ line.chars, line.ending⟩

end ReadLine

def read (place : Place) : Text → List ReadLine
  | [] => [⟨[], place⟩]
  | c :: rest =>
    match _h : Text.breakAt? (c :: rest) with
    | some (_, below) => ⟨[], place⟩ :: read place.below below
    | none =>
      let token := token place c rest
      (read token.next (rest.drop token.more)).modifyHead fun line => line.behind (token.chars c rest)
termination_by text => text.length
decreasing_by
  · exact Text.length_lt_of_breakAt? _h
  · simp only [List.length_cons, List.length_drop]
    omega

theorem read_nil (place : Place) : read place [] = [⟨[], place⟩] := by
  rw [read]

theorem read_of_breakAt? {text own below : Text} (h : Text.breakAt? text = some (own, below))
    (place : Place) : read place text = ⟨[], place⟩ :: read place.below below := by
  cases text with
  | nil => exact absurd h (by simp [Text.breakAt?])
  | cons c rest =>
      rw [read]
      split
      · next heq =>
          rw [h] at heq
          cases heq
          rfl
      · next heq => rw [h] at heq; cases heq

theorem read_cons {c : Char} (h : Text.isBreak c = false) (place : Place) (rest : Text) :
    read place (c :: rest) =
      (read (token place c rest).next (rest.drop (token place c rest).more)).modifyHead
        fun line => line.behind ((token place c rest).chars c rest) := by
  rw [read]
  split
  · next heq => rw [Text.breakAt?_of_isBreak_eq_false h] at heq; cases heq
  · rfl

/-- One line, read token by token. -/
inductive Reads : Place → Text → ReadLine → Prop
  | nil (place : Place) : Reads place [] ⟨[], place⟩
  | cons {place : Place} {c : Char} {rest : Text} {line : ReadLine}
      (h : Reads (token place c rest).next (rest.drop (token place c rest).more) line) :
      Reads place (c :: rest) (line.behind ((token place c rest).chars c rest))

namespace Mark

variable (mark : Mark)

theorem length_text : mark.text.length = if mark.long then 3 else 1 := List.length_replicate

theorem unbroken_text : Text.Unbroken mark.text := by
  rcases mark with ⟨_ | _, _ | _⟩ <;> decide

theorem char_mem_text : mark.char ∈ mark.text := by
  rcases mark with ⟨_ | _, _ | _⟩ <;> decide

theorem trimEnd_text : Text.trimEnd mark.text = mark.text := by
  rcases mark with ⟨_ | _, _ | _⟩ <;> decide

theorem isBlank_char : Text.isBlank mark.char = false := by
  rcases mark with ⟨_ | _, _⟩ <;> rfl

end Mark

theorem carried_quote (place : Place) : carried place.quote = place.below.quote := by
  cases place with
  | code | comment => rfl
  | literal mark => rcases mark with ⟨_ | _, _ | _⟩ <;> rfl

/-- Three quotes open a long literal, and one opens a short one. -/
theorem opening_cons (c : Char) (rest : Text) :
    opening (c :: rest) =
      if c = '"' ∨ c = '\'' then Mark.quote ⟨c = '"', Text.startsWith [c, c] rest⟩ else .none := by
  by_cases hd : c = '"'
  · subst hd
    cases h : Text.startsWith ['"', '"'] rest <;>
      simp_all [opening, delimiter, Text.startsWith, Text.after?, Mark.quote]
  · by_cases hs : c = '\''
    · subst hs
      cases h : Text.startsWith ['\'', '\''] rest <;>
        simp_all [opening, delimiter, Text.startsWith, Text.after?, Mark.quote]
    · simp [opening, delimiter, Text.startsWith, Text.after?, Ne.symm hd, Ne.symm hs, hd, hs]

section

variable {place : Place} {c : Char} {rest next : Text}

theorem token_append (hc : Text.isBreak c = false) (hn : Text.EndsLine next) :
    token place c (rest ++ next) = token place c rest := by
  have hmark {mark : Text} (hm : Text.Unbroken mark) (line : Text) :
      Text.startsWith mark (line ++ next) = Text.startsWith mark line :=
    Text.startsWith_append_of_endsLine hm hn line
  have hhead : ((rest ++ next).head?.any fun d => !Text.isBreak d) =
      rest.head?.any fun d => !Text.isBreak d := by
    cases rest with
    | cons d rest => rfl
    | nil =>
        cases next with
        | nil => rfl
        | cons d next => simp [hn.isBreak_head d rfl]
  cases place with
  | code =>
      have hpair : Text.Unbroken [c, c] := by simp [Text.Unbroken, hc]
      simp only [token, hmark hpair]
  | literal mark => simp only [token, hhead, ← List.cons_append, hmark mark.unbroken_text]
  | comment => rfl

theorem more_token_le (place : Place) (c : Char) (rest : Text) :
    (token place c rest).more ≤ rest.length := by
  cases place with
  | code =>
      rw [token]
      split_ifs
      · cases hl : Text.startsWith [c, c] rest with
        | true => simpa [Mark.length_text] using Text.length_le_of_startsWith hl
        | false => exact Nat.zero_le _
      · exact Nat.zero_le _
      · exact Nat.zero_le _
  | literal mark =>
      rw [token]
      split_ifs with hb hd hm
      · cases rest with
        | nil => exact absurd hd (by simp)
        | cons d rest => simp
      · exact Nat.zero_le _
      · have hlength := Text.length_le_of_startsWith hm
        rw [List.length_cons] at hlength
        exact Nat.sub_le_of_le_add hlength
      · exact Nat.zero_le _
  | comment => exact Nat.zero_le _

theorem scan_copy (quote : Quote) (n : Nat) (kept : Text) (c : Char) (rest : Text) :
    scan quote n (c :: kept) rest = scan quote 0 ((c :: rest.take n).reverse ++ kept) (rest.drop n) := by
  induction n generalizing kept c rest with
  | zero => rfl
  | succ n ih =>
      cases rest with
      | nil => simp [scan]
      | cons d rest =>
          rw [scan, ih]
          simp

theorem advance_code (c : Char) (rest : Text) :
    advance .none 0 c rest =
      if c = '"' ∨ c = '\'' then
        some (Mark.quote ⟨c = '"', Text.startsWith [c, c] rest⟩,
          (Mark.text ⟨c = '"', Text.startsWith [c, c] rest⟩).length - 1)
      else if c = '#' then none
      else some (.none, 0) := by
  rw [advance, opening_cons]
  by_cases hq : c = '"' ∨ c = '\''
  · rw [if_pos hq, if_pos hq]
    generalize (⟨c = '"', Text.startsWith [c, c] rest⟩ : Mark) = mark
    rcases mark with ⟨_ | _, _ | _⟩ <;> rfl
  · rw [if_neg hq, if_neg hq]

theorem advance_literal (mark : Mark) (c : Char) (rest : Text) :
    advance mark.quote 0 c rest =
      if c = '\\' then some (mark.quote, 1)
      else if Text.startsWith mark.text (c :: rest) then some (.none, mark.text.length - 1)
      else some (mark.quote, 0) := by
  rcases mark with ⟨_ | _, _ | _⟩ <;> rfl

theorem scan_token (hp : place ≠ .comment) (hrest : Text.Unbroken rest) (kept : Text) :
    scan place.quote 0 kept (c :: rest) =
      if (token place c rest).place = .comment then (kept.reverse, .none)
      else scan (token place c rest).next.quote 0
        ((c :: rest.take (token place c rest).more).reverse ++ kept)
        (rest.drop (token place c rest).more) := by
  rw [scan_cons]
  cases place with
  | comment => exact absurd rfl hp
  | code =>
      rw [Place.quote, advance_code, token]
      by_cases hq : c = '"' ∨ c = '\''
      · simp only [if_pos hq, reduceCtorEq, if_false]
        exact scan_copy ..
      · by_cases hc : c = '#'
        · simp [hc]
        · simp only [if_neg hq, if_neg hc, reduceCtorEq, if_false]
          rfl
  | literal mark =>
      rw [Place.quote, advance_literal, token]
      by_cases hb : c = '\\'
      · simp only [if_pos hb, reduceCtorEq, if_false]
        cases rest with
        | nil => rw [scan_copy]; rfl
        | cons d rest =>
            have hd := (Text.Unbroken.cons_iff.1 hrest).1
            simp only [List.head?_cons, Option.any_some, hd, Bool.not_false, if_true]
            exact scan_copy ..
      · by_cases hm : Text.startsWith mark.text (c :: rest) = true
        · simp only [if_neg hb, if_pos hm, reduceCtorEq, if_false]
          exact scan_copy ..
        · simp only [if_neg hb, if_neg hm, reduceCtorEq, if_false]
          rfl

end

theorem next_token_eq_comment_iff (place : Place) (c : Char) (rest : Text) :
    (token place c rest).next = .comment ↔ (token place c rest).place = .comment := by
  cases place with
  | code =>
      rw [token]
      split_ifs <;> simp
  | literal mark =>
      rw [token]
      split_ifs <;> simp
  | comment => exact Iff.rfl

theorem place_token_literal (mark : Mark) (c : Char) (rest : Text) :
    (token (.literal mark) c rest).place = .literal mark := by
  rw [token]
  split_ifs <;> rfl

theorem eq_of_place_token_eq_comment {place : Place} {c : Char} {rest : Text} (hp : place ≠ .comment)
    (h : (token place c rest).place = .comment) : c = '#' := by
  cases place with
  | code =>
      rw [token] at h
      split_ifs at h with hq hc
      exact hc
  | literal mark => exact absurd h (by simp [place_token_literal])
  | comment => exact absurd rfl hp

theorem of_place_token_eq_code {place : Place} {c : Char} {rest : Text}
    (h : (token place c rest).place = .code) : c ≠ '#' ∧ (token place c rest).more = 0 := by
  cases place with
  | code =>
      rw [token] at h ⊢
      split_ifs at h ⊢ with hq hc
      exact ⟨hc, rfl⟩
  | literal mark => exact absurd h (by simp [place_token_literal])
  | comment => exact absurd h (by simp [token])

/-- A literal goes on behind its token, or the token is the mark that ends it. -/
theorem token_of_place_literal {place : Place} {c : Char} {rest : Text} {mark : Mark}
    (h : (token place c rest).place = .literal mark) :
    (token place c rest).next = .literal mark ∨ c :: rest.take (token place c rest).more = mark.text := by
  cases place with
  | code =>
      rw [token] at h ⊢
      split_ifs at h ⊢
      exact .inl h
  | comment => exact absurd h (by simp [token])
  | literal mark =>
      rw [token] at h ⊢
      split_ifs at h ⊢ with hb hd hm
      · exact .inl h
      · exact .inl h
      · cases h
        obtain ⟨tail, htail⟩ := Option.isSome_iff_exists.1 hm
        have hpos : mark.text.length - 1 + 1 = mark.text.length := by
          rw [Mark.length_text]
          split_ifs <;> rfl
        rw [← List.take_succ_cons, hpos, Text.after?_eq_some_iff.1 htail, List.take_left]
        exact .inr rfl
      · exact .inl h

/-- What stands in front of a line end is read token by token. -/
theorem exists_reads {line next : Text} (hl : Text.Unbroken line) (hn : Text.EndsLine next)
    (place : Place) :
    ∃ r, Reads place line r ∧ read place (line ++ next) = r :: (read r.ending next).tail := by
  -- A token takes one character or several, so the induction is on the length of what is left.
  induction hlength : line.length using Nat.strong_induction_on generalizing line place with
  | h n ih =>
      cases line with
      | nil =>
          refine ⟨⟨[], place⟩, .nil place, ?_⟩
          rcases hn with rfl | ⟨own, below, hb⟩
          · rw [List.nil_append, read_nil, List.tail_cons]
          · rw [List.nil_append, read_of_breakAt? hb, List.tail_cons]
      | cons c rest =>
          obtain ⟨hc, hrest⟩ := Text.Unbroken.cons_iff.1 hl
          have hmore := more_token_le place c rest
          have hshorter : (rest.drop (token place c rest).more).length < n := by
            rw [← hlength, List.length_drop, List.length_cons]
            omega
          obtain ⟨r, hr, hread⟩ := ih _ hshorter (hrest.drop _) (token place c rest).next rfl
          refine ⟨_, .cons hr, ?_⟩
          have hchars : (token place c rest).chars c (rest ++ next) = (token place c rest).chars c rest := by
            rw [Token.chars, Token.chars, List.take_append_of_le_length hmore]
          rw [List.cons_append, read_cons hc, token_append hc hn, hchars,
            List.drop_append_of_le_length hmore, hread]
          rfl

theorem Token.place_of_mem_chars {token : Token} {c : Char} {rest : Text} {entry : Char × Place}
    (h : entry ∈ token.chars c rest) : entry.2 = token.place := by
  rw [chars, List.mem_map] at h
  obtain ⟨d, -, rfl⟩ := h
  rfl

namespace ReadLine

variable (r : ReadLine) (token : Token) (c : Char) (rest : Text)

theorem text_behind : (r.behind (token.chars c rest)).text = c :: rest.take token.more ++ r.text := by
  simp [text, behind, Token.chars, Function.comp_def]

theorem code_behind_of_comment (h : token.place = .comment) :
    (r.behind (token.chars c rest)).code = [] := by
  simp [code, behind, Token.chars, h]

theorem code_behind (h : token.place ≠ .comment) :
    (r.behind (token.chars c rest)).code = c :: rest.take token.more ++ r.code := by
  have hkept : ∀ entry ∈ token.chars c rest, decide (entry.2 ≠ .comment) = true :=
    fun entry he => decide_eq_true (Token.place_of_mem_chars he ▸ h)
  rw [code, behind, List.takeWhile_append_of_pos hkept, List.map_append]
  simp [code, Token.chars, Function.comp_def]

end ReadLine

namespace Reads

variable {place : Place} {line : Text} {r : ReadLine}

theorem text_eq (h : Reads place line r) : r.text = line := by
  induction h with
  | nil place => rfl
  | cons _ ih => rw [ReadLine.text_behind, ih, List.cons_append, List.take_append_drop]

theorem of_comment (h : Reads place line r) (hp : place = .comment) :
    r.ending = .comment ∧ ∀ entry ∈ r.chars, entry.2 = .comment := by
  induction h with
  | nil => exact ⟨hp, List.forall_mem_nil _⟩
  | cons _ ih =>
      subst hp
      obtain ⟨hending, hchars⟩ := ih rfl
      refine ⟨hending, fun entry he => ?_⟩
      rw [ReadLine.behind, List.mem_append] at he
      exact he.elim (fun he => Token.place_of_mem_chars he) (hchars entry)

theorem code_eq_text (h : Reads place line r) (he : r.ending ≠ .comment) : r.code = r.text := by
  induction h with
  | nil => rfl
  | @cons place c rest line h ih =>
      have hplace : (token place c rest).place ≠ .comment := by
        exact fun hp => he (h.of_comment ((next_token_eq_comment_iff place c rest).2 hp)).1
      rw [ReadLine.code_behind _ _ _ _ hplace, ReadLine.text_behind, ih he]

theorem not_mem_chars (h : Reads place line r) : ('#', .code) ∉ r.chars := by
  induction h with
  | nil => exact List.not_mem_nil
  | @cons place c rest r h ih =>
      rw [ReadLine.behind, List.mem_append, not_or]
      refine ⟨fun he => ?_, ih⟩
      obtain ⟨hne, hmore⟩ := of_place_token_eq_code (Token.place_of_mem_chars he).symm
      rw [Token.chars, hmore] at he
      simp [Ne.symm hne] at he

theorem text_eq_code (h : Reads place line r) (hp : place ≠ .comment) :
    r.text = r.code ∨ ∃ tail, r.text = r.code ++ '#' :: tail := by
  induction h with
  | nil => exact .inl rfl
  | @cons place c rest r h ih =>
      rw [ReadLine.text_behind]
      by_cases hcomment : (token place c rest).place = .comment
      · rw [ReadLine.code_behind_of_comment _ _ _ _ hcomment]
        exact .inr ⟨_, by rw [eq_of_place_token_eq_comment hp hcomment, List.nil_append, List.cons_append]⟩
      · have hnext := mt (next_token_eq_comment_iff place c rest).1 hcomment
        rw [ReadLine.code_behind _ _ _ _ hcomment]
        rcases ih hnext with ih | ⟨tail, ih⟩
        · exact .inl (by rw [ih])
        · exact .inr ⟨tail, by rw [ih, List.append_assoc]⟩

/-- The lexer keeps what stands in front of the comment, and hands on the long literal that the line ends
in. -/
theorem scan_eq (h : Reads place line r) (hp : place ≠ .comment) (hl : Text.Unbroken line) (kept : Text) :
    (scan place.quote 0 kept line).1 = kept.reverse ++ r.code ∧
      carried (scan place.quote 0 kept line).2 = r.ending.below.quote := by
  induction h generalizing kept with
  | nil place => exact ⟨(List.append_nil _).symm, carried_quote place⟩
  | @cons place c rest r h ih =>
      have hrest := (Text.Unbroken.cons_iff.1 hl).2
      rw [scan_token hp hrest]
      by_cases hcomment : (token place c rest).place = .comment
      · have hending := (h.of_comment ((next_token_eq_comment_iff place c rest).2 hcomment)).1
        rw [if_pos hcomment, ReadLine.code_behind_of_comment _ _ _ _ hcomment, List.append_nil,
          ReadLine.behind, hending]
        exact ⟨rfl, rfl⟩
      · have hnext := mt (next_token_eq_comment_iff place c rest).1 hcomment
        obtain ⟨hcode, hcarried⟩ :=
          ih hnext (hrest.drop _) ((c :: rest.take (token place c rest).more).reverse ++ kept)
        rw [if_neg hcomment, ReadLine.code_behind _ _ _ _ hcomment, hcode, hcarried]
        simp [ReadLine.behind]

/-- Where a long literal that is open is closed on its line, a visible character of it is kept. -/
theorem trimEnd_code_ne_nil (h : Reads place line r) (hp : place.isLong = true)
    (he : r.ending.isLong = false) : Text.trimEnd r.code ≠ [] := by
  induction h with
  | nil place => exact absurd hp (by simp [he])
  | @cons place c rest r h ih =>
      cases place with
      | code | comment => exact absurd hp (by decide)
      | literal mark =>
          have hplace := place_token_literal mark c rest
          have hcode : (token (.literal mark) c rest).place ≠ .comment := by simp [hplace]
          rw [ReadLine.code_behind _ _ _ _ hcode]
          rcases token_of_place_literal hplace with hnext | hclose
          · have hbehind := ih (by rw [hnext]; exact hp) he
            rw [Text.trimEnd_append hbehind]
            exact List.append_ne_nil_of_right_ne_nil _ hbehind
          · rw [hclose, ne_eq, Text.trimEnd_eq_nil_iff, Bool.not_eq_true]
            exact Text.allBlank_eq_false (List.mem_append_left _ mark.char_mem_text) mark.isBlank_char

theorem lt_length_trimEnd_code (h : Reads place line r) (he : r.ending.isLong = false) {i : Nat} {d : Char}
    {mark : Mark} (hd : r.chars[i]? = some (d, .literal mark)) (hm : mark.long = true) :
    i < (Text.trimEnd r.code).length := by
  induction h generalizing i with
  | nil => exact absurd hd (by simp)
  | @cons place c rest r h ih =>
      have hlength : ((token place c rest).chars c rest).length =
          (c :: rest.take (token place c rest).more).length := List.length_map _
      rw [ReadLine.behind] at hd
      by_cases hi : i < ((token place c rest).chars c rest).length
      · rw [List.getElem?_append_left hi] at hd
        have hplace : (token place c rest).place = .literal mark :=
          (Token.place_of_mem_chars (List.mem_of_getElem? hd)).symm
        rw [ReadLine.code_behind _ _ _ _ (by simp [hplace])]
        rw [hlength] at hi
        rcases token_of_place_literal hplace with hnext | hclose
        · rw [Text.trimEnd_append (h.trimEnd_code_ne_nil (by rw [hnext]; exact hm) he), List.length_append]
          omega
        · rw [hclose] at hi ⊢
          exact hi.trans_le (Text.length_le_length_trimEnd_append mark.trimEnd_text _)
      · rw [List.getElem?_append_right (Nat.le_of_not_lt hi)] at hd
        have hplace : (token place c rest).place ≠ .comment := fun hcomment => by
          have hall := (h.of_comment ((next_token_eq_comment_iff place c rest).2 hcomment)).2
          exact absurd (hall _ (List.mem_of_getElem? hd)) (by simp)
        have hbehind := ih he hd
        rw [ReadLine.code_behind _ _ _ _ hplace,
          Text.trimEnd_append (List.ne_nil_of_length_pos (Nat.zero_lt_of_lt hbehind)), List.length_append]
        rw [hlength] at hi hbehind
        omega

/-- Every character of a long literal is kept in its column. -/
theorem getElem?_stripped (h : Reads place line r) {i : Nat} {d : Char} {mark : Mark}
    (hd : r.chars[i]? = some (d, .literal mark)) (hm : mark.long = true) : r.stripped[i]? = some d := by
  have htext : r.text[i]? = some d := by
    rw [ReadLine.text, List.getElem?_map, hd]
    rfl
  rw [ReadLine.stripped]
  split_ifs with he
  · exact htext
  · obtain ⟨tail, htail⟩ : Text.trimEnd r.code <+: r.text :=
      (Text.trimEnd_isPrefix r.code).trans ((List.takeWhile_prefix _).map _)
    have hlt := h.lt_length_trimEnd_code (Bool.not_eq_true _ ▸ he) hd hm
    rwa [← htail, List.getElem?_append_left hlt] at htext

end Reads

theorem spansLines_quote_below (place : Place) : place.below.quote.spansLines = place.isLong := by
  cases place with
  | code | comment => rfl
  | literal mark => rcases mark with ⟨_ | _, _ | _⟩ <;> rfl

theorem below_below (place : Place) : place.below.below = place.below := by
  simp only [Place.below]
  split_ifs <;> rfl

theorem below_ne_comment (place : Place) : place.below ≠ .comment := by
  cases place with
  | code | comment => decide
  | literal mark => rcases mark with ⟨_ | _, _ | _⟩ <;> decide

theorem lexLine_eq {place : Place} {line : Text} {r : ReadLine} (h : Reads place.below line r)
    (hl : Text.Unbroken line) :
    lexLine line ⟨false, place.below.quote⟩ = ⟨r.stripped, false, r.ending.below.quote⟩ := by
  obtain ⟨hcode, hcarried⟩ := h.scan_eq (below_ne_comment place) hl []
  rw [List.reverse_nil, List.nil_append] at hcode
  rw [lexLine, carried_quote, below_below]
  simp only [hcode, hcarried, finish, spansLines_quote_below, ReadLine.stripped]
  cases hlong : r.ending.isLong with
  | false => rfl
  | true =>
      have hending : r.ending ≠ .comment := fun he => by rw [he] at hlong; exact absurd hlong (by decide)
      rw [h.code_eq_text hending]

/-- A file is its first line, and what is read below it. -/
theorem read_cases (place : Place) (content : Text) :
    ∃ line r, Text.Unbroken line ∧ Reads place line r ∧
      ((read place content = [r] ∧ Text.breakLines content = [line]) ∨
        ∃ below, below.length < content.length ∧ read place content = r :: read r.ending.below below ∧
          Text.breakLines content = line :: Text.breakLines below) := by
  obtain ⟨line, next, rfl, hl, hn⟩ := Text.exists_unbroken_append content
  obtain ⟨r, hr, hread⟩ := exists_reads hl hn place
  refine ⟨line, r, hl, hr, ?_⟩
  rcases hn with rfl | ⟨own, below, hb⟩
  · left
    rw [hread, read_nil, List.append_nil, Text.breakLines_of_unbroken hl]
    exact ⟨rfl, rfl⟩
  · right
    refine ⟨below, ?_, ?_, Text.breakLines_append_of_breakAt? hl hb⟩
    · have := Text.length_lt_of_breakAt? hb
      rw [List.length_append]
      omega
    · rw [hread, read_of_breakAt? hb, List.tail_cons]

theorem map_text_read (place : Place) (content : Text) :
    (read place content).map ReadLine.text = Text.breakLines content := by
  induction hlength : content.length using Nat.strong_induction_on generalizing place content with
  | h n ih =>
      obtain ⟨line, r, -, hr, ⟨hread, hlines⟩ | ⟨below, hbelow, hread, hlines⟩⟩ := read_cases place content
      · rw [hread, hlines, List.map_singleton, hr.text_eq]
      · rw [hread, hlines, List.map_cons, hr.text_eq, ih _ (hlength ▸ hbelow) _ _ rfl]

theorem exists_reads_of_mem_read (place : Place) {content : Text} {r : ReadLine}
    (h : r ∈ read place.below content) : ∃ place line, Reads (Place.below place) line r := by
  induction hlength : content.length using Nat.strong_induction_on generalizing place content with
  | h n ih =>
      obtain ⟨line, first, -, hr, ⟨hread, -⟩ | ⟨below, hbelow, hread, -⟩⟩ := read_cases place.below content
      · rw [hread, List.mem_singleton] at h
        exact ⟨place, line, h ▸ hr⟩
      · rw [hread, List.mem_cons] at h
        rcases h with rfl | h
        · exact ⟨place, line, hr⟩
        · exact ih _ (hlength ▸ hbelow) first.ending h rfl

theorem run_breakLines (place : Place) (content : Text) :
    LineLexer.run lexLine ⟨false, place.below.quote⟩ (Text.breakLines content) =
      (read place.below content).map ReadLine.stripped := by
  induction hlength : content.length using Nat.strong_induction_on generalizing place content with
  | h n ih =>
      obtain ⟨line, r, hl, hr, ⟨hread, hlines⟩ | ⟨below, hbelow, hread, hlines⟩⟩ :=
        read_cases place.below content
      · rw [hread, hlines, LineLexer.run, lexLine_eq hr hl, List.map_singleton, LineLexer.run]
      · rw [hread, hlines, LineLexer.run, lexLine_eq hr hl, List.map_cons, ih _ (hlength ▸ hbelow) _ _ rfl]

/-- In a file that is read once from left to right, stripping leaves of each line what stands in front of
its comment, trimmed, and all of a line that ends in a triple-quoted literal. So every character of such a
literal stays in its column, and only such a literal is handed on to the next line. -/
theorem strip_keeps_literals {extension : Text} (h : Grammar.ofExtension extension = .python)
    (content : Text) :
    (read .code content).map ReadLine.text = Text.breakLines content ∧
      Text.breakLines (strip content extension).content = (read .code content).map ReadLine.stripped ∧
      (∀ r ∈ read .code content, ('#', .code) ∉ r.chars ∧
        (r.text = r.code ∨ ∃ tail, r.text = r.code ++ '#' :: tail) ∧
        ∀ (i : Nat) (d : Char) (mark : Mark), r.chars[i]? = some (d, .literal mark) → mark.long = true →
          r.stripped[i]? = some d) ∧
      ∀ line state, (lexLine line state).state.inBlock = false ∧
        (lexLine line state).state.quote ≠ .single ∧ (lexLine line state).state.quote ≠ .double := by
  have hlexer : (Grammar.ofExtension extension).lexer? = some lexLine := by rw [h]; rfl
  refine ⟨map_text_read .code content, ?_, ?_, ?_⟩
  · rw [breakLines_strip hlexer]
    exact run_breakLines .code content
  · intro r hr
    obtain ⟨place, line, hreads⟩ := exists_reads_of_mem_read .code hr
    exact ⟨hreads.not_mem_chars, hreads.text_eq_code (below_ne_comment place),
      fun i d mark => hreads.getElem?_stripped⟩
  · intro line state
    have hcarried (quote : Quote) : carried quote ≠ .single ∧ carried quote ≠ .double := by
      cases quote <;> decide
    exact ⟨rfl, hcarried _⟩

theorem strip_keeps_literals_docstring :
    Grammar.ofExtension ".py".toList = .python ∧
      (read .code "f = '''a #  \n# b  '''  # c".toList).map ReadLine.text =
        ["f = '''a #  ".toList, "# b  '''  # c".toList] ∧
      (read .code "f = '''a #  \n# b  '''  # c".toList).map ReadLine.stripped =
        ["f = '''a #  ".toList, "# b  '''".toList] := by
  have hgrammar : Grammar.ofExtension ".py".toList = .python := by decide
  obtain ⟨htexts, hkept, -⟩ := strip_keeps_literals hgrammar "f = '''a #  \n# b  '''  # c".toList
  refine ⟨hgrammar, htexts.trans (by decide), hkept.symm.trans (by decide)⟩

end SourceBook.Comment.Python
