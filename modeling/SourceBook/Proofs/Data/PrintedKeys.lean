import SourceBook.Data.Printer
import SourceBook.Proofs.Number.Spelling

namespace SourceBook.Data

inductive Place where
  | outside
  | inside (read : Text) (escaped : Bool)

/-- The keys in a printed value as they are written, each with the number of brackets open around it. A
text in quotes is a key when a colon follows it. -/
def keysFrom : Nat → Place → Text → List (Nat × Text)
  | _, _, [] => []
  | depth, .outside, c :: rest =>
    if c = '"' then keysFrom depth (.inside [] false) rest
    else if c = '[' ∨ c = '\x7b' then keysFrom (depth + 1) .outside rest
    else if c = ']' ∨ c = '\x7d' then keysFrom (depth - 1) .outside rest
    else keysFrom depth .outside rest
  | depth, .inside read true, c :: rest => keysFrom depth (.inside (read ++ [c]) false) rest
  | depth, .inside read false, c :: rest =>
    if c = '\\' then keysFrom depth (.inside (read ++ [c]) true) rest
    else if c = '"' then
      (if rest.head? = some ':' then [(depth, read)] else []) ++ keysFrom depth .outside rest
    else keysFrom depth (.inside (read ++ [c]) false) rest

def printedKeys (text : Text) : List (Nat × Text) := keysFrom 0 .outside text

mutual

def keys (depth : Nat) : Data → List (Nat × Text)
  | list items => keysOfItems (depth + 1) items
  | record entries => keysOfEntries (depth + 1) entries
  | null => []
  | bool _ => []
  | number _ => []
  | text _ => []

def keysOfItems (depth : Nat) : List Data → List (Nat × Text)
  | [] => []
  | item :: rest => keys depth item ++ keysOfItems depth rest

def keysOfEntries (depth : Nat) : List (Text × Data) → List (Nat × Text)
  | [] => []
  | (key, value) :: rest =>
    (depth, key.flatMap escape) :: keys depth value ++ keysOfEntries depth rest

end

def isMark (c : Char) : Bool := c == '"' || c == '[' || c == ']' || c == '\x7b' || c == '\x7d'

abbrev Unmarked (text : Text) : Prop := ∀ c ∈ text, isMark c = false

theorem unmarked_of_all {text : Text} (h : (text.all fun c => !isMark c) = true) : Unmarked text := by
  simpa using h

theorem isMark_of_isDigit {c : Char} (h : c.isDigit = true) : isMark c = false := by
  rw [Bool.eq_false_iff]
  intro hmark
  simp only [isMark, Bool.or_eq_true, beq_iff_eq] at hmark
  rcases hmark with (((rfl | rfl) | rfl) | rfl) | rfl <;> cases h

theorem unmarked_number (q : Rat) : Unmarked (Number.finite q).text :=
  Number.forall_mem_text (fun _ => isMark_of_isDigit) rfl rfl rfl rfl q

theorem keysFrom_of_unmarked {text : Text} (h : Unmarked text) (depth : Nat) (rest : Text) :
    keysFrom depth .outside (text ++ rest) = keysFrom depth .outside rest := by
  induction text with
  | nil => rfl
  | cons c text ih =>
      obtain ⟨hc, htext⟩ := List.forall_mem_cons.1 h
      simp only [isMark, Bool.or_eq_false_iff, beq_eq_false_iff_ne, ne_eq] at hc
      simp only [List.cons_append, keysFrom, hc, or_self, if_false]
      exact ih htext

theorem hexDigit_ne (n : Nat) : hexDigit n ≠ '\\' ∧ hexDigit n ≠ '"' := by
  have h : ∀ m < 16, Nat.digitChar m ≠ '\\' ∧ Nat.digitChar m ≠ '"' := by decide
  exact h (n % 16) (Nat.mod_lt n (by decide))

/-- A written character is itself, or it starts with a backslash and neither a backslash nor a quote
stands behind the character after that. -/
theorem escape_cases (c : Char) :
    (escape c = [c] ∧ c ≠ '\\' ∧ c ≠ '"') ∨
      ∃ d tail, escape c = '\\' :: d :: tail ∧ ∀ e ∈ tail, e ≠ '\\' ∧ e ≠ '"' := by
  have hnone : ∀ e ∈ ([] : Text), e ≠ '\\' ∧ e ≠ '"' := List.forall_mem_nil _
  rw [escape]
  by_cases hquote : c = '"'
  · rw [if_pos hquote]
    exact .inr ⟨_, [], rfl, hnone⟩
  by_cases hslash : c = '\\'
  · rw [if_neg hquote, if_pos hslash]
    exact .inr ⟨_, [], rfl, hnone⟩
  rw [if_neg hquote, if_neg hslash]
  iterate 5
    split
    · exact .inr ⟨_, [], rfl, hnone⟩
  split
  · refine .inr ⟨'u', _, rfl, ?_⟩
    simp only [List.forall_mem_cons]
    exact ⟨by decide, by decide, hexDigit_ne _, hexDigit_ne _, hnone⟩
  · exact .inl ⟨rfl, hslash, hquote⟩

section

variable (depth : Nat)

theorem keysFrom_inside {text : Text} (h : ∀ c ∈ text, c ≠ '\\' ∧ c ≠ '"') (read rest : Text) :
    keysFrom depth (.inside read false) (text ++ rest) =
      keysFrom depth (.inside (read ++ text) false) rest := by
  induction text generalizing read with
  | nil => rw [List.nil_append, List.append_nil]
  | cons c text ih =>
      obtain ⟨⟨hslash, hquote⟩, htext⟩ := List.forall_mem_cons.1 h
      rw [List.cons_append, keysFrom, if_neg hslash, if_neg hquote, ih htext, List.append_assoc,
        List.singleton_append]

theorem keysFrom_escape (c : Char) (read rest : Text) :
    keysFrom depth (.inside read false) (escape c ++ rest) =
      keysFrom depth (.inside (read ++ escape c) false) rest := by
  rcases escape_cases c with ⟨hc, hne⟩ | ⟨d, tail, hc, htail⟩
  · rw [hc]
    exact keysFrom_inside depth (List.forall_mem_singleton.2 hne) read rest
  · rw [hc, List.cons_append, List.cons_append, keysFrom, if_pos rfl, keysFrom,
      keysFrom_inside depth htail, List.append_assoc, List.append_assoc, List.singleton_append,
      List.singleton_append]

theorem keysFrom_written (key read rest : Text) :
    keysFrom depth (.inside read false) (key.flatMap escape ++ rest) =
      keysFrom depth (.inside (read ++ key.flatMap escape) false) rest := by
  induction key generalizing read with
  | nil => rw [List.flatMap_nil, List.nil_append, List.append_nil]
  | cons c key ih =>
      rw [List.flatMap_cons, List.append_assoc, keysFrom_escape, ih, List.append_assoc]

theorem keysFrom_quoted (key rest : Text) :
    keysFrom depth .outside (quoted key ++ rest) =
      (if rest.head? = some ':' then [(depth, key.flatMap escape)] else []) ++
        keysFrom depth .outside rest := by
  rw [quoted, List.cons_append, List.cons_append, List.append_assoc, keysFrom, if_pos rfl,
    keysFrom_written, List.nil_append, List.singleton_append, keysFrom, if_neg (by decide), if_pos rfl]

/-- What a reader outside of quotes gets from a text, whatever follows but a colon. -/
def Yields (text : Text) (found : List (Nat × Text)) : Prop :=
  ∀ rest : Text, rest.head? ≠ some ':' →
    keysFrom depth .outside (text ++ rest) = found ++ keysFrom depth .outside rest

variable {depth} {text : Text} {found others : List (Nat × Text)}

theorem yields_of_unmarked (h : Unmarked text) : Yields depth text [] :=
  fun rest _ => keysFrom_of_unmarked h depth rest

theorem yields_quoted (value : Text) : Yields depth (quoted value) [] := by
  intro rest hrest
  rw [keysFrom_quoted, if_neg hrest]

theorem yields_entry (key : Text) {colon : Text} (hhead : colon.head? = some ':')
    (hcolon : Unmarked colon) (h : Yields depth text found) :
    Yields depth (quoted key ++ colon ++ text) ((depth, key.flatMap escape) :: found) := by
  intro rest hrest
  have hnext : (colon ++ (text ++ rest)).head? = some ':' := by
    rw [List.head?_append, hhead, Option.some_or]
  rw [List.append_assoc, List.append_assoc, keysFrom_quoted, if_pos hnext,
    keysFrom_of_unmarked hcolon, h rest hrest]
  rfl

theorem eq_nil_of_yields_nil (h : Yields depth [] found) : found = [] := by
  have hnone := h [] (by decide)
  rw [List.append_nil, keysFrom, List.append_nil] at hnone
  exact hnone.symm

theorem yields_intercalate_cons {gap : Text} (hgap : Unmarked gap) {pieces : List Text}
    (hfirst : Yields depth text found) (hrest : Yields depth ((',' :: gap).intercalate pieces) others) :
    Yields depth ((',' :: gap).intercalate (text :: pieces)) (found ++ others) := by
  cases pieces with
  | nil =>
      rw [List.intercalate_nil] at hrest
      rw [List.intercalate_singleton, eq_nil_of_yields_nil hrest, List.append_nil]
      exact hfirst
  | cons piece pieces =>
      intro rest hhead
      have hcomma : Unmarked (',' :: gap) := List.forall_mem_cons.2 ⟨rfl, hgap⟩
      rw [List.intercalate_cons_cons, List.append_assoc, List.append_assoc, hfirst _ (by simp),
        keysFrom_of_unmarked hcomma, hrest rest hhead, List.append_assoc]

end

def gap (indent : Text) (depth : Nat) : Text :=
  if indent.isEmpty then [] else '\n' :: (List.replicate depth indent).flatten

theorem bracketed_of_ne_nil {pieces : List Text} (h : pieces ≠ []) (indent : Text) (depth : Nat)
    (opening closing : Char) :
    bracketed indent depth opening closing pieces =
      opening :: gap indent (depth + 1) ++ (',' :: gap indent (depth + 1)).intercalate pieces ++
        gap indent depth ++ [closing] := by
  cases pieces with
  | nil => exact absurd rfl h
  | cons piece pieces => rfl

section

variable {indent : Text} (hindent : Unmarked indent)

include hindent

theorem unmarked_gap (depth : Nat) : Unmarked (gap indent depth) := by
  rw [gap]
  split_ifs
  · exact List.forall_mem_nil _
  · refine List.forall_mem_cons.2 ⟨rfl, fun c hc => ?_⟩
    obtain ⟨part, hpart, hcp⟩ := List.mem_flatten.1 hc
    rw [List.eq_of_mem_replicate hpart] at hcp
    exact hindent c hcp

theorem yields_bracketed {opening closing : Char} (hopening : opening = '[' ∨ opening = '\x7b')
    (hclosing : closing = ']' ∨ closing = '\x7d') {depth n : Nat} {pieces : List Text}
    {found : List (Nat × Text)}
    (h : Yields (depth + 1) ((',' :: gap indent (n + 1)).intercalate pieces) found) :
    Yields depth (bracketed indent n opening closing pieces) found := by
  have hopen (rest : Text) :
      keysFrom depth .outside (opening :: rest) = keysFrom (depth + 1) .outside rest := by
    rcases hopening with rfl | rfl <;> rfl
  have hclose (rest : Text) :
      keysFrom (depth + 1) .outside (closing :: rest) = keysFrom depth .outside rest := by
    rcases hclosing with rfl | rfl <;> rfl
  intro rest hrest
  by_cases hne : pieces = []
  · subst hne
    rw [List.intercalate_nil] at h
    rw [eq_nil_of_yields_nil h]
    exact (hopen _).trans (hclose _)
  · have hhead : (gap indent n ++ (closing :: rest)).head? ≠ some ':' := by
      rw [gap]
      split_ifs
      · rcases hclosing with rfl | rfl <;> simp
      · simp
    have hend : keysFrom (depth + 1) .outside (gap indent n ++ (closing :: rest)) =
        keysFrom depth .outside rest := by
      rw [keysFrom_of_unmarked (unmarked_gap hindent n), hclose]
    rw [bracketed_of_ne_nil hne]
    simp only [List.cons_append, List.append_assoc, List.nil_append]
    rw [hopen, keysFrom_of_unmarked (unmarked_gap hindent (n + 1)), h _ hhead, hend]

mutual

theorem yields_printAt (depth n : Nat) :
    ∀ value : Data, Yields depth (printAt indent n value) (keys depth value)
  | null => by
      rw [printAt, keys]
      exact yields_of_unmarked (unmarked_of_all rfl)
  | bool value => by
      rw [printAt, keys]
      cases value <;> exact yields_of_unmarked (unmarked_of_all rfl)
  | number (.finite q) => by
      rw [printAt, keys]
      exact yields_of_unmarked (unmarked_number q)
  | number (.infinite _) => by
      rw [printAt, keys]
      exact yields_of_unmarked (unmarked_of_all rfl)
  | text value => by
      rw [printAt, keys]
      exact yields_quoted value
  | list items => by
      rw [printAt, keys]
      exact yields_bracketed hindent (.inl rfl) (.inl rfl)
        (yields_printItems (depth + 1) (n + 1) (n + 1) items)
  | record entries => by
      rw [printAt, keys]
      exact yields_bracketed hindent (.inr rfl) (.inr rfl)
        (yields_printEntries (depth + 1) (n + 1) (n + 1) entries)

theorem yields_printItems (depth n m : Nat) : ∀ items : List Data,
    Yields depth ((',' :: gap indent m).intercalate (printItems indent n items)) (keysOfItems depth items)
  | [] => by
      rw [printItems, keysOfItems, List.intercalate_nil]
      exact yields_of_unmarked (List.forall_mem_nil _)
  | item :: rest => by
      rw [printItems, keysOfItems]
      exact yields_intercalate_cons (unmarked_gap hindent m) (yields_printAt depth n item)
        (yields_printItems depth n m rest)

theorem yields_printEntries (depth n m : Nat) : ∀ entries : List (Text × Data),
    Yields depth ((',' :: gap indent m).intercalate (printEntries indent n entries))
      (keysOfEntries depth entries)
  | [] => by
      rw [printEntries, keysOfEntries, List.intercalate_nil]
      exact yields_of_unmarked (List.forall_mem_nil _)
  | (key, value) :: rest => by
      rw [printEntries, keysOfEntries]
      apply yields_intercalate_cons (unmarked_gap hindent m) _ (yields_printEntries depth n m rest)
      apply yields_entry key _ _ (yields_printAt depth n value)
      · split_ifs <;> rfl
      · split_ifs <;> exact unmarked_of_all rfl

end

end

theorem printedKeys_stableText (value : Data) (indent : Nat) :
    printedKeys (value.stableText indent) = keys 0 (sortKeys value) := by
  have hindent : Unmarked (List.replicate (min maxIndent indent) ' ') := by
    intro c hc
    rw [List.eq_of_mem_replicate hc]
    rfl
  rw [printedKeys, stableText, yields_printAt hindent 0 0 (sortKeys value) _ (by decide)]
  exact List.append_nil _

end SourceBook.Data
