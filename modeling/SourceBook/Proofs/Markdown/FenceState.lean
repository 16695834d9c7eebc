import SourceBook.Markdown.Fence
import SourceBook.Proofs.Text.Lines
import Mathlib.Data.List.TakeWhile

namespace SourceBook.Markdown

def kindedFrom (fence : Option Nat) (lines : List Text) : List (Text × LineKind) :=
  lines.zip (kindsFrom fence lines)

def fenceAfter (fence : Option Nat) (lines : List Text) : Option Nat :=
  lines.foldl (fun fence line => (kindAt fence line).2) fence

theorem kinded_eq_kindedFrom (lines : List Text) : kinded lines = kindedFrom none lines := rfl

@[simp] theorem kindedFrom_nil (fence : Option Nat) : kindedFrom fence [] = [] := rfl

@[simp] theorem kindedFrom_cons (fence : Option Nat) (line : Text) (lines : List Text) :
    kindedFrom fence (line :: lines) =
      (line, (kindAt fence line).1) :: kindedFrom (kindAt fence line).2 lines := rfl

@[simp] theorem fenceAfter_nil (fence : Option Nat) : fenceAfter fence [] = fence := rfl

@[simp] theorem fenceAfter_cons (fence : Option Nat) (line : Text) (lines : List Text) :
    fenceAfter fence (line :: lines) = fenceAfter (kindAt fence line).2 lines := rfl

theorem kindedFrom_append (fence : Option Nat) (a b : List Text) :
    kindedFrom fence (a ++ b) = kindedFrom fence a ++ kindedFrom (fenceAfter fence a) b := by
  induction a generalizing fence with
  | nil => rfl
  | cons line a ih => simp [ih]

theorem fenceAfter_append (fence : Option Nat) (a b : List Text) :
    fenceAfter fence (a ++ b) = fenceAfter (fenceAfter fence a) b :=
  List.foldl_append

theorem map_fst_kindedFrom (fence : Option Nat) (lines : List Text) :
    (kindedFrom fence lines).map Prod.fst = lines :=
  List.map_fst_zip (length_kindsFrom fence lines).ge

theorem map_fst_kinded (lines : List Text) : (kinded lines).map Prod.fst = lines :=
  map_fst_kindedFrom none lines

theorem length_kinded (lines : List Text) : (kinded lines).length = lines.length := by
  rw [← List.length_map Prod.fst, map_fst_kinded]

theorem kindedFrom_ne_nil {lines : List Text} (h : lines ≠ []) (fence : Option Nat) :
    kindedFrom fence lines ≠ [] := by
  obtain ⟨line, rest, rfl⟩ := List.exists_cons_of_ne_nil h
  simp

theorem mem_of_mem_kinded {lines : List Text} {p : Text × LineKind} (h : p ∈ kinded lines) :
    p.1 ∈ lines :=
  (List.of_mem_zip h).1

def leadTicks (line : Text) : Nat := (line.takeWhile (· == tick)).length

theorem leadTicks_of_closes {n : Nat} {line : Text} (h : closes n line = true) :
    3 ≤ leadTicks line ∧ n ≤ leadTicks line ∧
      ∀ c ∈ line.dropWhile (· == tick), Text.isBlank c = true := by
  rw [closes] at h
  split at h
  · next own rest hm =>
      rw [fenceMark?] at hm
      split at hm
      · next hlong =>
          obtain ⟨rfl, rfl⟩ : leadTicks line = own ∧ line.dropWhile (· == tick) = rest := by
            simpa [leadTicks] using hm
          rw [Bool.and_eq_true, decide_eq_true_eq] at h
          exact ⟨hlong.1, h.1, List.all_eq_true.1 h.2⟩
      · exact absurd hm (by simp)
  · exact absurd h (by decide)

/-- A visible character other than a backtick keeps a line from closing any fence. -/
theorem closes_of_mem {c : Char} {line : Text} (hc : c ∈ line) (htick : c ≠ tick)
    (hb : Text.isBlank c = false) (n : Nat) : closes n line = false := by
  by_contra h
  rw [Bool.not_eq_false] at h
  obtain ⟨-, -, hblank⟩ := leadTicks_of_closes h
  rw [← List.takeWhile_append_dropWhile (p := (· == tick)) (l := line), List.mem_append] at hc
  rcases hc with hc | hc
  · exact htick (by simpa using List.mem_takeWhile_imp hc)
  · rw [hblank c hc] at hb
    exact absurd hb (by decide)

theorem fenceMark?_of_head? {line : Text} (h : line.head? ≠ some tick) : fenceMark? line = none := by
  cases line with
  | nil => rfl
  | cons c line =>
      have hc : (c == tick) = false := by simpa using h
      simp [fenceMark?, hc]

theorem opens?_of_head? {line : Text} (h : line.head? ≠ some tick) : opens? line = none := by
  simp [opens?, fenceMark?_of_head? h]

theorem closes_of_head? {line : Text} (h : line.head? ≠ some tick) (n : Nat) :
    closes n line = false := by
  simp [closes, fenceMark?_of_head? h]

theorem kindAt_of_head? {line : Text} (h : line.head? ≠ some tick) (fence : Option Nat) :
    kindAt fence line = (if fence.isSome then .code else .text, fence) := by
  cases fence <;> simp [kindAt, opens?_of_head? h, closes_of_head? h]

@[simp] theorem kindAt_nil (fence : Option Nat) :
    kindAt fence [] = (if fence.isSome then .code else .text, fence) :=
  kindAt_of_head? (by simp) fence

theorem kindAt_fst_eq_text_iff {fence : Option Nat} {line : Text} :
    (kindAt fence line).1 = .text ↔ fence = none ∧ opens? line = none := by
  cases fence with
  | none => cases h : opens? line <;> simp [kindAt, h]
  | some n => cases h : closes n line <;> simp [kindAt, h]

theorem kindAt_fst_eq_code_iff {fence : Option Nat} {line : Text} :
    (kindAt fence line).1 = .code ↔ ∃ n, fence = some n ∧ closes n line = false := by
  cases fence with
  | none => cases h : opens? line <;> simp [kindAt, h]
  | some n => cases h : closes n line <;> simp [kindAt, h]

theorem kindAt_of_opens? {line : Text} (h : opens? line = none) : kindAt none line = (.text, none) := by
  simp [kindAt, h]

theorem kindAt_of_closes {n : Nat} {line : Text} (h : closes n line = false) :
    kindAt (some n) line = (.code, some n) := by
  simp [kindAt, h]

theorem kindedFrom_text {lines : List Text} (h : ∀ line ∈ lines, opens? line = none) :
    kindedFrom none lines = lines.map (·, .text) ∧ fenceAfter none lines = none := by
  induction lines with
  | nil => simp
  | cons line lines ih =>
      have hl := kindAt_of_opens? (h line (by simp))
      simpa [hl] using ih fun other ho => h other (by simp [ho])

theorem kindedFrom_code {n : Nat} {lines : List Text} (h : ∀ line ∈ lines, closes n line = false) :
    kindedFrom (some n) lines = lines.map (·, .code) ∧ fenceAfter (some n) lines = some n := by
  induction lines with
  | nil => simp
  | cons line lines ih =>
      have hl := kindAt_of_closes (h line (by simp))
      simpa [hl] using ih fun other ho => h other (by simp [ho])

/-- Lines may be replaced, each by several, without a change to the fences: it is enough that the new
lines have the kind of the old one and leave the same fence open. -/
theorem kindedFrom_flatMap (g : Text × LineKind → List Text) (fence : Option Nat) (lines : List Text)
    (h : ∀ p ∈ kindedFrom fence lines, ∀ f, (kindAt f p.1).1 = p.2 →
      kindedFrom f (g p) = (g p).map (·, p.2) ∧ fenceAfter f (g p) = (kindAt f p.1).2) :
    kindedFrom fence ((kindedFrom fence lines).flatMap g) =
      (kindedFrom fence lines).flatMap fun p => (g p).map (·, p.2) := by
  induction lines generalizing fence with
  | nil => rfl
  | cons line lines ih =>
      obtain ⟨hk, ha⟩ := h (line, (kindAt fence line).1) (by simp) fence rfl
      have hrest := ih (kindAt fence line).2 fun p hp => h p (by simp [hp])
      rw [kindedFrom_cons, List.flatMap_cons, List.flatMap_cons, kindedFrom_append, hk, ha, hrest]

end SourceBook.Markdown
