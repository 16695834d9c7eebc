import SourceBook.CommandLine.Switch

namespace SourceBook.CommandLine

def isDashed (word : Text) : Bool := word.head? == some '-' && 1 < word.length

def dashes : Text := ['-', '-']

inductive Spelling where
  | whole (switch : Switch)
  | cluster (switch : Switch) (rest : Text)
  | assigned (switch : Switch) (value : Text)
  | unknown

def findSwitch? (known : List Switch) (word : Text) : Option Switch :=
  known.find? fun switch => switch.isSpelt word

def cluster? (known : List Switch) : Text → Option (Switch × Text)
  | '-' :: c :: d :: rest =>
    if c = '-' then none else (findSwitch? known ['-', c]).map fun switch => (switch, d :: rest)
  | _ => none

def assigned? (known : List Switch) (word : Text) : Option (Switch × Text) :=
  match word.dropWhile (· != '=') with
  | [] => none
  | _ :: value =>
    match (known.find? fun switch => switch.long = word.takeWhile (· != '=')) with
    | some switch => if switch.follows = .nothing then none else some (switch, value)
    | none => none

def spelling (known : List Switch) (word : Text) : Spelling :=
  match findSwitch? known word with
  | some switch => .whole switch
  | none =>
    match cluster? known word with
    | some (switch, rest) => .cluster switch rest
    | none =>
      match assigned? known word with
      | some (switch, value) => .assigned switch value
      | none => .unknown

def valueFrom? : Follows → List Text → Option (Data × List Text)
  | .nothing, words => some (.bool true, words)
  | .maybe _, [] => some (.bool true, [])
  | .maybe _, word :: rest =>
    if isDashed word then some (.bool true, word :: rest) else some (.text word, rest)
  | _, word :: rest => some (.text word, rest)
  | _, [] => none

def size (words : List Text) : Nat := words.foldr (fun word total => word.length + 1 + total) 0

theorem size_cons (word : Text) (rest : List Text) :
    size (word :: rest) = word.length + 1 + size rest := rfl

theorem length_of_cluster? {known : List Switch} {word : Text} {switch : Switch} {rest : Text}
    (h : cluster? known word = some (switch, rest)) : rest.length + 2 = word.length := by
  simp only [cluster?] at h
  split at h
  · split at h
    · simp at h
    · simp only [Option.map_eq_some_iff, Prod.mk.injEq] at h
      obtain ⟨_, _, _, rfl⟩ := h
      rfl
  · simp at h

theorem length_of_spelling {known : List Switch} {word : Text} {switch : Switch} {rest : Text}
    (h : spelling known word = .cluster switch rest) : rest.length + 2 = word.length := by
  simp only [spelling] at h
  split at h
  · simp at h
  · split at h
    · next hc =>
      simp only [Spelling.cluster.injEq] at h
      obtain ⟨rfl, rfl⟩ := h
      exact length_of_cluster? hc
    · split at h <;> simp at h

theorem size_of_valueFrom? {follows : Follows} {words rest : List Text} {value : Data}
    (h : valueFrom? follows words = some (value, rest)) : size rest ≤ size words := by
  unfold valueFrom? at h
  split at h
  · simp_all
  · simp_all
  · split at h
    · simp_all
    · simp only [Option.some.injEq, Prod.mk.injEq] at h
      simp [size_cons, h.2]
  · simp only [Option.some.injEq, Prod.mk.injEq] at h
    simp [size_cons, h.2]
  · simp at h

end SourceBook.CommandLine
