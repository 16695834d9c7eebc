import SourceBook.Files.Node
import SourceBook.Proofs.Text.Lines
import Mathlib.Tactic.SplitIfs

namespace SourceBook

/-- A step that succeeds behind another has a result of the other to go on from. -/
theorem exists_of_bind_eq_ok {ε α β : Type} {x : Except ε α} {f : α → Except ε β} {b : β}
    (h : x >>= f = .ok b) : ∃ a, x = .ok a ∧ f a = .ok b := by
  cases x with
  | error fault => cases h
  | ok a => exact ⟨a, rfl, h⟩

namespace Path

def IsName (name : Text) : Prop := name ≠ [] ∧ '/' ∉ name

instance (name : Text) : Decidable (IsName name) := inferInstanceAs (Decidable (_ ∧ _))

theorem isName_of_mem_names {path name : Text} (h : name ∈ names path) : IsName name := by
  obtain ⟨hsplit, hne⟩ := List.mem_filter.1 h
  refine ⟨?_, (Text.mem_splitOn hsplit).1⟩
  rintro rfl
  exact absurd hne (by decide)

theorem names_slashed {path : List Text} (h : ∀ name ∈ path, IsName name) : names (slashed path) = path := by
  by_cases hne : path = []
  · subst hne
    rfl
  · rw [names, slashed, List.splitOn_intercalate '/' (fun name hn => (h name hn).2) hne]
    refine List.filter_eq_self.2 fun name hn => ?_
    simpa using (h name hn).1

end Path

namespace Files

open SourceBook.Path (IsName)

namespace Node

inductive WellNamed : Node → Prop
  | file (bytes : Text.Bytes) : WellNamed (file bytes)
  | link (target : Text) : WellNamed (link target)
  | folder {entries : List (Text × Node)} (names : ∀ entry ∈ entries, IsName entry.1)
      (nodes : ∀ entry ∈ entries, WellNamed entry.2) : WellNamed (folder entries)

theorem wellNamed_emptyFolder : WellNamed emptyFolder := .folder (by simp) (by simp)

theorem WellNamed.at? {place : List Text} {root node : Node} (h : root.WellNamed)
    (hat : root.at? place = some node) : node.WellNamed := by
  induction place generalizing root with
  | nil =>
      cases hat
      exact h
  | cons name rest ih =>
      cases h with
      | file bytes => cases hat
      | link target => cases hat
      | folder names nodes =>
          obtain ⟨child, hchild, hrest⟩ := Option.bind_eq_some_iff.1 hat
          obtain ⟨above, below, hentries, -⟩ := List.lookup_eq_some_iff.1 hchild
          exact ih (nodes (name, child) (by simp [hentries])) hrest

theorem mem_alter {name : Text} {f : Option Node → Node} {entries : List (Text × Node)}
    {entry : Text × Node} (h : entry ∈ alter name f entries) :
    entry ∈ entries ∨ entry.1 = name ∧
      (entry.2 = f none ∨ ∃ old ∈ entries, entry.2 = f (some old.2)) := by
  induction entries with
  | nil =>
      rw [alter, List.mem_singleton] at h
      subst h
      exact .inr ⟨rfl, .inl rfl⟩
  | cons other entries ih =>
      obtain ⟨otherName, node⟩ := other
      rw [alter] at h
      split_ifs at h with hname
      · rcases List.mem_cons.1 h with rfl | h
        · exact .inr ⟨hname, .inr ⟨_, List.mem_cons_self, rfl⟩⟩
        · exact .inl (List.mem_cons_of_mem _ h)
      · rcases List.mem_cons.1 h with rfl | h
        · exact .inl List.mem_cons_self
        · rcases ih h with h | ⟨hn, h | ⟨old, hold, h⟩⟩
          · exact .inl (List.mem_cons_of_mem _ h)
          · exact .inr ⟨hn, .inl h⟩
          · exact .inr ⟨hn, .inr ⟨old, List.mem_cons_of_mem _ hold, h⟩⟩

theorem WellNamed.put {place : List Text} {root new : Node} (h : root.WellNamed)
    (hplace : ∀ name ∈ place, IsName name) (hnew : new.WellNamed) : (root.put place new).WellNamed := by
  induction place generalizing root with
  | nil => cases root <;> exact hnew
  | cons name rest ih =>
      have hrest := fun other ho => hplace other (List.mem_cons_of_mem _ ho)
      cases h with
      | file bytes => exact .file bytes
      | link target => exact .link target
      | folder names nodes =>
          refine .folder (fun entry he => ?_) fun entry he => ?_
          · rcases mem_alter he with he | ⟨hname, -⟩
            · exact names entry he
            · rw [hname]
              exact hplace name List.mem_cons_self
          · rcases mem_alter he with he | ⟨-, hnone | ⟨old, hold, hsome⟩⟩
            · exact nodes entry he
            · rw [hnone]
              exact ih wellNamed_emptyFolder hrest
            · rw [hsome]
              exact ih (nodes old hold) hrest

/-- A path leads through names, the targets of links included. -/
theorem isName_of_follow {root : Node} {limit links : Nat} {place path found : List Text}
    (hplace : ∀ name ∈ place, IsName name) (hpath : ∀ name ∈ path, IsName name)
    (h : follow root limit links place path = .ok found) : ∀ name ∈ found, IsName name := by
  induction limit generalizing links place path with
  | zero => cases h
  | succ limit ih =>
      cases path with
      | nil =>
          cases h
          exact hplace
      | cons name rest =>
          have hrest := fun other ho => hpath other (List.mem_cons_of_mem _ ho)
          have hdeeper : ∀ other ∈ place ++ [name], IsName other := by
            intro other ho
            rcases List.mem_append.1 ho with ho | ho
            · exact hplace other ho
            · rw [List.mem_singleton.1 ho]
              exact hpath name List.mem_cons_self
          rw [follow] at h
          split at h
          · cases h
          · by_cases hhere : name = Path.here
            · rw [if_pos hhere] at h
              exact ih hplace hrest h
            by_cases hparent : name = Path.parent
            · rw [if_neg hhere, if_pos hparent] at h
              exact ih (fun other ho => hplace other (List.mem_of_mem_dropLast ho)) hrest h
            rw [if_neg hhere, if_neg hparent] at h
            split at h
            · next target _ =>
                by_cases hlinks : links = 0
                · rw [if_pos hlinks] at h
                  cases h
                rw [if_neg hlinks] at h
                refine ih ?_ ?_ h
                · split_ifs
                  · simp
                  · exact hplace
                · intro other ho
                  rcases List.mem_append.1 ho with ho | ho
                  · exact Path.isName_of_mem_names ho
                  · exact hrest other ho
            · exact ih hdeeper hrest h
          · cases h

theorem wellNamed_enter {root after : Node} {place next : Location} {name : Text} (h : root.WellNamed)
    (hplace : ∀ other ∈ place, IsName other) (hname : IsName name)
    (henter : root.enter place name = .ok (after, next)) :
    after.WellNamed ∧ ∀ other ∈ next, IsName other := by
  obtain ⟨found, hfollow, hfound⟩ := exists_of_bind_eq_ok henter
  have hnames := isName_of_follow hplace (List.forall_mem_singleton.2 hname) hfollow
  split at hfound
  · cases hfound
    exact ⟨h, hnames⟩
  · cases hfound
  · cases hfound
    exact ⟨h.put hnames wellNamed_emptyFolder, hnames⟩

theorem wellNamed_foldlM_enter {path : List Text} {root after : Node} {place next : Location}
    (h : root.WellNamed) (hplace : ∀ other ∈ place, IsName other) (hpath : ∀ name ∈ path, IsName name)
    (hfold : path.foldlM (fun (root, place) name => enter root place name) (root, place) =
      .ok (after, next)) : after.WellNamed ∧ ∀ other ∈ next, IsName other := by
  induction path generalizing root place with
  | nil =>
      cases hfold
      exact ⟨h, hplace⟩
  | cons name path ih =>
      rw [List.foldlM_cons] at hfold
      obtain ⟨⟨between, reached⟩, henter, hrest⟩ := exists_of_bind_eq_ok hfold
      obtain ⟨hroot, hreached⟩ := wellNamed_enter h hplace (hpath name List.mem_cons_self) henter
      exact ih hroot hreached (fun other ho => hpath other (List.mem_cons_of_mem _ ho)) hrest

section

variable {root after : Node} {cwd : Location} (h : root.WellNamed) (hcwd : ∀ name ∈ cwd, IsName name)

include h hcwd

theorem wellNamed_makeFolder {path : Text} (hmake : root.makeFolder cwd path = .ok after) :
    after.WellNamed := by
  have hstart : ∀ name ∈ (if Path.isAbsolute path then [] else cwd), IsName name := by
    split_ifs
    · simp
    · exact hcwd
  have hnames : ∀ name ∈ Path.names path, IsName name := fun name => Path.isName_of_mem_names
  rw [makeFolder] at hmake
  split at hmake
  · cases hmake
  · next hfold _ =>
      cases hmake
      exact (wellNamed_foldlM_enter h hstart
        (fun name hn => hnames name (List.mem_of_mem_dropLast hn)) hfold).1
  · next hfold hlast =>
      obtain ⟨hroot, hplace⟩ := wellNamed_foldlM_enter h hstart
        (fun name hn => hnames name (List.mem_of_mem_dropLast hn)) hfold
      split at hmake
      · cases hmake
      · cases hmake
      · next henter =>
          cases hmake
          exact (wellNamed_enter hroot hplace (hnames _ (List.mem_of_getLast? hlast)) henter).1

theorem wellNamed_writeFile {path : Text} {bytes : Text.Bytes}
    (hwrite : root.writeFile cwd path bytes = .ok after) : after.WellNamed := by
  rw [writeFile] at hwrite
  split_ifs at hwrite with hempty
  · cases hwrite
  · obtain ⟨place, hlocate, hput⟩ := exists_of_bind_eq_ok hwrite
    have hplace : ∀ name ∈ place, IsName name := by
      refine isName_of_follow ?_ (fun name => Path.isName_of_mem_names) hlocate
      split_ifs
      · simp
      · exact hcwd
    split at hput
    · cases hput
    · dsimp only at hput
      split_ifs at hput
      cases hput
      exact h.put hplace (.file bytes)

theorem wellNamed_writeText {path text : Text} (hwrite : root.writeText cwd path text = .ok after) :
    after.WellNamed := by
  rw [writeText] at hwrite
  split at hwrite
  · cases hwrite
  · next hmake =>
      split at hwrite
      · cases hwrite
      · next hfile =>
          cases hwrite
          exact wellNamed_writeFile (wellNamed_makeFolder h hcwd hmake) hcwd hfile

end

/-- The path of a file below a folder goes on from the folder's own path, by at least one name. -/
theorem exists_names_of_mem_files {node : Node} (h : node.WellNamed) {prune : Text → Bool}
    {path found : List Text} (hf : found ∈ node.files prune path) :
    ∃ below, found = path ++ below ∧ below ≠ [] ∧ ∀ name ∈ below, IsName name := by
  induction h generalizing path with
  | file bytes => cases hf
  | link target => cases hf
  | @folder entries names nodes ih =>
      clear nodes
      rw [files] at hf
      induction entries with
      | nil => cases hf
      | cons entry rest ihrest =>
          obtain ⟨name, node⟩ := entry
          have hname : IsName name := names (name, node) List.mem_cons_self
          rw [filesIn] at hf
          rcases List.mem_append.1 hf with hf | hf
          · cases node with
            | file bytes =>
                rw [filesOf, List.mem_singleton] at hf
                exact ⟨[name], hf, List.cons_ne_nil _ _, List.forall_mem_singleton.2 hname⟩
            | link target => cases hf
            | folder inner =>
                rw [filesOf] at hf
                split_ifs at hf
                · cases hf
                · obtain ⟨below, hfound, -, hbelow⟩ := ih (name, folder inner) List.mem_cons_self hf
                  refine ⟨name :: below, ?_, List.cons_ne_nil _ _, List.forall_mem_cons.2 ⟨hname, hbelow⟩⟩
                  rw [hfound, List.append_assoc]
                  rfl
          · exact ihrest (fun other ho => names other (List.mem_cons_of_mem _ ho))
              (fun other ho => ih other (List.mem_cons_of_mem _ ho)) hf

end Node

end Files

end SourceBook
