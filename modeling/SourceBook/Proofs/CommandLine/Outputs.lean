import SourceBook.CommandLine.Run
import SourceBook.Proofs.Export.Intake
import SourceBook.Proofs.Scan.Designated

namespace SourceBook.CommandLine

open Document (Entry)
open Export (Surroundings Exported)
open Files (Node)
open SourceBook.Path (IsName)

section

variable [Text.Collation]

/-- The exports of plans carried out one after another. An export whose files cannot be written is one
of them, though it is not done. -/
def exportsFrom (run : RunOptions) (around : Surroundings) : Progress → List Plan → List (Plan × Exported)
  | _, [] => []
  | before, plan :: rest =>
    match Export.project { around with tree := before.tree } (plan.options run.exporting) plan.source with
    | .error _ => []
    | .ok exported =>
      (plan, exported) ::
        match plan.carryOut run around before with
        | .ok after => exportsFrom run around after rest
        | .error _ => []

def RunOptions.plans (run : RunOptions) (around : Surroundings) : List Plan :=
  CommandLine.plans around.cwd run.sources run.out run.report

def RunOptions.exports (run : RunOptions) (around : Surroundings) : List (Plan × Exported) :=
  exportsFrom run around { tree := around.tree } (run.plans around)

def Plan.root (plan : Plan) (around : Surroundings) : Location := Path.resolve around.cwd plan.source

def Plan.place (plan : Plan) (around : Surroundings) (entry : Entry) : Location :=
  plan.root around ++ Path.names entry.path

variable {run : RunOptions} {around : Surroundings} {plan : Plan}

theorem carryOut_cases {before after : Progress} (h : plan.carryOut run around before = .ok after) :
    ∃ exported, Export.project { around with tree := before.tree } (plan.options run.exporting)
        plan.source = .ok exported ∧
      plan.write around.cwd run.reportFormat exported before.tree = .ok after.tree ∧
      after.done = before.done ++ [(plan, exported)] := by
  rw [Plan.carryOut] at h
  split at h
  · cases h
  · next exported hexport =>
      split at h
      · cases h
      · next tree hwrite =>
          cases h
          exact ⟨exported, hexport, hwrite, rfl⟩

theorem done_eq_exportsFrom {plans : List Plan} {before after : Progress}
    (h : plans.foldlM (fun progress plan => plan.carryOut run around progress) before = .ok after) :
    after.done = before.done ++ exportsFrom run around before plans := by
  induction plans generalizing before with
  | nil =>
      cases h
      exact (List.append_nil _).symm
  | cons plan plans ih =>
      rw [List.foldlM_cons] at h
      obtain ⟨between, hcarry, hrest⟩ := exists_of_bind_eq_ok h
      obtain ⟨exported, hexport, -, hdone⟩ := carryOut_cases hcarry
      simp only [exportsFrom, hexport, hcarry]
      rw [ih hrest, hdone, List.append_assoc]
      rfl

theorem done_eq_exports {progress : Progress}
    (h : carryOutAll run around (run.plans around) = .ok progress) :
    progress.done = run.exports around :=
  done_eq_exportsFrom h

theorem wellNamed_write {tree after : Node} {cwd : Location} (htree : tree.WellNamed)
    (hcwd : ∀ name ∈ cwd, IsName name) {format : ReportFormat} {exported : Exported}
    (h : plan.write cwd format exported tree = .ok after) : after.WellNamed := by
  obtain ⟨written, hout, hreport⟩ := exists_of_bind_eq_ok h
  have hwritten := Node.wellNamed_writeText htree hcwd hout
  split at hreport
  · exact Node.wellNamed_writeText hwritten hcwd hreport
  · cases hreport
    exact hwritten

/-- Every export of a run is one of a plan of its own, from a tree with proper names. -/
theorem exists_project_of_mem_exportsFrom (hcwd : ∀ name ∈ around.cwd, IsName name) {plans : List Plan}
    {before : Progress} (htree : before.tree.WellNamed) {made : Plan × Exported}
    (h : made ∈ exportsFrom run around before plans) :
    ∃ tree : Node, tree.WellNamed ∧
      Export.project { around with tree } (made.1.options run.exporting) made.1.source = .ok made.2 := by
  induction plans generalizing before with
  | nil => cases h
  | cons plan plans ih =>
      rw [exportsFrom] at h
      split at h
      · cases h
      · next exported hexport =>
          rcases List.mem_cons.1 h with rfl | h
          · exact ⟨before.tree, htree, hexport⟩
          · split at h
            · next after hcarry =>
                obtain ⟨other, -, hwrite, -⟩ := carryOut_cases hcarry
                exact ih (wellNamed_write htree hcwd hwrite) h
            · cases h

theorem exists_sources_of_project {options : Export.Options} {source : Text} {exported : Exported}
    (h : Export.project around options source = .ok exported) {entry : Entry}
    (hentry : entry ∈ exported.entries) :
    ∃ paths, around.sources (Path.resolve around.cwd source) options.scan = .ok paths ∧
      entry.path ∈ paths := by
  rw [Export.project] at h
  cases hscan : around.sources (Path.resolve around.cwd source) options.scan with
  | error failure =>
      rw [hscan] at h
      cases h
  | ok paths =>
      rw [hscan] at h
      cases h
      exact ⟨paths, rfl, (Export.cut_intake rfl paths).path_mem hentry⟩

theorem own_output_ne_place (hfinder : around.finder.GivesPaths) (hcwd : ∀ name ∈ around.cwd, IsName name)
    {tree : Node} (htree : tree.WellNamed) {options : Export.Options} {exported : Exported}
    (h : Export.project { around with tree } (plan.options options) plan.source = .ok exported)
    {output : Text} (houtput : output ∈ plan.outputs) {entry : Entry} (hentry : entry ∈ exported.entries) :
    Path.resolve around.cwd output ≠ plan.place around entry := by
  obtain ⟨paths, hscan, hpath⟩ := exists_sources_of_project h hentry
  exact Scan.resolve_ne_of_mem_sources hcwd (Path.isSettled_resolve _ _) hfinder htree hscan hpath houtput

theorem below?_place (hfinder : around.finder.GivesPaths) {tree : Node} (htree : tree.WellNamed)
    {options : Export.Options} {exported : Exported}
    (h : Export.project { around with tree } (plan.options options) plan.source = .ok exported)
    {entry : Entry} (hentry : entry ∈ exported.entries) :
    Path.below? (plan.root around) (plan.place around entry) = some (Path.names entry.path) := by
  obtain ⟨paths, hscan, hpath⟩ := exists_sources_of_project h hentry
  obtain ⟨found, hfound, rfl⟩ := Scan.exists_found_of_sources hscan
  exact Path.below?_append _ (hfinder htree hfound _ (Scan.mem_select hpath).1).1

/-- No file that a run writes is exported by it, apart from those that another plan writes below the
root. -/
theorem outputs_not_exported (hfinder : around.finder.GivesPaths) (htree : around.tree.WellNamed)
    (hcwd : ∀ name ∈ around.cwd, IsName name) {made : Plan × Exported} (hmade : made ∈ run.exports around) :
    ∀ other ∈ run.plans around, ∀ output ∈ other.outputs,
      other = made.1 ∨ Path.below? (made.1.root around) (Path.resolve around.cwd output) = none →
        ∀ entry ∈ made.2.entries, Path.resolve around.cwd output ≠ made.1.place around entry := by
  obtain ⟨tree, hnames, hexport⟩ := exists_project_of_mem_exportsFrom hcwd htree hmade
  rintro other - output houtput (rfl | houtside) entry hentry
  · exact own_output_ne_place hfinder hcwd hnames hexport houtput hentry
  · intro hplace
    rw [hplace, below?_place hfinder hnames hexport hentry] at houtside
    cases houtside

end

/-- A run over a folder and the folder around it. Both documents go to the outer one, where that of an
earlier run still lies. -/
def nested : RunOptions where
  sources := [['a'], ['.']]
  out := ['.']
  exporting := { scan := { extensions := [".md".toList] } }
  report := none
  reportFormat := .json
  failOnWarnings := false
  verbose := false

def nestedAround : Surroundings where
  tree := .folder [("w".toList, .folder [("a".toList, .folder []), ("w.md".toList, .file [98])])]
  cwd := ["w".toList]
  now := []

def outerPlan : Plan := ⟨['.'], "w.md".toList, none⟩

theorem exists_outer_export : ∃ made ∈ nested.exports nestedAround,
    made.1 = outerPlan ∧ made.2.entries.map Entry.path = ["a.md".toList] := by
  have hexports : (nested.exports nestedAround).map (fun made => (made.1, made.2.entries.map Entry.path)) =
      [(⟨['a'], "a.md".toList, none⟩, []), (outerPlan, ["a.md".toList])] := by decide +kernel
  have hmem : (outerPlan, ["a.md".toList]) ∈
      (nested.exports nestedAround).map (fun made => (made.1, made.2.entries.map Entry.path)) := by
    rw [hexports]
    exact List.mem_cons_of_mem _ List.mem_cons_self
  obtain ⟨made, hmade, heq⟩ := List.mem_map.1 hmem
  exact ⟨made, hmade, Prod.mk.inj heq⟩

theorem outputs_not_exported_nested :
    nestedAround.finder.GivesPaths ∧ nestedAround.tree.WellNamed ∧ (∀ name ∈ nestedAround.cwd, IsName name) ∧
      ∃ made ∈ nested.exports nestedAround, made.2.entries.map Entry.path = ["a.md".toList] ∧
        outerPlan ∈ nested.plans nestedAround ∧ "w.md".toList ∈ outerPlan.outputs ∧
          ∀ entry ∈ made.2.entries,
            Path.resolve nestedAround.cwd "w.md".toList ≠ made.1.place nestedAround entry := by
  have htree : nestedAround.tree.WellNamed := by
    refine .folder (by decide) (List.forall_mem_singleton.2 (.folder (by decide) ?_))
    refine List.forall_mem_cons.2 ⟨Node.wellNamed_emptyFolder, ?_⟩
    exact List.forall_mem_singleton.2 (.file [98])
  have hcwd : ∀ name ∈ nestedAround.cwd, IsName name := by decide
  have hplan : outerPlan ∈ nested.plans nestedAround := by decide
  have houtput : "w.md".toList ∈ outerPlan.outputs := List.mem_cons_self
  obtain ⟨made, hmade, houter, hentries⟩ := exists_outer_export
  exact ⟨Scan.givesPaths_find, htree, hcwd, made, hmade, hentries, hplan, houtput,
    outputs_not_exported Scan.givesPaths_find htree hcwd hmade outerPlan hplan _ houtput (.inl houter.symm)⟩

/-- The document of the inner folder is a source of the outer one. -/
theorem output_exported_nested :
    ∃ made ∈ nested.exports nestedAround, ∃ other ∈ nested.plans nestedAround,
      ∃ output ∈ other.outputs, ∃ entry ∈ made.2.entries,
        Path.resolve nestedAround.cwd output = made.1.place nestedAround entry := by
  obtain ⟨made, hmade, houter, hentries⟩ := exists_outer_export
  have hpath : "a.md".toList ∈ made.2.entries.map Entry.path := by
    rw [hentries]
    exact List.mem_singleton_self _
  obtain ⟨entry, hentry, hpath⟩ := List.mem_map.1 hpath
  refine ⟨made, hmade, ⟨['a'], "a.md".toList, none⟩, by decide, "a.md".toList, List.mem_cons_self, entry,
    hentry, ?_⟩
  rw [Plan.place, houter, hpath]
  decide

end SourceBook.CommandLine
