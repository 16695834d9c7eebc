import SourceBook.Markdown.Pass

namespace SourceBook.Markdown

/-- The document that a pass leaves: a pass that fails leaves it as it was. -/
def Pass.result (pass : Pass) (content : Text) : Text :=
  match pass.apply content with
  | .ok done => done
  | .error _ => content

theorem content_run (pass : Pass) (document : Draft) :
    (pass.run document).content = pass.result document.content := by
  cases h : pass.apply document.content <;> simp [Pass.run, Pass.result, h]

def failing : List Pass → Text → List Pass
  | [], _ => []
  | pass :: rest, content =>
    match pass.apply content with
    | .ok done => failing rest done
    | .error _ => pass :: failing rest content

/-- The passes in their order, each with what it makes of the document that it gets. -/
def outcomes : List Pass → Text → List (Pass × Except Text Text)
  | [], _ => []
  | pass :: rest, content => (pass, pass.apply content) :: outcomes rest (pass.result content)

def passing (passes : List Pass) (content : Text) : List Pass :=
  ((outcomes passes content).filter fun outcome => outcome.2.isOk).map Prod.fst

def failures (passes : List Pass) (content : Text) : List (Pass × Text) :=
  (outcomes passes content).filterMap fun (pass, outcome) =>
    match outcome with
    | .ok _ => none
    | .error message => some (pass, message)

section

variable {pass : Pass} {rest : List Pass} {content done message : Text}

theorem outcomes_of_ok (h : pass.apply content = .ok done) :
    outcomes (pass :: rest) content = (pass, .ok done) :: outcomes rest done := by
  simp only [outcomes, Pass.result, h]

theorem outcomes_of_error (h : pass.apply content = .error message) :
    outcomes (pass :: rest) content = (pass, .error message) :: outcomes rest content := by
  simp only [outcomes, Pass.result, h]

theorem passing_of_ok (h : pass.apply content = .ok done) :
    passing (pass :: rest) content = pass :: passing rest done := by
  rw [passing, outcomes_of_ok h]
  rfl

theorem passing_of_error (h : pass.apply content = .error message) :
    passing (pass :: rest) content = passing rest content := by
  rw [passing, outcomes_of_error h]
  rfl

theorem failures_of_ok (h : pass.apply content = .ok done) :
    failures (pass :: rest) content = failures rest done := by
  rw [failures, outcomes_of_ok h]
  rfl

theorem failures_of_error (h : pass.apply content = .error message) :
    failures (pass :: rest) content = (pass, message) :: failures rest content := by
  rw [failures, outcomes_of_error h]
  rfl

end

section

variable (passes : List Pass) (content : Text)

theorem foldl_run (document : Draft) :
    passes.foldl (fun document pass => pass.run document) document =
      ⟨passes.foldl (fun content pass => pass.result content) document.content,
        document.warnings ++
          (failures passes document.content).map fun failure => failure.1.warning failure.2⟩ := by
  induction passes generalizing document with
  | nil => rw [failures, outcomes, List.filterMap_nil, List.map_nil, List.append_nil]; rfl
  | cons pass rest ih =>
      rw [List.foldl_cons, List.foldl_cons, ih, content_run]
      cases h : pass.apply document.content with
      | ok done => simp only [Pass.run, Pass.result, h, failures_of_ok h]
      | error message =>
          simp only [Pass.run, Pass.result, h, failures_of_error h, List.map_cons, List.append_assoc,
            List.singleton_append]

theorem content_runPasses :
    (runPasses passes content).content = passes.foldl (fun content pass => pass.result content) content := by
  rw [runPasses, foldl_run]

theorem warnings_runPasses :
    (runPasses passes content).warnings =
      (failures passes content).map fun failure => failure.1.warning failure.2 := by
  rw [runPasses, foldl_run, List.nil_append]

theorem map_fst_failures : (failures passes content).map Prod.fst = failing passes content := by
  induction passes generalizing content with
  | nil => rfl
  | cons pass rest ih =>
      rw [failing]
      cases h : pass.apply content with
      | ok done => rw [failures_of_ok h, ih]
      | error message => rw [failures_of_error h, List.map_cons, ih]

theorem length_warnings_runPasses :
    (runPasses passes content).warnings.length = (failing passes content).length := by
  rw [warnings_runPasses, ← map_fst_failures, List.length_map, List.length_map]

/-- What a pass makes of the document that the run of the passes before it leaves. -/
theorem getElem?_outcomes (i : Nat) :
    (outcomes passes content)[i]? =
      passes[i]?.map fun pass => (pass, pass.apply (runPasses (passes.take i) content).content) := by
  induction passes generalizing content i with
  | nil => rfl
  | cons pass rest ih =>
      cases i with
      | zero => rfl
      | succ i =>
          simp only [outcomes, List.getElem?_cons_succ, ih, List.take_succ_cons, content_runPasses,
            List.foldl_cons]

/-- Each pass that does not fail gets the same document in both runs, since the failing ones between
leave none. -/
theorem runPasses_passing :
    runPasses (passing passes content) content = ⟨(runPasses passes content).content, []⟩ := by
  have h : failures (passing passes content) content = [] ∧
      (passing passes content).foldl (fun content pass => pass.result content) content =
        passes.foldl (fun content pass => pass.result content) content := by
    induction passes generalizing content with
    | nil => exact ⟨rfl, rfl⟩
    | cons pass rest ih =>
        cases hpass : pass.apply content with
        | ok done =>
            have hresult : pass.result content = done := by rw [Pass.result, hpass]
            rw [passing_of_ok hpass, failures_of_ok hpass, List.foldl_cons, List.foldl_cons, hresult]
            exact ih done
        | error message =>
            have hresult : pass.result content = content := by rw [Pass.result, hpass]
            rw [passing_of_error hpass, List.foldl_cons, hresult]
            exact ih content
  rw [content_runPasses, runPasses, foldl_run, h.1, h.2]
  rfl

end

end SourceBook.Markdown
