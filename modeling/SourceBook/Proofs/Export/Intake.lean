import Mathlib.Data.List.Induction
import SourceBook.Export.Intake
import SourceBook.Proofs.Number.Order
import SourceBook.Proofs.Report.Findings

namespace SourceBook.Export

open Comment (Grammar Lexers)
open Document (Entry)
open Text (Bytes)

def bytesAt (read : Text → Except Text Bytes) (path : Text) : Bytes := (read path).toOption.getD []

def lexerFails (lexers : Lexers) (options : IntakeOptions) (path : Text) (bytes : Bytes) : Bool :=
  options.stripComments &&
    (lexers (Grammar.ofExtension (Path.extension path))).any fun lexer =>
      !(Comment.stripWith lexer (Text.decode bytes)).toBool

def Within (n : Nat) (cap : Option Number) : Prop := ∀ bound ∈ cap, .finite n ≤ bound

theorem exceeds_eq_false_iff {n : Nat} {cap : Option Number} : exceeds n cap = false ↔ Within n cap := by
  cases cap with
  | none => simp [exceeds, Within]
  | some bound => simp [exceeds, Within, Number.isExceededBy_eq_false_iff]

theorem exceeds_iff_not_within {n : Nat} {cap : Option Number} : exceeds n cap = true ↔ ¬ Within n cap := by
  rw [← exceeds_eq_false_iff, Bool.not_eq_false]

instance (n : Nat) (cap : Option Number) : Decidable (Within n cap) :=
  decidable_of_iff _ exceeds_eq_false_iff

theorem Within.of_le {m n : Nat} {cap : Option Number} (h : Within n cap) (hle : m ≤ n) : Within m cap :=
  fun bound hbound => (Number.finite_le_finite.2 (by exact_mod_cast hle)).trans (h bound hbound)

/-- Whether a file can be exported as far as it alone is concerned. -/
def isAcceptable (read : Text → Except Text Bytes) (options : IntakeOptions) (path : Text) : Bool :=
  match read path with
  | .ok bytes => Within bytes.length options.maxFileBytes ∧ 0 ∉ bytes.take 8000
  | .error _ => false

def refusalKinds : List Text := [Finding.unreadable, Finding.tooLarge, Finding.binary]

structure Admitted (lexers : Lexers) (read : Text → Except Text Bytes) (options : IntakeOptions)
    (entry : Entry) : Prop where
  readable : read entry.path = .ok (bytesAt read entry.path)
  fits : Within (bytesAt read entry.path).length options.maxFileBytes
  isText : 0 ∉ (bytesAt read entry.path).take 8000
  isTaken : entry = (entryOf lexers options entry.path (bytesAt read entry.path)).1
  unstripped : lexerFails lexers options entry.path (bytesAt read entry.path) = true →
    entry.content = Text.decode (bytesAt read entry.path)

section

variable (lexers : Lexers) (options : IntakeOptions) (path : Text) (bytes : Bytes)

theorem path_entryOf : (entryOf lexers options path bytes).1.path = path := by
  rw [entryOf]
  split <;> rfl

theorem grammar_stripBy (content extension : Text) :
    (Comment.stripBy lexers content extension).grammar = Grammar.ofExtension extension := by
  rw [Comment.stripBy]
  split
  · rfl
  · split <;> rfl

theorem grammar_entryOf :
    (entryOf lexers options path bytes).2.1 = Grammar.ofExtension (Path.extension path) := by
  rw [entryOf]
  split
  · exact grammar_stripBy lexers _ _
  · rfl

/-- A lexer that fails leaves the file as it is, with a warning, and there is no other warning. -/
theorem entryOf_cases :
    (lexerFails lexers options path bytes = true ∧
        (entryOf lexers options path bytes).1.content = Text.decode bytes ∧
        ∃ message, (entryOf lexers options path bytes).2.2 = some message) ∨
      (lexerFails lexers options path bytes = false ∧ (entryOf lexers options path bytes).2.2 = none) := by
  cases hs : options.stripComments with
  | false => exact .inr ⟨by rw [lexerFails, hs, Bool.false_and], by simp [entryOf, hs]⟩
  | true =>
      cases hl : lexers (Grammar.ofExtension (Path.extension path)) with
      | none =>
          refine .inr ⟨by simp [lexerFails, hl], ?_⟩
          simp [entryOf, hs, Comment.stripBy, hl]
      | some lexer =>
          cases hw : Comment.stripWith lexer (Text.decode bytes) with
          | ok stripped =>
              refine .inr ⟨by simp [lexerFails, hl, hw, Except.toBool], ?_⟩
              simp [entryOf, hs, Comment.stripBy, hl, hw]
          | error message =>
              refine .inl ⟨by simp [lexerFails, hs, hl, hw, Except.toBool], ?_⟩
              simp [entryOf, hs, Comment.stripBy, hl, hw]

end

theorem name_ne_lostKey (grammar : Grammar) : grammar.name ≠ Data.lostKey := by
  cases grammar <;> decide

section

variable {lexers : Lexers} {read : Text → Except Text Bytes} {options : IntakeOptions}

theorem kind_of_refusal? {bytes : Bytes} {kind message : Text}
    (h : refusal? options bytes = some (kind, message)) : kind ∈ refusalKinds := by
  rw [refusal?] at h
  split_ifs at h <;> cases h <;> decide

theorem looksBinary_iff {bytes : Bytes} : Text.looksBinary bytes = true ↔ 0 ∈ bytes.take 8000 :=
  List.contains_iff_mem

theorem isAcceptable_of_ok {path : Text} {bytes : Bytes} (hread : read path = .ok bytes) :
    isAcceptable read options path = (refusal? options bytes).isNone := by
  rw [isAcceptable, hread, refusal?]
  split_ifs with hlarge hbinary
  · simp [exceeds_iff_not_within.1 hlarge]
  · simp [looksBinary_iff.1 hbinary]
  · rw [Bool.not_eq_true] at hlarge
    simp [exceeds_eq_false_iff.1 hlarge, mt looksBinary_iff.2 hbinary]

theorem read_of_isAcceptable {path : Text} (h : isAcceptable read options path = true) :
    read path = .ok (bytesAt read path) ∧ Within (bytesAt read path).length options.maxFileBytes ∧
      0 ∉ (bytesAt read path).take 8000 := by
  rw [isAcceptable] at h
  cases hread : read path with
  | error message =>
      rw [hread] at h
      cases h
  | ok bytes =>
      have hbytes : bytesAt read path = bytes := by rw [bytesAt, hread]; rfl
      rw [hread] at h
      rw [hbytes]
      exact ⟨rfl, of_decide_eq_true h⟩

theorem admitted_entryOf {path : Text} (h : isAcceptable read options path = true) :
    Admitted lexers read options (entryOf lexers options path (bytesAt read path)).1 := by
  obtain ⟨hread, hfits, hisText⟩ := read_of_isAcceptable h
  have hpath := path_entryOf lexers options path (bytesAt read path)
  refine
    { readable := by rw [hpath, hread]
      fits := by rw [hpath]; exact hfits
      isText := by rw [hpath]; exact hisText
      isTaken := by rw [hpath]
      unstripped := fun hfails => ?unstripped }
  case unstripped =>
    rw [hpath] at hfails
    rw [hpath]
    rcases entryOf_cases lexers options path (bytesAt read path) with ⟨-, hcontent, -⟩ | ⟨hworks, -⟩
    · exact hcontent
    · rw [hworks] at hfails
      exact absurd hfails (by decide)

/-- All that one path can do. -/
inductive Intake.Move (lexers : Lexers) (read : Text → Except Text Bytes) (options : IntakeOptions)
    (intake : Intake) (path : Text) : Intake → Prop
  | refused {kind : Text} (message : Text) (hopen : intake.isFull = false)
      (hrefused : isAcceptable read options path = false) (hkind : kind ∈ refusalKinds) :
      Move lexers read options intake path (intake.skip path kind message)
  | behind (message : Text) (hfull : intake.isFull = true) :
      Move lexers read options intake path (intake.skip path Finding.totalLimit message)
  | overflow (message : Text) (hopen : intake.isFull = false)
      (haccepted : isAcceptable read options path = true)
      (htotal : ¬ Within (intake.bytes + (bytesAt read path).length) options.maxTotalBytes) :
      Move lexers read options intake path
        ({ intake with isFull := true }.skip path Finding.totalLimit message)
  | taken (hopen : intake.isFull = false) (haccepted : isAcceptable read options path = true)
      (htotal : Within (intake.bytes + (bytesAt read path).length) options.maxTotalBytes) :
      Move lexers read options intake path (intake.take lexers options path (bytesAt read path))

theorem move_step (lexers : Lexers) (read : Text → Except Text Bytes) (options : IntakeOptions)
    (intake : Intake) (path : Text) :
    intake.Move lexers read options path (intake.step lexers read options path) := by
  rw [Intake.step]
  cases hfull : intake.isFull with
  | true => exact .behind _ hfull
  | false =>
      rw [if_neg (by decide)]
      cases hread : read path with
      | error message =>
          exact .refused message hfull (by rw [isAcceptable, hread]) (by decide)
      | ok bytes =>
          have hbytes : bytesAt read path = bytes := by rw [bytesAt, hread]; rfl
          have haccepts : isAcceptable read options path = (refusal? options bytes).isNone :=
            isAcceptable_of_ok hread
          cases hrefusal : refusal? options bytes with
          | some refusal =>
              simp only [hrefusal]
              exact .refused _ hfull (by rw [haccepts, hrefusal]; rfl) (kind_of_refusal? hrefusal)
          | none =>
              have haccepted : isAcceptable read options path = true := by rw [haccepts, hrefusal]; rfl
              cases htotal : exceeds (intake.bytes + bytes.length) options.maxTotalBytes with
              | true =>
                  simp only [hrefusal, htotal, if_true]
                  exact .overflow _ hfull haccepted (by rw [hbytes]; exact exceeds_iff_not_within.1 htotal)
              | false =>
                  simp only [hrefusal, htotal, Bool.false_eq_true, if_false]
                  rw [← hbytes]
                  exact .taken hfull haccepted (by rw [hbytes]; exact exceeds_eq_false_iff.1 htotal)

structure Intake.Balanced (lexers : Lexers) (read : Text → Except Text Bytes) (options : IntakeOptions)
    (done : List Text) (intake : Intake) : Prop where
  once : ∀ path, done.count path = (intake.entries.map Entry.path).count path +
    (intake.report.places Finding.isSkip).count path
  skipped : intake.report.skipped = (intake.report.places Finding.isSkip).length
  grammars : (intake.report.byGrammar.map Prod.snd).sum = intake.entries.length
  bytes : intake.bytes = (intake.entries.map fun entry => (bytesAt read entry.path).length).sum
  total : Within 0 options.maxTotalBytes → Within intake.bytes options.maxTotalBytes
  admitted : ∀ entry ∈ intake.entries, Admitted lexers read options entry
  stripFailures : intake.report.places (Finding.isOf Finding.stripFailed) =
    (intake.entries.filter fun entry =>
      lexerFails lexers options entry.path (bytesAt read entry.path)).map Entry.path
  normalizeFailures : intake.report.places (Finding.isOf Finding.normalizeFailed) = []
  warnings : intake.report.warnings = intake.report.skipped +
    (intake.report.places (Finding.isOf Finding.stripFailed)).length

/-- The cut that the total makes. In front of it every file was taken or refused for itself. The file
at it would have gone beyond the total, and behind it nothing was read. -/
structure Intake.Cut (read : Text → Except Text Bytes) (options : IntakeOptions) (done : List Text)
    (intake : Intake) : Prop where
  early : ∃ early, done = early ++ intake.report.atLimit ∧
    intake.entries.map Entry.path = early.filter (isAcceptable read options) ∧
    intake.report.refused = early.filter fun path => !isAcceptable read options path
  isFull : intake.isFull = !intake.report.atLimit.isEmpty
  overflow : ∀ path ∈ intake.report.atLimit.head?, isAcceptable read options path = true ∧
    ¬ Within (intake.bytes + (bytesAt read path).length) options.maxTotalBytes

variable {done : List Text} {intake : Intake}

section

variable {report : Report} (hfindings : report.findings = [])

include hfindings

theorem balanced_start (hskipped : report.skipped = 0) (hgrammars : report.byGrammar = []) :
    (Intake.start report).Balanced lexers read options [] := by
  have hplaces (p : Finding → Bool) : report.places p = [] := by rw [Report.places, hfindings]; rfl
  have hwarnings : report.warnings = 0 := by rw [Report.warnings, hfindings]; rfl
  constructor <;> simp [Intake.start, hplaces, hskipped, hgrammars, hwarnings]

theorem cut_start : (Intake.start report).Cut read options [] := by
  have hplaces (p : Finding → Bool) : report.places p = [] := by rw [Report.places, hfindings]; rfl
  constructor <;> simp [Intake.start, Report.atLimit, Report.refused, hplaces]

end

theorem Intake.Balanced.skip (h : intake.Balanced lexers read options done) {kind : Text}
    (hkind : kind ∈ Finding.totalLimit :: refusalKinds) (isFull : Bool) (path message : Text) :
    ({ intake with isFull }.skip path kind message).Balanced lexers read options (done ++ [path]) := by
  let finding : Finding := ⟨kind, Finding.warning, message, some path⟩
  have hkinds : kind = Finding.totalLimit ∨ kind = Finding.unreadable ∨ kind = Finding.tooLarge ∨
      kind = Finding.binary := by simpa [refusalKinds] using hkind
  have hskip : finding.isSkip = true := by rcases hkinds with rfl | rfl | rfl | rfl <;> rfl
  have hstrip : finding.isOf Finding.stripFailed = false := by
    rcases hkinds with rfl | rfl | rfl | rfl <;> rfl
  have hnormalize : finding.isOf Finding.normalizeFailed = false := by
    rcases hkinds with rfl | rfl | rfl | rfl <;> rfl
  have hskips := Report.places_record_of_true hskip intake.report
  have hstrips := Report.places_record_of_false hstrip intake.report
  refine
    { once := fun other => ?once
      skipped := ?skipped
      grammars := h.grammars
      bytes := h.bytes
      total := h.total
      admitted := h.admitted
      stripFailures := hstrips.trans h.stripFailures
      normalizeFailures := (Report.places_record_of_false hnormalize intake.report).trans h.normalizeFailures
      warnings := ?warnings }
  case once =>
    show (done ++ [path]).count other = _ + ((intake.report.record finding).places Finding.isSkip).count other
    rw [hskips, List.count_append, List.count_append, h.once other, Nat.add_assoc]
    rfl
  case skipped =>
    show (intake.report.record finding).skipped =
      ((intake.report.record finding).places Finding.isSkip).length
    rw [hskips, Report.skipped_record, hskip, if_pos rfl, h.skipped, List.length_append]
    rfl
  case warnings =>
    show (intake.report.record finding).warnings = (intake.report.record finding).skipped +
      ((intake.report.record finding).places _).length
    rw [hstrips, Report.warnings_record, Report.skipped_record, hskip, h.warnings,
      if_pos rfl, if_pos (show finding.isWarning = true from rfl)]
    omega

theorem report_take_cases (lexers : Lexers) (options : IntakeOptions) (intake : Intake) (path : Text)
    (bytes : Bytes) :
    ∃ report, (intake.take lexers options path bytes).report = report.countGrammar
        (Grammar.ofExtension (Path.extension path)).name ∧
      (lexerFails lexers options path bytes = true ∧
          (∃ message, report =
            intake.report.record ⟨Finding.stripFailed, Finding.warning, message, some path⟩) ∨
        lexerFails lexers options path bytes = false ∧ report = intake.report) := by
  rw [← grammar_entryOf lexers options path bytes]
  rcases entryOf_cases lexers options path bytes with ⟨hfails, -, message, hmessage⟩ | ⟨hworks, hnone⟩
  · refine ⟨_, ?_, .inl ⟨hfails, message, rfl⟩⟩
    simp only [Intake.take, hmessage]
  · refine ⟨_, ?_, .inr ⟨hworks, rfl⟩⟩
    simp only [Intake.take, hnone]

section

variable (lexers options intake) (path : Text) (bytes : Bytes)

theorem entries_take : (intake.take lexers options path bytes).entries.map Entry.path =
    intake.entries.map Entry.path ++ [path] := by
  show (intake.entries ++ [(entryOf lexers options path bytes).1]).map Entry.path = _
  rw [List.map_append, List.map_singleton, path_entryOf]

/-- A finding about comments that stay is no finding about a file that is skipped. -/
theorem places_take {p : Finding → Bool}
    (hp : ∀ message, p ⟨Finding.stripFailed, Finding.warning, message, some path⟩ = false) :
    (intake.take lexers options path bytes).report.places p = intake.report.places p := by
  obtain ⟨report, hreport, hcases⟩ := report_take_cases lexers options intake path bytes
  rw [hreport]
  rcases hcases with ⟨-, message, rfl⟩ | ⟨-, rfl⟩
  · exact Report.places_record_of_false (hp message) intake.report
  · rfl

end

theorem Intake.Balanced.take (h : intake.Balanced lexers read options done) {path : Text}
    (haccepted : isAcceptable read options path = true)
    (htotal : Within (intake.bytes + (bytesAt read path).length) options.maxTotalBytes) :
    (intake.take lexers options path (bytesAt read path)).Balanced lexers read options
      (done ++ [path]) := by
  obtain ⟨report, hreport, hcases⟩ := report_take_cases lexers options intake path (bytesAt read path)
  let entry := (entryOf lexers options path (bytesAt read path)).1
  have hpath : entry.path = path := path_entryOf lexers options path (bytesAt read path)
  have hentries : (intake.take lexers options path (bytesAt read path)).entries =
      intake.entries ++ [entry] := rfl
  have hskips := places_take lexers options intake path (bytesAt read path) (p := Finding.isSkip)
    fun _ => rfl
  have hskipped : (intake.take lexers options path (bytesAt read path)).report.skipped =
      intake.report.skipped := by
    rw [hreport]
    rcases hcases with ⟨-, message, rfl⟩ | ⟨-, rfl⟩ <;> rfl
  refine
    { once := fun other => ?once
      skipped := by rw [hskips, hskipped, h.skipped]
      grammars := ?grammars
      bytes := ?bytes
      total := fun _ => htotal
      admitted := fun other hother => ?admitted
      stripFailures := ?stripFailures
      normalizeFailures := (places_take lexers options intake path _ fun _ => rfl).trans h.normalizeFailures
      warnings := ?warnings }
  case once =>
    rw [hskips, entries_take, List.count_append, List.count_append, h.once other]
    omega
  case grammars =>
    rw [hreport, hentries, List.length_append]
    refine (Counts.sum_bump (name_ne_lostKey _) report.byGrammar).trans ?_
    rw [List.length_singleton, ← h.grammars]
    rcases hcases with ⟨-, message, rfl⟩ | ⟨-, rfl⟩ <;> rfl
  case bytes =>
    show intake.bytes + (bytesAt read path).length = _
    rw [hentries, List.map_append, List.sum_append, h.bytes, List.map_singleton, List.sum_singleton, hpath]
  case admitted =>
    rcases List.mem_append.1 hother with hold | hnew
    · exact h.admitted other hold
    · rw [List.mem_singleton.1 hnew]
      exact admitted_entryOf haccepted
  case stripFailures =>
    rw [hreport, hentries, List.filter_append, List.map_append, ← h.stripFailures]
    have hnew : ([entry].filter fun entry =>
        lexerFails lexers options entry.path (bytesAt read entry.path)).map Entry.path =
          if lexerFails lexers options path (bytesAt read path) then [path] else [] := by
      rw [List.filter_singleton, hpath]
      cases lexerFails lexers options path (bytesAt read path) <;> simp [hpath]
    rw [hnew]
    rcases hcases with ⟨hfails, message, rfl⟩ | ⟨hworks, rfl⟩
    · rw [hfails, if_pos rfl]
      exact Report.places_record_of_true rfl intake.report
    · rw [hworks, if_neg (by decide), List.append_nil]
      rfl
  case warnings =>
    rw [hskipped, hreport]
    rcases hcases with ⟨-, message, rfl⟩ | ⟨-, rfl⟩
    · refine (Report.warnings_record _ _).trans ?_
      show _ = _ + ((intake.report.record _).places (Finding.isOf Finding.stripFailed)).length
      rw [Report.places_record_of_true rfl, h.warnings, List.length_append]
      rfl
    · exact h.warnings

theorem Intake.Balanced.move (h : intake.Balanced lexers read options done) {path : Text}
    {after : Intake} (hmove : intake.Move lexers read options path after) :
    after.Balanced lexers read options (done ++ [path]) := by
  cases hmove with
  | refused message hopen hrefused hkind =>
      exact h.skip (List.mem_cons_of_mem _ hkind) intake.isFull path message
  | behind message hfull => exact h.skip List.mem_cons_self intake.isFull path message
  | overflow message hopen haccepted htotal => exact h.skip List.mem_cons_self true path message
  | taken hopen haccepted htotal => exact h.take haccepted htotal

theorem Intake.Cut.atLimit_eq_nil (h : intake.Cut read options done) (hopen : intake.isFull = false) :
    intake.report.atLimit = [] := by
  rw [h.isFull] at hopen
  simpa using hopen

/-- A file that is refused for itself stands in front of the cut. -/
theorem Intake.Cut.refuse (h : intake.Cut read options done) (hopen : intake.isFull = false) {path : Text}
    (hrefused : isAcceptable read options path = false) {kind : Text} (hkind : kind ∈ refusalKinds)
    (message : Text) : (intake.skip path kind message).Cut read options (done ++ [path]) := by
  let finding : Finding := ⟨kind, Finding.warning, message, some path⟩
  have hkinds : kind = Finding.unreadable ∨ kind = Finding.tooLarge ∨ kind = Finding.binary := by
    simpa [refusalKinds] using hkind
  have hlimit : finding.isOf Finding.totalLimit = false := by rcases hkinds with rfl | rfl | rfl <;> rfl
  have hskip : (finding.isSkip && !finding.isOf Finding.totalLimit) = true := by
    rcases hkinds with rfl | rfl | rfl <;> rfl
  have hatLimit : (intake.skip path kind message).report.atLimit = [] :=
    (Report.places_record_of_false hlimit intake.report).trans (h.atLimit_eq_nil hopen)
  obtain ⟨early, hdone, htaken, hrefusals⟩ := h.early
  rw [h.atLimit_eq_nil hopen, List.append_nil] at hdone
  refine
    { early := ⟨early ++ [path], ?behind, ?taken, ?refusals⟩
      isFull := by rw [hatLimit]; exact hopen
      overflow := by rw [hatLimit]; simp }
  case behind => rw [hatLimit, List.append_nil, hdone]
  case taken =>
    rw [List.filter_append, ← htaken, List.filter_singleton, hrefused]
    exact (List.append_nil _).symm
  case refusals =>
    rw [List.filter_append, ← hrefusals, List.filter_singleton, hrefused]
    exact Report.places_record_of_true hskip intake.report

/-- A file that the total keeps out stands at the cut or behind it. -/
theorem Intake.Cut.limit (h : intake.Cut read options done) {path : Text}
    (hcut : intake.isFull = true ∨ isAcceptable read options path = true ∧
      ¬ Within (intake.bytes + (bytesAt read path).length) options.maxTotalBytes)
    (message : Text) :
    ({ intake with isFull := true }.skip path Finding.totalLimit message).Cut read options
      (done ++ [path]) := by
  let finding : Finding := ⟨Finding.totalLimit, Finding.warning, message, some path⟩
  have hatLimit : (intake.report.record finding).atLimit = intake.report.atLimit ++ [path] :=
    Report.places_record_of_true rfl intake.report
  have hrefused : (intake.report.record finding).refused = intake.report.refused :=
    Report.places_record_of_false rfl intake.report
  obtain ⟨early, hdone, htaken, hrefusals⟩ := h.early
  refine
    { early := ⟨early, ?behind, htaken, hrefused.trans hrefusals⟩
      isFull := ?isFull
      overflow := fun other hother => ?overflow }
  case behind =>
    show done ++ [path] = early ++ (intake.report.record finding).atLimit
    rw [hatLimit, hdone, List.append_assoc]
  case isFull =>
    show true = !(intake.report.record finding).atLimit.isEmpty
    rw [hatLimit]
    simp
  case overflow =>
    have hhead : other ∈ (intake.report.atLimit ++ [path]).head? := by
      rw [← hatLimit]
      exact hother
    show isAcceptable read options other = true ∧
      ¬ Within (intake.bytes + (bytesAt read other).length) options.maxTotalBytes
    cases hlate : intake.report.atLimit with
    | cons first late =>
        rw [hlate] at hhead
        refine h.overflow other ?_
        rw [hlate]
        exact hhead
    | nil =>
        rw [hlate] at hhead
        cases hhead
        rcases hcut with hfull | hcut
        · rw [h.isFull, hlate] at hfull
          cases hfull
        · exact hcut

theorem Intake.Cut.take (h : intake.Cut read options done) (hopen : intake.isFull = false) {path : Text}
    (haccepted : isAcceptable read options path = true) (lexers : Lexers) :
    (intake.take lexers options path (bytesAt read path)).Cut read options (done ++ [path]) := by
  have hatLimit : (intake.take lexers options path (bytesAt read path)).report.atLimit = [] :=
    (places_take lexers options intake path _ fun _ => rfl).trans (h.atLimit_eq_nil hopen)
  obtain ⟨early, hdone, htaken, hrefusals⟩ := h.early
  rw [h.atLimit_eq_nil hopen, List.append_nil] at hdone
  refine
    { early := ⟨early ++ [path], ?behind, ?taken, ?refusals⟩
      isFull := by rw [hatLimit]; exact hopen
      overflow := by rw [hatLimit]; simp }
  case behind => rw [hatLimit, List.append_nil, hdone]
  case taken =>
    rw [entries_take, List.filter_append, ← htaken, List.filter_singleton, haccepted]
    rfl
  case refusals =>
    rw [List.filter_append, ← hrefusals, List.filter_singleton, haccepted]
    exact (places_take lexers options intake path _ fun _ => rfl).trans (List.append_nil _).symm

theorem Intake.Cut.move (h : intake.Cut read options done) {path : Text} {after : Intake}
    (hmove : intake.Move lexers read options path after) : after.Cut read options (done ++ [path]) := by
  cases hmove with
  | refused message hopen hrefused hkind => exact h.refuse hopen hrefused hkind message
  | behind message hfull =>
      have hsame : intake.skip path Finding.totalLimit message =
          { intake with isFull := true }.skip path Finding.totalLimit message := by rw [← hfull]
      rw [hsame]
      exact h.limit (.inl hfull) message
  | overflow message hopen haccepted htotal => exact h.limit (.inr ⟨haccepted, htotal⟩) message
  | taken hopen haccepted htotal => exact h.take hopen haccepted lexers

theorem scanned_move {after : Intake} {path : Text} (hmove : intake.Move lexers read options path after) :
    after.report.scanned = intake.report.scanned := by
  cases hmove with
  | refused message hopen hrefused hkind => rfl
  | behind message hfull => rfl
  | overflow message hopen haccepted htotal => rfl
  | taken hopen haccepted htotal =>
      obtain ⟨report, hreport, hcases⟩ :=
        report_take_cases lexers options intake path (bytesAt read path)
      rw [hreport]
      rcases hcases with ⟨-, message, rfl⟩ | ⟨-, rfl⟩ <;> rfl

/-- What holds at the start and is kept by every path holds behind all of them. -/
theorem intake_induction {P : List Text → Intake → Prop} {report : Report} (hstart : P [] (.start report))
    (hmove : ∀ done intake path after, P done intake → intake.Move lexers read options path after →
      P (done ++ [path]) after) (paths : List Text) :
    P paths (Export.intake lexers read options report paths) := by
  induction paths using List.reverseRecOn with
  | nil => exact hstart
  | append_singleton paths path ih =>
      rw [Export.intake, List.foldl_append]
      exact hmove paths _ path _ ih (move_step lexers read options _ path)

section

variable {report : Report} (hfindings : report.findings = [])

include hfindings

theorem balanced_intake (hskipped : report.skipped = 0) (hgrammars : report.byGrammar = [])
    (paths : List Text) :
    (Export.intake lexers read options report paths).Balanced lexers read options paths :=
  intake_induction (balanced_start hfindings hskipped hgrammars)
    (fun _ _ _ _ h hmove => h.move hmove) paths

theorem cut_intake (paths : List Text) :
    (Export.intake lexers read options report paths).Cut read options paths :=
  intake_induction (cut_start hfindings) (fun _ _ _ _ h hmove => h.move hmove) paths

end

theorem scanned_intake (report : Report) (paths : List Text) :
    (Export.intake lexers read options report paths).report.scanned = report.scanned :=
  intake_induction (P := fun _ intake => intake.report.scanned = report.scanned) rfl
    (fun _ _ _ _ h hmove => (scanned_move hmove).trans h) paths

theorem Intake.Cut.inOrder (h : intake.Cut read options done) :
    (intake.entries.map Entry.path).Sublist done := by
  obtain ⟨early, hdone, htaken, -⟩ := h.early
  rw [hdone, htaken]
  exact List.filter_sublist.trans (List.sublist_append_left _ _)

theorem Intake.Cut.path_mem (h : intake.Cut read options done) {entry : Entry}
    (hentry : entry ∈ intake.entries) : entry.path ∈ done :=
  h.inOrder.subset (List.mem_map_of_mem hentry)

end

end SourceBook.Export
