import Blurb.Style.Run

/-! # Calls and their answers

A single call that a style run makes, with the answer to it: what makes it a success, and which
failure it leads to otherwise.

* `CallRecord.Succeeded` and `CallRecord.FailsWith` say so by the answer alone, and exclude each
  other (`CallRecord.not_succeeded_of_failsWith`).
* `Settings.readListing_record` and `Settings.judge_record`: the run judges its calls like that. -/

namespace Blurb

/-! ## Outcomes of exit codes -/

namespace Outcome

/-- Exactly 0 and 1 are no errors. -/
theorem ofExitCode_ne_executionError_iff {code : Option Int} :
    ofExitCode code ≠ executionError ↔ code = some 0 ∨ code = some 1 := by
  unfold ofExitCode
  split <;> simp_all

/-- Only 0 is clean. -/
theorem ofExitCode_eq_clean_iff {code : Option Int} : ofExitCode code = clean ↔ code = some 0 := by
  unfold ofExitCode
  split <;> simp_all

/-- A payload that is no report turns any outcome into an error. -/
theorem classify_eq_executionError_iff {code : Option Int} {payload : Text} :
    classify code payload = executionError ↔
      ofExitCode code = executionError ∨ isReport payload = false := by
  unfold classify
  cases ofExitCode code <;> cases isReport payload <;> simp

/-- Nothing is better than clean. -/
theorem eq_clean_of_badness_le {outcome : Outcome} (h : outcome.badness ≤ clean.badness) :
    outcome = clean := by
  cases outcome <;> simp_all [badness]

theorem le_badness_worst_left (a b : Outcome) : a.badness ≤ (a.worst b).badness := by
  unfold worst
  split <;> omega

theorem le_badness_worst_right (a b : Outcome) : b.badness ≤ (a.worst b).badness := by
  unfold worst
  split <;> omega

theorem worst_eq_or (a b : Outcome) : a.worst b = a ∨ a.worst b = b := by
  unfold worst
  split <;> simp

end Outcome

/-! ## Names of rules -/

namespace RuleNames

/-- The requested names, qualified. -/
def qualified (known : RuleNames) (names : List Text) : List Text :=
  (requested names).map known.qualify

/-- The requested names that are not known, qualified. -/
def unknown (known : RuleNames) (names : List Text) : List Text :=
  (known.qualified names).filter fun name => !known.contains name

/-- **Every requested name is known**, in its own spelling or qualified. -/
def KnowsAll (known : RuleNames) (names : List Text) : Prop :=
  ∀ name ∈ requested names, known.contains (known.qualify name) = true

theorem unknown_eq_nil_iff {known : RuleNames} {names : List Text} :
    known.unknown names = [] ↔ known.KnowsAll names := by
  simp [unknown, qualified, KnowsAll, List.filter_eq_nil_iff]

/-- Nothing is requested, so nothing is unknown. -/
theorem knowsAll_nil (known : RuleNames) : known.KnowsAll [] := by
  intro name hname
  simp [requested] at hname

theorem resolve_eq (known : RuleNames) (names : List Text) :
    known.resolve names =
      if known.unknown names = [] then .ok (known.qualified names)
      else .error (known.unknown names) := by
  simp only [resolve, List.isEmpty_iff]
  rfl

end RuleNames

namespace Filter

/-- The names that a filter asks for. -/
def names : Filter → List Text
  | all => []
  | only names => names
  | except names => names

/-- **A filter with qualified names**; without names there is no restriction. -/
def qualified (known : RuleNames) : Filter → Filter
  | all => all
  | only names => if known.qualified names = [] then all else only (known.qualified names)
  | except names => if known.qualified names = [] then all else except (known.qualified names)

end Filter

/-! ## Records of calls -/

/-- **What a call is made for.** -/
inductive Purpose where
  /-- To learn the linter's rules. -/
  | listing
  /-- To run the linter. -/
  | linting
  /-- To run the checker. -/
  | checking
deriving Repr, DecidableEq

/-- **What a program of a purpose prints can be read.** -/
def Purpose.isReadable : Purpose → Text → Bool
  | listing, payload => (RuleNames.ofListing? payload).isSome
  | linting, payload => (linterReport? payload).isSome
  | checking, payload => (checkerReport? payload).isSome

/-- **A call and the answer to it**, with the files before and after. -/
structure CallRecord where
  /-- What it was made for. -/
  purpose : Purpose
  /-- The call. -/
  invocation : Invocation
  /-- The host that the program found. -/
  before : Host
  /-- The answer. -/
  reply : Reply
  /-- The host that the program left. -/
  after : Host

/-- The record of a call that a runner answers. -/
def Runner.record (runner : Runner) (purpose : Purpose) (past : List Invocation) (before : Host)
    (invocation : Invocation) : CallRecord where
  purpose := purpose
  invocation := invocation
  before := before
  reply := (runner past before invocation).1
  after := (runner past before invocation).2

/-- The program has run as it should: the exit code is 0 or 1, and where the output is captured, it
is a report that can be read. -/
def CommandOutput.IsUsable (output : CommandOutput) (purpose : Purpose) (mode : OutputMode) :
    Prop :=
  (output.code = some 0 ∨ output.code = some 1) ∧
    (mode = .structured →
      Outcome.isReport output.stdout = true ∧ purpose.isReadable output.stdout = true)

namespace CallRecord

/-- The exit code, if there is one. -/
def code? (record : CallRecord) : Option Int :=
  match record.reply with
  | .ok output => output.code
  | .error _ => none

/-- The rules that the answer lists. -/
def listed? (record : CallRecord) : Option RuleNames :=
  match record.reply with
  | .ok output => RuleNames.ofListing? output.stdout
  | .error _ => none

/-- **The call has succeeded.** A listing must end with 0, name rules, and know every name that the
filter asks for; the other programs must have run as they should. -/
def Succeeded (filter : Filter) (mode : OutputMode) (record : CallRecord) : Prop :=
  ∃ output, record.reply = .ok output ∧
    match record.purpose with
    | .listing => output.code = some 0 ∧ ∃ known, RuleNames.ofListing? output.stdout = some known ∧
        known.names ≠ [] ∧ known.KnowsAll filter.names
    | purpose => output.IsUsable purpose mode

/-- **The call leads to a failure**, which quotes its line and its answer. -/
def FailsWith (filter : Filter) (mode : OutputMode) (record : CallRecord) : StyleError → Prop
  | .spawn command reason =>
    command = record.invocation.commandLine ∧ record.reply = .error reason
  | .listing command fault =>
    command = record.invocation.commandLine ∧ record.purpose = .listing ∧
    ∃ output, record.reply = .ok output ∧
      match fault with
      | .exitCode code stderr => code = output.code ∧ stderr = output.stderr ∧ output.code ≠ some 0
      | .unreadable => output.code = some 0 ∧ RuleNames.ofListing? output.stdout = none
      | .empty => output.code = some 0 ∧
        ∃ known, RuleNames.ofListing? output.stdout = some known ∧ known.names = []
  | .unknownRules names =>
    record.purpose = .listing ∧
    ∃ output, record.reply = .ok output ∧ output.code = some 0 ∧
      ∃ known, RuleNames.ofListing? output.stdout = some known ∧ known.names ≠ [] ∧
        names = known.unknown filter.names ∧ names ≠ []
  | .execution command code stderr =>
    command = record.invocation.commandLine ∧ record.purpose ≠ .listing ∧
    ∃ output, record.reply = .ok output ∧ code = output.code ∧ stderr = output.stderr ∧
      ¬ (output.code = some 0 ∨ output.code = some 1)
  | .report command fault stderr =>
    command = record.invocation.commandLine ∧ record.purpose ≠ .listing ∧ mode = .structured ∧
    ∃ output, record.reply = .ok output ∧ (output.code = some 0 ∨ output.code = some 1) ∧
      stderr = output.stderr ∧
      match fault with
      | .tooShort size =>
        Outcome.isReport output.stdout = false ∧ size = Text.utf8Size output.stdout
      | .unreadable => record.purpose.isReadable output.stdout = false
  | .io =>
    record.purpose ≠ .listing ∧ mode = .structured ∧
      record.after.tree.isDirAt record.after.cwd = false

/-- A call that leads to a failure has not succeeded, unless only the working directory is gone. -/
theorem not_succeeded_of_failsWith {filter : Filter} {mode : OutputMode} {record : CallRecord}
    {fault : StyleError} (h : record.FailsWith filter mode fault) (hio : fault ≠ .io) :
    ¬ record.Succeeded filter mode := by
  rintro ⟨output, hreply, hgood⟩
  -- both are about the one answer, and each failure denies a part of the success
  cases fault with
  | io => exact hio rfl
  | spawn command reason => simp [FailsWith, hreply] at h
  | listing command fault =>
    obtain ⟨-, hpurpose, output', hreply', hfault⟩ := h
    obtain rfl : output = output' := by simpa [hreply] using hreply'
    simp only [hpurpose] at hgood
    obtain ⟨hcode, known, hknown, hnames, -⟩ := hgood
    cases fault <;> simp_all
  | unknownRules names =>
    obtain ⟨hpurpose, output', hreply', -, known, hknown, -, rfl, hnames⟩ := h
    obtain rfl : output = output' := by simpa [hreply] using hreply'
    simp only [hpurpose, hknown] at hgood
    obtain ⟨-, _, ⟨⟩, -, hall⟩ := hgood
    exact hnames (RuleNames.unknown_eq_nil_iff.2 hall)
  | execution command code stderr =>
    obtain ⟨-, hpurpose, output', hreply', rfl, -, hcode⟩ := h
    obtain rfl : output = output' := by simpa [hreply] using hreply'
    cases hp : record.purpose <;> simp_all [CommandOutput.IsUsable]
  | report command fault stderr =>
    obtain ⟨-, hpurpose, rfl, output', hreply', -, -, hfault⟩ := h
    obtain rfl : output = output' := by simpa [hreply] using hreply'
    cases hp : record.purpose <;> cases fault <;> simp_all [CommandOutput.IsUsable]

/-- **What the good call of a program yields**: its outcome, and findings exactly where the output
is captured. Those are read in a working directory. -/
structure Yields (filter : Filter) (mode : OutputMode) (record : CallRecord) (outcome : Outcome)
    (found : Option Findings) : Prop where
  /-- The call has succeeded. -/
  succeeded : record.Succeeded filter mode
  /-- The outcome is that of the exit code. -/
  outcome_eq : outcome = Outcome.ofExitCode record.code?
  /-- Findings are there exactly if the output was captured. -/
  found_iff : found.isSome ↔ mode = .structured
  /-- Then there was a working directory. -/
  directory : mode = .structured → record.after.tree.isDirAt record.after.cwd = true

/-- A program that has succeeded has exited with 0 or 1. -/
theorem Succeeded.code_mem {filter : Filter} {mode : OutputMode} {record : CallRecord}
    (h : record.Succeeded filter mode) : record.code? = some 0 ∨ record.code? = some 1 := by
  obtain ⟨output, hreply, hgood⟩ := h
  cases hp : record.purpose <;> simp_all [code?, CommandOutput.IsUsable]

/-- A listing that has succeeded has exited with 0. -/
theorem Succeeded.code_listing {filter : Filter} {mode : OutputMode} {record : CallRecord}
    (h : record.Succeeded filter mode) (hp : record.purpose = .listing) :
    record.code? = some 0 := by
  obtain ⟨output, hreply, hgood⟩ := h
  simp only [hp] at hgood
  simp [code?, hreply, hgood.1]

end CallRecord

/-! ## Judging an answer -/

namespace Settings

theorem isSome_readReport (canonicalize? : Path → Option Path) (base : Path) (payload : Text) :
    (readReport canonicalize? base payload).isSome = Purpose.linting.isReadable payload := by
  simp [readReport, Purpose.isReadable]

theorem isSome_readComments (canonicalize? : Path → Option Path) (base : Path) (payload : Text) :
    (readComments canonicalize? base payload).isSome = Purpose.checking.isReadable payload := by
  simp [readComments, Purpose.isReadable]

/-- **What the listing is judged to be**: rules only if the answer is a listing that names some, and
else the failure that the call leads to. -/
theorem readListing_record {record : CallRecord} (hp : record.purpose = .listing) (filter : Filter)
    (mode : OutputMode) :
    match readListing record.invocation.commandLine record.reply with
    | .ok known => ∃ output, record.reply = .ok output ∧ output.code = some 0 ∧
        RuleNames.ofListing? output.stdout = some known ∧ known.names ≠ []
    | .error fault => record.FailsWith filter mode fault := by
  unfold readListing
  cases hreply : record.reply with
  | error reason => exact ⟨rfl, hreply⟩
  | ok output =>
    by_cases hcode : output.code = some 0
    · simp only [hcode, ne_eq, not_true_eq_false, ↓reduceIte]
      cases hlisting : RuleNames.ofListing? output.stdout with
      | none => exact ⟨rfl, hp, output, hreply, hcode, hlisting⟩
      | some known =>
        cases hempty : known.isEmpty with
        | true =>
          simp only [hempty, ↓reduceIte]
          exact ⟨rfl, hp, output, hreply, hcode, known, hlisting, List.isEmpty_iff.1 hempty⟩
        | false =>
          simp only [hempty, Bool.false_eq_true, ↓reduceIte]
          have hnames : known.names ≠ [] := by simpa [RuleNames.isEmpty] using hempty
          exact ⟨output, rfl, hcode, hlisting, hnames⟩
    · simp only [ne_eq, hcode, not_false_eq_true, ↓reduceIte]
      exact ⟨rfl, hp, output, hreply, rfl, rfl, hcode⟩

/-- **What the call of a program is judged to be**: what a good call yields, or else the failure
that it leads to. -/
theorem judge_record {record : CallRecord} {read : ReportReader} (hp : record.purpose ≠ .listing)
    (hread : ∀ canonicalize? base payload,
      (read canonicalize? base payload).isSome = record.purpose.isReadable payload)
    (filter : Filter) (mode : OutputMode) :
    match judge record.invocation.commandLine mode read record.after record.reply with
    | .ok (outcome, found) => record.Yields filter mode outcome found
    | .error fault => record.FailsWith filter mode fault := by
  -- success of a call that is no listing
  have succeeded {output : CommandOutput} (hreply : record.reply = .ok output)
      (h : output.IsUsable record.purpose mode) : record.Succeeded filter mode := by
    refine ⟨output, hreply, ?_⟩
    cases hpurpose : record.purpose with
    | listing => exact absurd hpurpose hp
    | linting => rwa [hpurpose] at h
    | checking => rwa [hpurpose] at h
  unfold judge
  -- the cases come in the order of the checks: start, exit code, size, working directory, parsing
  cases hreply : record.reply with
  | error reason => exact ⟨rfl, hreply⟩
  | ok output =>
    have hcode? : record.code? = output.code := by simp [CallRecord.code?, hreply]
    by_cases hcode : output.code = some 0 ∨ output.code = some 1
    case neg =>
      have herror : Outcome.ofExitCode output.code = .executionError := by
        simpa using mt Outcome.ofExitCode_ne_executionError_iff.1 hcode
      simp only [herror, ↓reduceIte]
      exact ⟨rfl, hp, output, hreply, rfl, rfl, hcode⟩
    case pos =>
    have hfine := Outcome.ofExitCode_ne_executionError_iff.2 hcode
    cases mode with
    | print =>
      simp only [hfine, ↓reduceIte]
      exact ⟨succeeded hreply ⟨hcode, nofun⟩, by rw [hcode?], by simp, nofun⟩
    | structured =>
      simp only [hfine, reduceCtorEq, ↓reduceIte, Outcome.classify_eq_executionError_iff, false_or]
      cases hreport : Outcome.isReport output.stdout with
      | false => exact ⟨rfl, hp, rfl, output, hreply, hcode, rfl, hreport, rfl⟩
      | true =>
        cases hdir : record.after.tree.isDirAt record.after.cwd with
        | false => exact ⟨hp, rfl, hdir⟩
        | true =>
          have hreadable := hread record.after.canonicalize? record.after.cwdPath output.stdout
          simp only [Bool.true_eq_false, Bool.not_true, Bool.false_eq_true, ↓reduceIte]
          cases hfound : read record.after.canonicalize? record.after.cwdPath output.stdout with
          | none =>
            rw [hfound] at hreadable
            exact ⟨rfl, hp, rfl, output, hreply, hcode, rfl, hreadable.symm⟩
          | some findings =>
            rw [hfound] at hreadable
            exact ⟨succeeded hreply ⟨hcode, fun _ => ⟨hreport, hreadable.symm⟩⟩, by rw [hcode?],
              by simp, fun _ => hdir⟩

end Settings

end Blurb
