import Blurb.Proofs.CallRecords

/-! # Journals of style runs

The calls of a style run, in order, and what they tell about its result.

* `StyleJob.due`: the calls that are due. `StyleJob.Follows`: which call comes next.
* `StyleJob.FailsWith` and `StyleJob.Completes`: what a failure and a report say about the calls.
* `StyleJob.Account`: a journal that accounts for a run. -/

namespace Blurb

/-! ## Journals -/

/-- **The journal of a run**: its calls in order. -/
abbrev Journal := List CallRecord

namespace Journal

/-- The call for a purpose, if it was made. -/
def call? (journal : Journal) (purpose : Purpose) : Option CallRecord :=
  journal.find? fun record => record.purpose = purpose

/-- The host after the call for a purpose; the given one if that was not made. -/
def hostAfter (journal : Journal) (purpose : Purpose) (host : Host) : Host :=
  match journal.call? purpose with
  | some record => record.after
  | none => host

/-- The outcomes of the programs that ran, which the listing is none of. -/
def outcomes (journal : Journal) : List Outcome :=
  (journal.filter fun record => record.purpose ≠ .listing).map fun record =>
    Outcome.ofExitCode record.code?

end Journal

/-- The command that a failure quotes. -/
def StyleError.command? : StyleError → Option Text
  | .listing command _ => some command
  | .spawn command _ => some command
  | .execution command _ _ => some command
  | .report command _ _ => some command
  | .unknownRules _ => none
  | .io => none

/-- The rules that filters are resolved against: those of the settings, or else those listed. -/
def Settings.registry (settings : Settings) (journal : Journal) : RuleNames :=
  if settings.rules = [] then ((journal.call? .listing).bind CallRecord.listed?).getD ⟨[]⟩
  else .ofList settings.rules

/-- **What a style run is given**, apart from what answers its calls. -/
structure StyleJob where
  /-- The settings. -/
  settings : Settings
  /-- The files; the default target is checked if there are none. -/
  files : List Path
  /-- What it is asked to do. -/
  options : Options
  /-- Where the output goes. -/
  mode : OutputMode
  /-- The host that it starts on. -/
  host : Host

namespace StyleJob

/-- **The run of a job**, with what answers its calls. -/
def run (job : StyleJob) (runner : Runner) : Except StyleError StyleReport × Session :=
  job.settings.check runner job.files job.options job.mode job.host

/-- The calls that are due before the linter's: the listing, if the filter has names and the
settings do not say which rules there are. -/
def dueBefore (job : StyleJob) : List Purpose :=
  if job.options.filter ≠ .all ∧ job.settings.rules = [] then [.listing] else []

/-- The calls that are due after the linter's: that of the checker, if no files were given, there
is a checker, and it has files to check. -/
def dueAfter (job : StyleJob) (host : Host) : List Purpose :=
  if job.files = [] ∧ (job.settings.locateChecker host).isOk ∧ job.settings.shellFiles host ≠ []
  then [.checking] else []

/-- **The calls that are due**, in order. What the linter leaves decides about the checker. -/
def due (job : StyleJob) (journal : Journal) : List Purpose :=
  job.dueBefore ++ .linting :: job.dueAfter (journal.hostAfter .linting job.host)

/-- **The next call of a journal**: the runner answers it, knowing the calls before, and it is the
one that its purpose asks for at that point. -/
def Follows (job : StyleJob) (runner : Runner) (past : Journal) (record : CallRecord) : Prop :=
  runner (past.map CallRecord.invocation) record.before record.invocation =
    (record.reply, record.after) ∧
  match record.purpose with
  | .listing => record.before = job.host ∧ record.invocation = job.settings.listingInvocation
  | .linting =>
    -- only the cache is removed in between
    job.settings.dropCache job.options.resetCache (past.hostAfter .listing job.host) =
      .ok record.before ∧
    record.invocation = job.settings.linterInvocation record.before job.files job.options
      (job.options.filter.qualified (job.settings.registry past)) job.mode
  | .checking => record.before = past.hostAfter .linting job.host ∧
    job.settings.checkerInvocation record.before job.mode = .ok record.invocation

/-- **A journal of the job**: each of its calls follows from those before it. -/
def IsJournal (job : StyleJob) (runner : Runner) (journal : Journal) : Prop :=
  ∀ past record future, journal = past ++ record :: future → job.Follows runner past record

/-- Every name that the filter asks for is known. -/
def KnowsNames (job : StyleJob) (journal : Journal) : Prop :=
  (job.settings.registry journal).KnowsAll job.options.filter.names

/-- **The cache cannot be removed**: what stands in its place is no directory. -/
def CacheStays (job : StyleJob) (journal : Journal) : Prop :=
  job.options.resetCache = true ∧
  let host := journal.hostAfter .listing job.host
  ∃ place, host.tree.resolve host.cwd job.settings.styleCache = some place ∧
    host.tree.isDirAt place = false

/-- **The file system fails the run itself**: the cache cannot be removed, or a report is to be read
without a working directory. -/
def FileFailure (job : StyleJob) (journal : Journal) : Prop :=
  job.CacheStays journal ∨
  job.mode = .structured ∧ ∃ record ∈ journal, record.purpose ≠ .listing ∧
    record.after.tree.isDirAt record.after.cwd = false

/-- **What a run can fail with**, given its journal. -/
inductive FailsWith (job : StyleJob) (journal : Journal) : StyleError → Prop where
  /-- The last call leads to the failure. -/
  | call {record : CallRecord} {fault : StyleError} (last : journal.getLast? = some record)
    (failed : record.FailsWith job.options.filter job.mode fault) : FailsWith job journal fault
  /-- Names are not among the rules of the settings; nothing is called. -/
  | names (first : journal = []) (given : job.settings.rules ≠ [])
    (missing : (job.settings.registry journal).unknown job.options.filter.names ≠ []) :
    FailsWith job journal
      (.unknownRules ((job.settings.registry journal).unknown job.options.filter.names))
  /-- The cache cannot be removed; no program has been called but for the listing. -/
  | cache (before : ∀ record ∈ journal, record.purpose = .listing)
    (stays : job.CacheStays journal) : FailsWith job journal .io

/-- **What a run has done that comes to a report**, given its journal. -/
structure Completes (job : StyleJob) (journal : Journal) (report : StyleReport) : Prop where
  /-- All calls that are due were made. -/
  due : journal.map CallRecord.purpose = job.due journal
  /-- They have succeeded. -/
  succeeded : ∀ record ∈ journal, record.Succeeded job.options.filter job.mode
  /-- The filter's names are known. -/
  known : job.KnowsNames journal
  /-- The run's own use of the file system has not failed. -/
  noFailure : ¬ job.FileFailure journal
  /-- The outcome is one of those of the programs. -/
  outcome_mem : report.outcome ∈ journal.outcomes
  /-- None of them is worse. -/
  outcome_worst : ∀ outcome ∈ journal.outcomes, outcome.badness ≤ report.outcome.badness
  /-- Findings are reported exactly if the output was captured. -/
  result : report.result.isSome ↔ job.mode = .structured

/-- **The account of a run**: its journal tells the calls that were made and explains the result. -/
structure Account (job : StyleJob) (runner : Runner) (journal : Journal)
    (run : Except StyleError StyleReport × Session) : Prop where
  /-- The calls are those of the journal. -/
  calls : run.2.calls = journal.map CallRecord.invocation
  /-- Each follows from those before it. -/
  isJournal : job.IsJournal runner journal
  /-- They are due, in this order. -/
  due : journal.map CallRecord.purpose <+: job.due journal
  /-- Only the last may have failed. -/
  succeeded : ∀ record ∈ journal.dropLast, record.Succeeded job.options.filter job.mode
  /-- A report stands for a complete run. -/
  ok : ∀ report, run.1 = .ok report → job.Completes journal report
  /-- A failure has its reason. -/
  error : ∀ fault, run.1 = .error fault → job.FailsWith journal fault

variable {job : StyleJob} {runner : Runner} {journal : Journal}

theorem isJournal_nil : job.IsJournal runner [] := by
  intro past record future h
  simp at h

/-- What holds of each call of a journal given those before it holds of a journal with one call
more, if it holds of that. -/
theorem Journal.forall_concat {P : Journal → CallRecord → Prop} {record : CallRecord}
    (h : ∀ past record future, journal = past ++ record :: future → P past record)
    (hrecord : P journal record) :
    ∀ past record' future, journal ++ [record] = past ++ record' :: future → P past record' := by
  intro past record' future heq
  -- the record in question is the new one, or it stands in the old journal with the same past
  rcases List.eq_nil_or_concat future with rfl | ⟨future, last, rfl⟩
  · obtain ⟨rfl, hlast⟩ := List.append_inj' heq rfl
    obtain rfl : record = record' := by simpa using hlast
    exact hrecord
  · rw [List.concat_eq_append, ← List.cons_append, ← List.append_assoc] at heq
    exact h past record' future (List.append_inj' heq rfl).1

/-- A journal grows by a call that follows. -/
theorem IsJournal.concat {record : CallRecord} (h : job.IsJournal runner journal)
    (hrecord : job.Follows runner journal record) : job.IsJournal runner (journal ++ [record]) :=
  Journal.forall_concat h hrecord

/-- **Unless a call fails, a name is unknown or the file system fails the run, there is a report.**
-/
theorem not_failsWith {fault : StyleError}
    (hcalls : ∀ record ∈ journal, record.Succeeded job.options.filter job.mode)
    (hnames : job.KnowsNames journal) (hfiles : ¬ job.FileFailure journal) :
    ¬ job.FailsWith journal fault := by
  intro h
  cases h with
  | @call record _ last failed =>
    have hmem : record ∈ journal := List.mem_of_getLast? last
    -- a call may succeed and still leave no working directory to read its report in
    by_cases hio : fault = .io
    · subst hio
      exact hfiles (.inr ⟨failed.2.1, record, hmem, failed.1, failed.2.2⟩)
    · exact CallRecord.not_succeeded_of_failsWith failed hio (hcalls record hmem)
  | names _ _ missing => exact missing (RuleNames.unknown_eq_nil_iff.2 hnames)
  | cache _ stays => exact hfiles (.inl stays)

/-- A failure that quotes a command quotes the last call. -/
theorem FailsWith.command_eq {fault : StyleError} (h : job.FailsWith journal fault)
    {command : Text} (hcommand : fault.command? = some command) :
    journal.getLast?.map (fun record => record.invocation.commandLine) = some command := by
  cases h with
  | @call record _ last failed =>
    rw [last]
    cases fault <;> simp_all [StyleError.command?, CallRecord.FailsWith]
  | names => simp [StyleError.command?] at hcommand
  | cache => simp [StyleError.command?] at hcommand

/-- The outcomes in a complete run are those of calls that have succeeded. -/
theorem Completes.code_mem {report : StyleReport} (h : job.Completes journal report)
    {outcome : Outcome} (hmem : outcome ∈ journal.outcomes) :
    ∃ record ∈ journal, record.Succeeded job.options.filter job.mode ∧
      outcome = Outcome.ofExitCode record.code? := by
  obtain ⟨record, hrecord, rfl⟩ := List.mem_map.1 hmem
  have hjournal := (List.mem_filter.1 hrecord).1
  exact ⟨record, hjournal, h.succeeded record hjournal, rfl⟩

/-- A report is not about a program that has failed. -/
theorem Completes.outcome_ne_executionError {report : StyleReport}
    (h : job.Completes journal report) : report.outcome ≠ .executionError := by
  obtain ⟨record, -, hgood, heq⟩ := h.code_mem h.outcome_mem
  rw [heq]
  exact Outcome.ofExitCode_ne_executionError_iff.2 hgood.code_mem

/-- **A clean report means that every program has exited with 0**, that of the listing included. -/
theorem Completes.code_of_clean {report : StyleReport} (h : job.Completes journal report)
    (hclean : report.outcome = .clean) : ∀ record ∈ journal, record.code? = some 0 := by
  intro record hmem
  by_cases hp : record.purpose = .listing
  · exact (h.succeeded record hmem).code_listing hp
  · have houtcome : Outcome.ofExitCode record.code? ∈ journal.outcomes :=
      List.mem_map_of_mem (List.mem_filter.2 ⟨hmem, by simpa using hp⟩)
    have hworst := h.outcome_worst _ houtcome
    rw [hclean] at hworst
    exact Outcome.ofExitCode_eq_clean_iff.1 (Outcome.eq_clean_of_badness_le hworst)

end StyleJob

/-! ## Journals that grow -/

namespace Journal

theorem call?_concat_of_ne {journal : Journal} {record : CallRecord} {purpose : Purpose}
    (h : record.purpose ≠ purpose) :
    Journal.call? (journal ++ [record]) purpose = journal.call? purpose := by
  simp [Journal.call?, List.find?_append, h]

theorem hostAfter_concat_of_ne {journal : Journal} {record : CallRecord} {purpose : Purpose}
    (h : record.purpose ≠ purpose) (host : Host) :
    Journal.hostAfter (journal ++ [record]) purpose host = journal.hostAfter purpose host := by
  simp only [hostAfter, call?_concat_of_ne h]

theorem outcomes_concat {journal : Journal} {record : CallRecord} (h : record.purpose ≠ .listing) :
    Journal.outcomes (journal ++ [record]) =
      journal.outcomes ++ [Outcome.ofExitCode record.code?] := by
  simp [outcomes, List.filter_append, h]

end Journal

namespace StyleJob

variable {job : StyleJob} {runner : Runner} {journal : Journal} {record : CallRecord}

theorem knowsNames_concat_iff (h : record.purpose ≠ .listing) :
    job.KnowsNames (journal ++ [record]) ↔ job.KnowsNames journal := by
  simp only [KnowsNames, Settings.registry, Journal.call?_concat_of_ne h]

theorem cacheStays_concat_iff (h : record.purpose ≠ .listing) :
    job.CacheStays (journal ++ [record]) ↔ job.CacheStays journal := by
  simp only [CacheStays, Journal.hostAfter_concat_of_ne h]

/-- The file system does not fail a run when one more program leaves it a working directory. -/
theorem not_fileFailure_concat (h : ¬ job.FileFailure journal) (hp : record.purpose ≠ .listing)
    (hdir : job.mode = .structured → record.after.tree.isDirAt record.after.cwd = true) :
    ¬ job.FileFailure (journal ++ [record]) := by
  rintro (hcache | ⟨hmode, record', hmem, hpurpose, hgone⟩)
  · exact h (.inl ((cacheStays_concat_iff hp).1 hcache))
  · rcases List.mem_append.1 hmem with hold | hnew
    · exact h (.inr ⟨hmode, record', hold, hpurpose, hgone⟩)
    · rw [List.mem_singleton.1 hnew, hdir hmode] at hgone
      exact absurd hgone (by simp)

/-- Calls that have succeeded are joined by one more. -/
theorem succeeded_concat
    (h : ∀ record ∈ journal, record.Succeeded job.options.filter job.mode)
    (hrecord : record.Succeeded job.options.filter job.mode) :
    ∀ other ∈ journal ++ [record], other.Succeeded job.options.filter job.mode := by
  intro other hmem
  rcases List.mem_append.1 hmem with hold | hnew
  · exact h other hold
  · rwa [List.mem_singleton.1 hnew]

/-- **A run that ends with a failed call** has an account. -/
theorem account_of_failsWith (hjournal : job.IsJournal runner journal)
    (hsucceeded : ∀ record ∈ journal, record.Succeeded job.options.filter job.mode)
    (hfollows : job.Follows runner journal record)
    (hdue : (journal ++ [record]).map CallRecord.purpose <+: job.due (journal ++ [record]))
    {fault : StyleError} (hfailed : record.FailsWith job.options.filter job.mode fault) :
    job.Account runner (journal ++ [record])
      (.error fault, ⟨record.after, (journal ++ [record]).map CallRecord.invocation⟩) where
  calls := rfl
  isJournal := hjournal.concat hfollows
  due := hdue
  succeeded := by simpa using hsucceeded
  ok := nofun
  error := by rintro fault ⟨⟩; exact .call (by simp) hfailed

end StyleJob

end Blurb
