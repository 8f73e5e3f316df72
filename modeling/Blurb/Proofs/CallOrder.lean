import Blurb.Proofs.CallJournals

/-! # The order of calls

Every style run has a journal that accounts for it: part by part, what has been called, and how it
goes on.

* `StyleJob.resolution_resolveFilter`: the filter, with the call of the listing.
* `StyleJob.account_runLinter` and `StyleJob.Linted.account_runChecker`: the programs.
* `StyleJob.account_run`: the whole run, and `StyleJob.run_journal`: what that means. -/

namespace Blurb

/-! ## The part of the filter -/

/-- **A filter with qualified names, or the names that are not known.** -/
def Filter.resolve (known : RuleNames) (filter : Filter) : Except StyleError Filter :=
  if known.unknown filter.names = [] then .ok (filter.qualified known)
  else .error (.unknownRules (known.unknown filter.names))

namespace Settings

theorem filterOf_eq (known : RuleNames) (make : List Text → Filter) (names : List Text) :
    filterOf known make names =
      if known.unknown names = [] then
        .ok (if known.qualified names = [] then .all else make (known.qualified names))
      else .error (.unknownRules (known.unknown names)) := by
  rw [filterOf, RuleNames.resolve_eq]
  by_cases hunknown : known.unknown names = []
  · cases hqualified : known.qualified names <;> simp [hunknown]
  · simp [hunknown]

theorem filterOf_only (known : RuleNames) (names : List Text) :
    filterOf known .only names = (Filter.only names).resolve known := filterOf_eq known .only names

theorem filterOf_except (known : RuleNames) (names : List Text) :
    filterOf known .except names = (Filter.except names).resolve known :=
  filterOf_eq known .except names

/-- Both kinds of filters with names are resolved alike. -/
theorem resolveFilter_of_ne_all (settings : Settings) (runner : Runner) {filter : Filter}
    (session : Session) (h : filter ≠ .all) :
    settings.resolveFilter runner filter session =
      ((settings.knownRules runner session).1.bind filter.resolve,
        (settings.knownRules runner session).2) := by
  rcases hknown : settings.knownRules runner session with ⟨_ | known, session'⟩ <;>
    cases filter <;>
    simp_all [resolveFilter, filterOf_only, filterOf_except, Except.bind]

end Settings

namespace StyleJob

variable (job : StyleJob) (runner : Runner)

/-- The call of the listing, if it is due. -/
def opening : Journal :=
  if job.options.filter ≠ .all ∧ job.settings.rules = [] then
    [runner.record .listing [] job.host job.settings.listingInvocation]
  else []

theorem map_purpose_opening : (job.opening runner).map CallRecord.purpose = job.dueBefore := by
  unfold opening dueBefore
  split <;> rfl

theorem purpose_of_mem_opening {job : StyleJob} {runner : Runner} {record : CallRecord}
    (h : record ∈ job.opening runner) : record.purpose = .listing := by
  unfold opening at h
  split at h
  · rw [List.mem_singleton.1 h]
    rfl
  · simp at h

theorem isJournal_opening : job.IsJournal runner (job.opening runner) := by
  unfold opening
  split
  · exact isJournal_nil.concat ⟨rfl, rfl, rfl⟩
  · exact isJournal_nil

/-- **What the part of the filter has come to**, given the journal of its calls. -/
structure Resolution (journal : Journal) (run : Except StyleError Filter × Session) : Prop where
  /-- The calls are those of the journal, and the files as they have left them. -/
  session : run.2 = ⟨journal.hostAfter .listing job.host, journal.map CallRecord.invocation⟩
  /-- It goes on with qualified names that are all known, after calls that have succeeded. -/
  ok : ∀ filter, run.1 = .ok filter →
    filter = job.options.filter.qualified (job.settings.registry journal) ∧
    job.KnowsNames journal ∧
    ∀ record ∈ journal, record.Succeeded job.options.filter job.mode
  /-- A failure has its reason. -/
  error : ∀ fault, run.1 = .error fault → job.FailsWith journal fault

variable {job runner} {journal : Journal}

/-- Once the rules are known, only the names are left to decide. -/
theorem resolution_of_registry {session : Session}
    (hsession : session = ⟨journal.hostAfter .listing job.host, journal.map CallRecord.invocation⟩)
    (hcalls : job.KnowsNames journal →
      ∀ record ∈ journal, record.Succeeded job.options.filter job.mode)
    (hmissing : (job.settings.registry journal).unknown job.options.filter.names ≠ [] →
      job.FailsWith journal
        (.unknownRules ((job.settings.registry journal).unknown job.options.filter.names))) :
    job.Resolution journal
      (job.options.filter.resolve (job.settings.registry journal), session) := by
  unfold Filter.resolve
  split
  case isTrue hunknown =>
    have hknown := RuleNames.unknown_eq_nil_iff.1 hunknown
    refine ⟨hsession, ?_, nofun⟩
    rintro filter ⟨⟩
    exact ⟨rfl, hknown, hcalls hknown⟩
  case isFalse hunknown =>
    refine ⟨hsession, nofun, ?_⟩
    rintro fault ⟨⟩
    exact hmissing hunknown

/-- A filter without names asks for nothing. -/
theorem resolution_of_all (h : job.options.filter = .all) :
    job.Resolution [] (.ok .all, ⟨job.host, []⟩) := by
  refine ⟨rfl, ?_, nofun⟩
  rintro filter ⟨⟩
  refine ⟨by rw [h]; rfl, ?_, by simp⟩
  rw [KnowsNames, h]
  exact RuleNames.knowsAll_nil _

/-- The settings say which rules there are. -/
theorem resolution_of_rules (h : job.settings.rules ≠ []) :
    job.Resolution []
      (job.options.filter.resolve (.ofList job.settings.rules), ⟨job.host, []⟩) := by
  have hregistry : job.settings.registry [] = .ofList job.settings.rules := by
    simp [Settings.registry, h]
  rw [← hregistry]
  exact resolution_of_registry rfl (by simp) fun hmissing => .names rfl h hmissing

/-- The linter is asked for its rules. -/
theorem resolution_of_listing (h : job.settings.rules = []) {record : CallRecord}
    (hp : record.purpose = .listing) :
    job.Resolution [record]
      ((Settings.readListing record.invocation.commandLine record.reply).bind
        job.options.filter.resolve, ⟨record.after, [record.invocation]⟩) := by
  have hcall : Journal.call? [record] .listing = some record := by simp [Journal.call?, hp]
  have hsession : (⟨record.after, [record.invocation]⟩ : Session) =
      ⟨Journal.hostAfter [record] .listing job.host, [record].map CallRecord.invocation⟩ := by
    simp [Journal.hostAfter, hcall]
  have hreading := Settings.readListing_record hp job.options.filter job.mode
  cases hread : Settings.readListing record.invocation.commandLine record.reply with
  | error fault =>
    rw [hread] at hreading
    refine ⟨hsession, by simp [Except.bind], ?_⟩
    rintro fault ⟨⟩
    exact .call rfl hreading
  | ok known =>
    rw [hread] at hreading
    obtain ⟨output, hreply, hcode, hlisting, hnames⟩ := hreading
    -- from here on the names decide, as they do against rules of the settings
    have hregistry : job.settings.registry [record] = known := by
      simp [Settings.registry, h, hcall, CallRecord.listed?, hreply, hlisting]
    simp only [Except.bind]
    rw [← hregistry]
    refine resolution_of_registry hsession (fun hall => ?_) fun hmissing => ?_
    · intro record' hmem
      rw [List.mem_singleton.1 hmem]
      rw [KnowsNames, hregistry] at hall
      refine ⟨output, hreply, ?_⟩
      rw [hp]
      exact ⟨hcode, known, hlisting, hnames, hall⟩
    · rw [hregistry] at hmissing ⊢
      exact .call rfl ⟨hp, output, hreply, hcode, known, hlisting, hnames, rfl, hmissing⟩

variable (job runner)

/-- **The part of the filter**: it makes the call of the listing if that is due, and goes on only if
that has succeeded and all names are known. -/
theorem resolution_resolveFilter :
    job.Resolution (job.opening runner)
      (job.settings.resolveFilter runner job.options.filter ⟨job.host, []⟩) := by
  by_cases hall : job.options.filter = .all
  · have hopening : job.opening runner = [] := by simp [opening, hall]
    have hrun : job.settings.resolveFilter runner job.options.filter ⟨job.host, []⟩ =
        (.ok .all, ⟨job.host, []⟩) := by simp [hall, Settings.resolveFilter]
    rw [hopening, hrun]
    exact resolution_of_all hall
  rw [job.settings.resolveFilter_of_ne_all runner _ hall, Settings.knownRules]
  by_cases hrules : job.settings.rules = []
  · have hopening : job.opening runner =
        [runner.record .listing [] job.host job.settings.listingInvocation] := by
      simp [opening, hall, hrules]
    rw [hopening, hrules]
    exact resolution_of_listing hrules rfl
  · have hopening : job.opening runner = [] := by simp [opening, hrules]
    rw [hopening, if_neg (by simpa using hrules)]
    exact resolution_of_rules hrules

end StyleJob

/-! ## The part of the checker -/

namespace Settings

/-- Calling a program adds its record to the journal. -/
theorem execute_record (runner : Runner) (purpose : Purpose) (invocation : Invocation)
    (mode : OutputMode) (read : ReportReader) (host : Host) (journal : Journal) :
    execute runner invocation mode read ⟨host, journal.map CallRecord.invocation⟩ =
      let record := runner.record purpose (journal.map CallRecord.invocation) host invocation
      (judge record.invocation.commandLine mode read record.after record.reply,
        ⟨record.after, (journal ++ [record]).map CallRecord.invocation⟩) := by
  simp only [List.map_append]
  rfl

/-- There is a call of the checker if there is a checker and it has files to check. -/
theorem isOk_checkerInvocation (settings : Settings) (host : Host) (mode : OutputMode) :
    (settings.checkerInvocation host mode).isOk = true ↔
      (settings.locateChecker host).isOk = true ∧ settings.shellFiles host ≠ [] := by
  unfold checkerInvocation
  cases settings.locateChecker host with
  | error reason => exact ⟨nofun, fun h => h.1⟩
  | ok checker =>
    cases settings.shellFiles host with
    | nil => exact ⟨nofun, fun h => absurd rfl h.2⟩
    | cons file files => exact ⟨fun _ => ⟨rfl, nofun⟩, fun _ => rfl⟩

/-- Findings are there if one of the programs has brought any. -/
theorem isSome_mergeResults (a b : Option Findings) :
    (mergeResults a b).isSome = true ↔ a.isSome = true ∨ b.isSome = true := by
  cases a <;> cases b <;> simp [mergeResults]

end Settings

namespace StyleJob

variable {job : StyleJob} {runner : Runner} {journal : Journal} {record : CallRecord}

/-- **How far a run is after the linter**: all calls have succeeded, and only that of the checker
can still be due. -/
structure Linted (job : StyleJob) (runner : Runner) (journal : Journal) (outcome : Outcome)
    (result : Option Findings) : Prop where
  /-- Each call follows from those before it. -/
  isJournal : job.IsJournal runner journal
  /-- They are those due up to the linter's. -/
  purposes : journal.map CallRecord.purpose = job.dueBefore ++ [.linting]
  /-- They have succeeded. -/
  succeeded : ∀ record ∈ journal, record.Succeeded job.options.filter job.mode
  /-- The filter's names are known. -/
  known : job.KnowsNames journal
  /-- The run's own use of the file system has not failed. -/
  noFailure : ¬ job.FileFailure journal
  /-- The outcome is that of the linter. -/
  outcomes : journal.outcomes = [outcome]
  /-- Findings are there exactly if the output was captured. -/
  result : result.isSome ↔ job.mode = .structured

theorem Linted.due_eq {outcome : Outcome} {result : Option Findings}
    (h : job.Linted runner journal outcome result) :
    job.due journal =
      journal.map CallRecord.purpose ++ job.dueAfter (journal.hostAfter .linting job.host) := by
  rw [due, h.purposes, List.append_assoc]
  rfl

/-- With the checker's call, the calls are all that are due. -/
theorem Linted.map_purpose_concat {outcome : Outcome} {result : Option Findings}
    (h : job.Linted runner journal outcome result) (hp : record.purpose = .checking)
    (hdue : job.dueAfter (journal.hostAfter .linting job.host) = [.checking]) :
    (journal ++ [record]).map CallRecord.purpose = job.due (journal ++ [record]) := by
  have hlinting : record.purpose ≠ .linting := by simp [hp]
  rw [due, Journal.hostAfter_concat_of_ne hlinting, hdue, List.map_append, h.purposes,
    List.append_assoc, List.map_singleton, hp]
  rfl

theorem dueAfter_eq (host : Host) :
    job.dueAfter host =
      if job.files = [] ∧ (job.settings.checkerInvocation host job.mode).isOk = true
      then [.checking] else [] := by
  simp only [dueAfter, Settings.isOk_checkerInvocation]

/-- A run without a due call of the checker is complete after the linter. -/
theorem Linted.completes {outcome : Outcome} {result : Option Findings}
    (h : job.Linted runner journal outcome result)
    (hdue : job.dueAfter (journal.hostAfter .linting job.host) = []) (auxiliary : Auxiliary) :
    job.Completes journal ⟨outcome, result, auxiliary⟩ where
  due := by rw [h.due_eq, hdue, List.append_nil]
  succeeded := h.succeeded
  known := h.known
  noFailure := h.noFailure
  outcome_mem := by simp [h.outcomes]
  outcome_worst := by simp [h.outcomes]
  result := h.result

theorem Linted.account {outcome : Outcome} {result : Option Findings}
    (h : job.Linted runner journal outcome result)
    (hdue : job.dueAfter (journal.hostAfter .linting job.host) = []) (auxiliary : Auxiliary)
    (host : Host) :
    job.Account runner journal
      (.ok ⟨outcome, result, auxiliary⟩, ⟨host, journal.map CallRecord.invocation⟩) where
  calls := rfl
  isJournal := h.isJournal
  due := by rw [h.due_eq]; exact List.prefix_append _ _
  succeeded record hmem := h.succeeded record (List.dropLast_subset _ hmem)
  ok := by rintro report ⟨⟩; exact h.completes hdue auxiliary
  error := nofun

/-- A run is complete after a good call of the checker. -/
theorem Linted.completes_concat {outcome checked : Outcome} {result found : Option Findings}
    (h : job.Linted runner journal outcome result) (hp : record.purpose = .checking)
    (hdue : job.dueAfter (journal.hostAfter .linting job.host) = [.checking])
    (hgood : record.Yields job.options.filter job.mode checked found) :
    job.Completes (journal ++ [record])
      ⟨outcome.worst checked, Settings.mergeResults result found, .ran checked⟩ := by
  have hlisting : record.purpose ≠ .listing := by simp [hp]
  have houtcomes : Journal.outcomes (journal ++ [record]) = [outcome, checked] := by
    rw [Journal.outcomes_concat hlisting, h.outcomes, hgood.outcome_eq]
    rfl
  exact {
    due := h.map_purpose_concat hp hdue
    succeeded := succeeded_concat h.succeeded hgood.succeeded
    known := (knowsNames_concat_iff hlisting).2 h.known
    noFailure := not_fileFailure_concat h.noFailure hlisting hgood.directory
    outcome_mem := by simpa [houtcomes] using Outcome.worst_eq_or outcome checked
    outcome_worst := by
      simp [houtcomes, Outcome.le_badness_worst_left, Outcome.le_badness_worst_right]
    result := by rw [Settings.isSome_mergeResults, h.result, hgood.found_iff, or_self] }

/-- **The part of the checker** has an account. -/
theorem Linted.account_runChecker {outcome : Outcome} {result : Option Findings}
    (h : job.Linted runner journal outcome result) :
    ∃ journal', job.Account runner journal'
      (job.settings.runChecker runner job.files job.mode outcome result
        ⟨journal.hostAfter .linting job.host, journal.map CallRecord.invocation⟩) := by
  unfold Settings.runChecker
  by_cases hfiles : job.files = []
  case neg =>
    have hdue : job.dueAfter (journal.hostAfter .linting job.host) = [] := by
      simp [dueAfter, hfiles]
    rw [if_pos (by simpa using hfiles)]
    exact ⟨journal, h.account hdue _ _⟩
  case pos =>
  rw [if_neg (by simp [hfiles])]
  cases hcall : job.settings.checkerInvocation (journal.hostAfter .linting job.host) job.mode with
  | error reason =>
    have hdue : job.dueAfter (journal.hostAfter .linting job.host) = [] := by
      rw [dueAfter_eq, hcall]
      exact if_neg (by simp [Except.isOk, Except.toBool])
    exact ⟨journal, h.account hdue _ _⟩
  | ok invocation =>
    have hdue : job.dueAfter (journal.hostAfter .linting job.host) = [.checking] := by
      rw [dueAfter_eq, hcall]
      exact if_pos ⟨hfiles, rfl⟩
    let record := runner.record .checking (journal.map CallRecord.invocation)
      (journal.hostAfter .linting job.host) invocation
    have hp : record.purpose = .checking := rfl
    have hlisting : record.purpose ≠ .listing := by simp [hp]
    have hfollows : job.Follows runner journal record := ⟨rfl, rfl, hcall⟩
    have hprefix : (journal ++ [record]).map CallRecord.purpose <+: job.due (journal ++ [record]) :=
      h.map_purpose_concat hp hdue ▸ List.prefix_rfl
    have hjudge := Settings.judge_record hlisting Settings.isSome_readComments job.options.filter
      job.mode
    simp only [Settings.execute_record runner .checking]
    cases hchecked : Settings.judge record.invocation.commandLine job.mode Settings.readComments
        record.after record.reply with
    | error fault =>
      rw [hchecked] at hjudge
      exact ⟨journal ++ [record],
        account_of_failsWith h.isJournal h.succeeded hfollows hprefix hjudge⟩
    | ok checked =>
      rw [hchecked] at hjudge
      refine ⟨journal ++ [record], rfl, h.isJournal.concat hfollows, hprefix,
        by simpa using h.succeeded, ?_, nofun⟩
      rintro report ⟨⟩
      exact h.completes_concat hp hdue hjudge

/-! ## The part of the linter -/

theorem call?_opening_of_ne {purpose : Purpose} (h : purpose ≠ .listing) :
    (job.opening runner).call? purpose = none := by
  rw [Journal.call?, List.find?_eq_none]
  intro record hmem
  simpa [purpose_of_mem_opening hmem] using h.symm

theorem outcomes_opening : (job.opening runner).outcomes = [] := by
  simp only [Journal.outcomes, List.map_eq_nil_iff, List.filter_eq_nil_iff]
  intro record hmem
  simp [purpose_of_mem_opening hmem]

theorem dropLast_opening : (job.opening runner).dropLast = [] := by
  unfold opening
  split <;> rfl

/-- A listing alone does not make the file system fail the run, unless the cache stays. -/
theorem fileFailure_opening_iff :
    job.FileFailure (job.opening runner) ↔ job.CacheStays (job.opening runner) := by
  refine or_iff_left ?_
  rintro ⟨-, record, hmem, hpurpose, -⟩
  exact hpurpose (purpose_of_mem_opening hmem)

/-- **Removing the cache** fails exactly if the cache cannot be removed. -/
theorem dropCache_eq_error_iff {fault : StyleError} :
    job.settings.dropCache job.options.resetCache (journal.hostAfter .listing job.host) =
      .error fault ↔ fault = .io ∧ job.CacheStays journal := by
  unfold Settings.dropCache CacheStays
  cases job.options.resetCache with
  | false => simp
  | true =>
    cases hplace : (journal.hostAfter .listing job.host).tree.resolve
      (journal.hostAfter .listing job.host).cwd job.settings.styleCache with
    | none => simp [hplace]
    | some place =>
      cases hdir : (journal.hostAfter .listing job.host).tree.isDirAt place <;>
        simp [hplace, hdir, @eq_comm _ StyleError.io]

/-- A good call of the linter leaves only the checker to be run. -/
theorem linted_concat {outcome : Outcome} {result : Option Findings}
    (hp : record.purpose = .linting)
    (hfollows : job.Follows runner (job.opening runner) record)
    (hsucceeded : ∀ record ∈ job.opening runner, record.Succeeded job.options.filter job.mode)
    (hknown : job.KnowsNames (job.opening runner)) (hcache : ¬ job.CacheStays (job.opening runner))
    (hgood : record.Yields job.options.filter job.mode outcome result) :
    job.Linted runner (job.opening runner ++ [record]) outcome result := by
  have hlisting : record.purpose ≠ .listing := by simp [hp]
  exact {
    isJournal := (job.isJournal_opening runner).concat hfollows
    purposes := by rw [List.map_append, map_purpose_opening, List.map_singleton, hp]
    succeeded := succeeded_concat hsucceeded hgood.succeeded
    known := (knowsNames_concat_iff hlisting).2 hknown
    noFailure :=
      not_fileFailure_concat (mt fileFailure_opening_iff.1 hcache) hlisting hgood.directory
    outcomes := by rw [Journal.outcomes_concat hlisting, outcomes_opening, hgood.outcome_eq]; rfl
    result := hgood.found_iff }

/-- **The part of the linter and what follows it** has an account. -/
theorem account_runLinter {host : Host}
    (hsucceeded : ∀ record ∈ job.opening runner, record.Succeeded job.options.filter job.mode)
    (hknown : job.KnowsNames (job.opening runner))
    (hhost : job.settings.dropCache job.options.resetCache
      ((job.opening runner).hostAfter .listing job.host) = .ok host) :
    ∃ journal, job.Account runner journal
      (job.settings.runLinter runner job.files job.options
        (job.options.filter.qualified (job.settings.registry (job.opening runner))) job.mode
        ⟨host, (job.opening runner).map CallRecord.invocation⟩) := by
  -- the run got past the cache
  have hcache : ¬ job.CacheStays (job.opening runner) := by
    intro hstays
    rw [dropCache_eq_error_iff.2 ⟨rfl, hstays⟩] at hhost
    cases hhost
  let record := runner.record .linting ((job.opening runner).map CallRecord.invocation) host
    (job.settings.linterInvocation host job.files job.options
      (job.options.filter.qualified (job.settings.registry (job.opening runner))) job.mode)
  have hp : record.purpose = .linting := rfl
  have hfollows : job.Follows runner (job.opening runner) record := ⟨rfl, hhost, rfl⟩
  have hafter : Journal.hostAfter (job.opening runner ++ [record]) .linting job.host =
      record.after := by
    have hnone : (job.opening runner).find? (fun record => record.purpose = .linting) = none :=
      call?_opening_of_ne (by decide)
    simp [Journal.hostAfter, Journal.call?, List.find?_append, hnone, hp]
  have hlisting : record.purpose ≠ .listing := by simp [hp]
  have hjudge := Settings.judge_record hlisting Settings.isSome_readReport job.options.filter
    job.mode
  simp only [Settings.runLinter, Settings.execute_record runner .linting]
  cases hlinted : Settings.judge record.invocation.commandLine job.mode Settings.readReport
      record.after record.reply with
  | error fault =>
    rw [hlinted] at hjudge
    refine ⟨job.opening runner ++ [record], account_of_failsWith (job.isJournal_opening runner)
      hsucceeded hfollows ?_ hjudge⟩
    rw [List.map_append, map_purpose_opening, List.map_singleton, hp]
    exact (List.prefix_append_right_inj _).2 (by simp)
  | ok linted =>
    rw [hlinted] at hjudge
    have hrun := (linted_concat hp hfollows hsucceeded hknown hcache hjudge).account_runChecker
    rwa [hafter] at hrun

/-! ## The whole run -/

/-- A run that ends before the linter is called has an account. -/
theorem account_opening {fault : StyleError} (h : job.FailsWith (job.opening runner) fault)
    (host : Host) :
    job.Account runner (job.opening runner)
      (.error fault, ⟨host, (job.opening runner).map CallRecord.invocation⟩) where
  calls := rfl
  isJournal := job.isJournal_opening runner
  due := by rw [map_purpose_opening]; exact List.prefix_append _ _
  succeeded := by simp [dropLast_opening]
  ok := nofun
  error := by rintro fault ⟨⟩; exact h

/-- **Every run has an account.** -/
theorem account_run (job : StyleJob) (runner : Runner) :
    ∃ journal, job.Account runner journal (job.run runner) := by
  have hresolution := job.resolution_resolveFilter runner
  unfold run Settings.check
  generalize job.settings.resolveFilter runner job.options.filter ⟨job.host, []⟩ = resolved
    at hresolution
  obtain ⟨fault | filter, session⟩ := resolved
  · obtain rfl := hresolution.session
    exact ⟨_, account_opening (hresolution.error fault rfl) _⟩
  · obtain rfl := hresolution.session
    obtain ⟨rfl, hknown, hsucceeded⟩ := hresolution.ok filter rfl
    dsimp only
    cases hhost : job.settings.dropCache job.options.resetCache
        ((job.opening runner).hostAfter .listing job.host) with
    | error fault =>
      obtain ⟨rfl, hstays⟩ := dropCache_eq_error_iff.1 hhost
      exact ⟨_, account_opening (.cache (fun _ => purpose_of_mem_opening) hstays) _⟩
    | ok host => exact account_runLinter hsucceeded hknown hhost

/-- **A run that nothing goes wrong with comes to a report.** -/
theorem Account.exists_report {run : Except StyleError StyleReport × Session}
    (h : job.Account runner journal run) (hknown : job.KnowsNames journal)
    (hsucceeded : ∀ record ∈ journal, record.Succeeded job.options.filter job.mode)
    (hfiles : ¬ job.FileFailure journal) : ∃ report, run.1 = .ok report := by
  cases hrun : run.1 with
  | ok report => exact ⟨report, rfl⟩
  | error fault => exact absurd (h.error fault hrun) (not_failsWith hsucceeded hknown hfiles)

end StyleJob

end Blurb
