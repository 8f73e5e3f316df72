import Blurb.Proofs.CallOrder
import Blurb.Proofs.PathWalks

/-! # What a style run does to the files

Between its calls a style run leaves the files as the programs have left them, but for one thing: if
it is asked to, it removes the tree of the cache right before the linter starts. A filter that
cannot be resolved ends the run before that.

* `FileTree.isCleared_removeAll` — removing a tree leaves everything else.
* `StyleJob.Trail` — journals that tell all that happens to the files; `StyleJob.tells_run` — every
  run has one.
* `StyleJob.Trail.finds` — the cache is all that goes between two calls.
* `StyleJob.run_files` — configuration errors, and the files of every run. -/

namespace Blurb

/-! ## Removing a tree -/

namespace FileTree

/-- **A tree without what stands at and below a place**, and otherwise as before. -/
structure IsCleared (tree tree' : FileTree) (place : Place) : Prop where
  /-- Nothing stands there any more. -/
  gone : ∀ other, place <+: other → tree'.at? other = none
  /-- Everything else is as it was. -/
  kept : ∀ other, ¬ place <+: other → tree'.at? other = tree.at? other

/-- Of the nodes at a place all are kept or none. -/
theorem lookup_filter (nodes : List (Place × Node)) (keep : Place → Bool) (place : Place) :
    (nodes.filter fun node => keep node.1).lookup place =
      if keep place then nodes.lookup place else none := by
  induction nodes with
  | nil => simp
  | cons node nodes ih =>
    obtain ⟨here, node⟩ := node
    by_cases hsame : place = here
    · subst hsame
      by_cases hkeep : keep place = true <;> simp [hkeep, ih]
    · have hne : (place == here) = false := by simpa using hsame
      by_cases hkeep : keep here = true <;> simp [hkeep, ih, List.lookup_cons, hne]

/-- **Removing a tree** leaves everything else. -/
theorem isCleared_removeAll (tree : FileTree) {place : Place} (h : place ≠ []) :
    IsCleared tree (tree.removeAll place) place := by
  have hat : ∀ other, other ≠ [] → (tree.removeAll place).at? other =
      if place <+: other then none else tree.at? other := by
    intro other hother
    have hlookup := lookup_filter tree.nodes (fun other => !place.isPrefixOf other) other
    simp only [at?, removeAll, List.isEmpty_iff, hother, if_false]
    rw [hlookup]
    by_cases hbelow : place <+: other
    · simp [List.isPrefixOf_iff_prefix.2 hbelow, hbelow]
    · have hbeside : ¬ place.isPrefixOf other = true := mt List.isPrefixOf_iff_prefix.1 hbelow
      simp [hbeside, hbelow]
  refine ⟨fun other hbelow => ?_, fun other hbelow => ?_⟩
  · have hother : other ≠ [] := by
      rintro rfl
      exact h (List.prefix_nil.1 hbelow)
    rw [hat other hother, if_pos hbelow]
  · by_cases hother : other = []
    · rw [hother]
      rfl
    · rw [hat other hother, if_neg hbelow]

end FileTree

/-! ## What a run does between its calls -/

/-- The host that the calls of a journal have left. -/
def Journal.left (journal : Journal) (host : Host) : Host :=
  (journal.getLast?.map CallRecord.after).getD host

@[simp] theorem Journal.left_nil (host : Host) : Journal.left [] host = host := rfl

@[simp] theorem Journal.left_concat (journal : Journal) (record : CallRecord) (host : Host) :
    Journal.left (journal ++ [record]) host = record.after := by
  simp [Journal.left]

namespace StyleJob

/-- **The cache that is to be removed**: where it stands, if it is there. -/
def staleCache? (job : StyleJob) (host : Host) : Option Place :=
  if job.options.resetCache then host.tree.resolve host.cwd job.settings.styleCache else none

/-- **The host that a call finds**: the linter finds it without the cache, if that is to be removed,
and otherwise it is as the calls before have left it. -/
def found (job : StyleJob) (purpose : Purpose) (left : Host) : Host :=
  match purpose, job.staleCache? left with
  | .linting, some place => { left with tree := left.tree.removeAll place }
  | _, _ => left

/-- **The filter of a run**, or the failure to settle it. -/
def filter (job : StyleJob) (runner : Runner) : Except StyleError Filter :=
  (job.settings.resolveFilter runner job.options.filter ⟨job.host, []⟩).1

/-- **The call that a run makes** for a purpose, on the host that it finds. -/
def Calls (job : StyleJob) (runner : Runner) (host : Host) (invocation : Invocation) :
    Purpose → Prop
  | .listing => invocation = job.settings.listingInvocation
  | .linting => ∃ filter, job.filter runner = .ok filter ∧
      invocation = job.settings.linterInvocation host job.files job.options filter job.mode
  | .checking => job.settings.checkerInvocation host job.mode = .ok invocation

/-- **The trail of a run**: a journal that tells all that happens to the files. Every call finds
them as the call before has left them, apart from the cache. -/
inductive Trail (job : StyleJob) (runner : Runner) : Journal → Prop where
  /-- Nothing has happened. -/
  | start : Trail job runner []
  /-- One more call is made. -/
  | call {past : Journal} (purpose : Purpose) {invocation : Invocation}
    (before : Trail job runner past)
    (called : job.Calls runner (job.found purpose (past.left job.host)) invocation purpose) :
    Trail job runner (past ++ [runner.record purpose (past.map CallRecord.invocation)
      (job.found purpose (past.left job.host)) invocation])

variable {job : StyleJob} {runner : Runner} {journal : Journal}

/-- Only the linter finds the host changed. -/
theorem found_of_ne {purpose : Purpose} (h : purpose ≠ .linting) (left : Host) :
    job.found purpose left = left := by
  cases purpose <;> first | rfl | exact absurd rfl h

/-- **How a call finds the files**, given how the calls before have left them. -/
structure Finds (job : StyleJob) (runner : Runner) (left : Host) (record : CallRecord) : Prop where
  /-- The linter is started with a filter only. -/
  filter : record.purpose = .linting → ∃ filter, job.filter runner = .ok filter
  /-- The linter finds nothing in the place of a cache that is to be removed. -/
  cleared : ∀ place, record.purpose = .linting → job.staleCache? left = some place →
    ∃ tree, left.tree.IsCleared tree place ∧ record.before = { left with tree := tree }
  /-- Apart from that everything is as it was left. -/
  kept : (record.purpose = .linting → job.staleCache? left = none) → record.before = left

/-- Only what stands in the place of the cache goes. -/
theorem exists_isCleared_found {left : Host} {place : Place}
    (h : job.staleCache? left = some place) :
    ∃ tree, left.tree.IsCleared tree place ∧
      job.found .linting left = { left with tree := tree } := by
  have hresolve : left.tree.resolve left.cwd job.settings.styleCache = some place := by
    unfold staleCache? at h
    split at h
    · exact h
    · cases h
  obtain ⟨above, rfl⟩ := FileTree.eq_concat_of_resolve_join rfl rfl rfl hresolve
  exact ⟨_, left.tree.isCleared_removeAll (by simp), by simp [found, h]⟩

/-- **Calls find the files as they were left, apart from the cache.** -/
theorem Trail.finds (h : job.Trail runner journal) :
    ∀ (past : Journal) (record : CallRecord) (future : Journal),
      journal = past ++ record :: future → job.Finds runner (past.left job.host) record := by
  induction h with
  | start => simp
  | @call past purpose invocation before called ih =>
    refine Journal.forall_concat ih ⟨?_, ?_, ?_⟩
    · rintro rfl
      obtain ⟨filter, hfilter, -⟩ := called
      exact ⟨filter, hfilter⟩
    · rintro place rfl hplace
      exact exists_isCleared_found hplace
    · intro hnone
      by_cases hp : purpose = .linting
      · subst hp
        have hstale : job.staleCache? (past.left job.host) = none := hnone rfl
        simp [Runner.record, found, hstale]
      · exact found_of_ne hp _

/-- Where the cache could be removed, the linter finds the host without it. -/
theorem found_of_dropCache {left host : Host}
    (h : job.settings.dropCache job.options.resetCache left = .ok host) :
    job.found .linting left = host := by
  unfold Settings.dropCache at h
  unfold found staleCache?
  cases hreset : job.options.resetCache with
  | false =>
    rw [hreset] at h
    simpa using h
  | true =>
    rw [hreset] at h
    cases hplace : left.tree.resolve left.cwd job.settings.styleCache with
    | none => simpa [hplace] using h
    | some place =>
      simp only [hplace, if_true] at h ⊢
      split at h
      · simpa using h
      · cases h

/-- **A failure to settle the filter**: names are not known, or the linter could not be asked for
its rules, or its answer is of no use. -/
inductive IsConfigurationError (journal : Journal) : StyleError → Prop where
  /-- Names are not known. -/
  | unknownRules (names : List Text) : IsConfigurationError journal (.unknownRules names)
  /-- The listing has failed or is of no use. -/
  | listing (command : Text) (fault : ListingFault) :
    IsConfigurationError journal (.listing command fault)
  /-- The linter could not be started to list its rules. -/
  | spawn (command reason : Text) (early : ∀ record ∈ journal, record.purpose = .listing) :
    IsConfigurationError journal (.spawn command reason)

/-- A call after the listing does not fail like that. -/
theorem not_isConfigurationError_of_failsWith {record : CallRecord} {filter : Filter}
    {mode : OutputMode} {fault : StyleError} (hp : record.purpose ≠ .listing)
    (hmem : record ∈ journal) (h : record.FailsWith filter mode fault) :
    ¬ IsConfigurationError journal fault := by
  intro hfault
  cases hfault with
  | unknownRules names => exact hp h.1
  | listing command fault => exact hp h.2.1
  | spawn command reason early => exact hp (early record hmem)

theorem isConfigurationError_of_readListing {command : Text} {reply : Reply} {fault : StyleError}
    (hearly : ∀ record ∈ journal, record.purpose = .listing)
    (h : Settings.readListing command reply = .error fault) :
    IsConfigurationError journal fault := by
  unfold Settings.readListing at h
  split at h
  · cases h
    exact .spawn _ _ hearly
  · split at h
    · cases h
      exact .listing _ _
    · split at h
      · cases h
        exact .listing _ _
      · split at h
        · cases h
          exact .listing _ _
        · cases h

/-- **The part of the filter fails with configuration errors only.** -/
theorem isConfigurationError_of_filter {fault : StyleError}
    (hearly : ∀ record ∈ journal, record.purpose = .listing)
    (h : job.filter runner = .error fault) : IsConfigurationError journal fault := by
  unfold filter at h
  by_cases hall : job.options.filter = .all
  · rw [hall] at h
    cases h
  rw [Settings.resolveFilter_of_ne_all _ _ _ hall] at h
  cases hknown : (job.settings.knownRules runner ⟨job.host, []⟩).1 with
  | error reason =>
    rw [hknown] at h
    cases h
    unfold Settings.knownRules at hknown
    split at hknown
    · exact isConfigurationError_of_readListing hearly hknown
    · cases hknown
  | ok known =>
    simp only [hknown, Except.bind, Filter.resolve] at h
    split at h
    · cases h
    · cases h
      exact .unknownRules _

/-! ## The trail of a run -/

/-- **What a journal tells of a run.** -/
structure Tells (job : StyleJob) (runner : Runner) (journal : Journal)
    (run : Except StyleError StyleReport × Session) : Prop where
  /-- The journal is a trail. -/
  trail : job.Trail runner journal
  /-- At most one call is made for each purpose, in this order. -/
  purposes : journal.map CallRecord.purpose <+: job.dueBefore ++ [.linting, .checking]
  /-- The run ends with the files that the last call has left. -/
  session : run.2 = ⟨journal.left job.host, journal.map CallRecord.invocation⟩
  /-- Its configuration errors are the failures to settle the filter. -/
  error : ∀ fault, run.1 = .error fault →
    (IsConfigurationError journal fault ↔ job.filter runner = .error fault)

theorem left_opening :
    (job.opening runner).left job.host = (job.opening runner).hostAfter .listing job.host := by
  unfold opening
  split <;> rfl

theorem trail_opening : job.Trail runner (job.opening runner) := by
  unfold opening
  split
  · exact .call .listing .start rfl
  · exact .start

/-- A run that ends with a failed call of the linter or the checker has its trail. -/
theorem Trail.tells_of_failsWith {past : Journal} {record : CallRecord} {filter : Filter}
    {fault : StyleError} (h : job.Trail runner (past ++ [record]))
    (hpurposes : (past ++ [record]).map CallRecord.purpose <+:
      job.dueBefore ++ [.linting, .checking])
    (hp : record.purpose ≠ .listing) (hfilter : job.filter runner = .ok filter)
    (hfailed : record.FailsWith job.options.filter job.mode fault) :
    job.Tells runner (past ++ [record])
      (.error fault, ⟨record.after, (past ++ [record]).map CallRecord.invocation⟩) where
  trail := h
  purposes := hpurposes
  session := by rw [Journal.left_concat]
  error := by
    rintro fault ⟨⟩
    exact iff_of_false (not_isConfigurationError_of_failsWith hp (by simp) hfailed)
      (by simp [hfilter])

/-- **The part of the checker** leaves a trail. -/
theorem Trail.tells_runChecker {past : Journal} {filter : Filter} (h : job.Trail runner past)
    (outcome : Outcome) (result : Option Findings)
    (hpurposes : past.map CallRecord.purpose = job.dueBefore ++ [.linting])
    (hfilter : job.filter runner = .ok filter) :
    ∃ journal, job.Tells runner journal
      (job.settings.runChecker runner job.files job.mode outcome result
        ⟨past.left job.host, past.map CallRecord.invocation⟩) := by
  have hdone : ∀ report, job.Tells runner past
      (.ok report, ⟨past.left job.host, past.map CallRecord.invocation⟩) := fun report =>
    ⟨h, by rw [hpurposes]; exact (List.prefix_append_right_inj _).2 (by simp), rfl, nofun⟩
  unfold Settings.runChecker
  split
  · exact ⟨past, hdone _⟩
  cases hcall : job.settings.checkerInvocation (past.left job.host) job.mode with
  | error reason => exact ⟨past, hdone _⟩
  | ok invocation =>
    let record := runner.record .checking (past.map CallRecord.invocation) (past.left job.host)
      invocation
    have hlisting : record.purpose ≠ .listing := by simp [record, Runner.record]
    have htrail : job.Trail runner (past ++ [record]) := .call .checking h hcall
    have hpurposes' : (past ++ [record]).map CallRecord.purpose <+:
        job.dueBefore ++ [.linting, .checking] := by
      rw [List.map_append, hpurposes, List.append_assoc]
      exact List.prefix_rfl
    have hjudge := Settings.judge_record hlisting Settings.isSome_readComments job.options.filter
      job.mode
    simp only [Settings.execute_record runner .checking]
    cases hchecked : Settings.judge record.invocation.commandLine job.mode Settings.readComments
        record.after record.reply with
    | error fault =>
      rw [hchecked] at hjudge
      exact ⟨_, htrail.tells_of_failsWith hpurposes' hlisting hfilter hjudge⟩
    | ok checked => exact ⟨past ++ [record], htrail, hpurposes', by simp [record], nofun⟩

/-- **The part of the linter and what follows it** leaves a trail. -/
theorem tells_runLinter {filter : Filter} {host : Host} (hfilter : job.filter runner = .ok filter)
    (hhost : job.found .linting ((job.opening runner).left job.host) = host) :
    ∃ journal, job.Tells runner journal
      (job.settings.runLinter runner job.files job.options filter job.mode
        ⟨host, (job.opening runner).map CallRecord.invocation⟩) := by
  let record := runner.record .linting ((job.opening runner).map CallRecord.invocation) host
    (job.settings.linterInvocation host job.files job.options filter job.mode)
  have hlisting : record.purpose ≠ .listing := by simp [record, Runner.record]
  have htrail : job.Trail runner (job.opening runner ++ [record]) := by
    subst hhost
    exact .call .linting trail_opening ⟨filter, hfilter, rfl⟩
  have hpurposes : (job.opening runner ++ [record]).map CallRecord.purpose =
      job.dueBefore ++ [.linting] := by
    rw [List.map_append, map_purpose_opening]
    rfl
  have hjudge := Settings.judge_record hlisting Settings.isSome_readReport job.options.filter
    job.mode
  simp only [Settings.runLinter, Settings.execute_record runner .linting]
  cases hlinted : Settings.judge record.invocation.commandLine job.mode Settings.readReport
      record.after record.reply with
  | error fault =>
    rw [hlinted] at hjudge
    refine ⟨_, htrail.tells_of_failsWith ?_ hlisting hfilter hjudge⟩
    rw [hpurposes]
    exact (List.prefix_append_right_inj _).2 (by simp)
  | ok linted =>
    have hrun := htrail.tells_runChecker linted.1 linted.2 hpurposes hfilter
    rwa [Journal.left_concat] at hrun

/-- **Every run leaves a trail.** -/
theorem tells_run (job : StyleJob) (runner : Runner) :
    ∃ journal, job.Tells runner journal (job.run runner) := by
  have hresolution := (job.resolution_resolveFilter runner).session
  have hearly : ∀ record ∈ job.opening runner, record.purpose = .listing :=
    fun _ => purpose_of_mem_opening
  have hpurposes : (job.opening runner).map CallRecord.purpose <+:
      job.dueBefore ++ [.linting, .checking] := by
    rw [map_purpose_opening]
    exact List.prefix_append _ _
  rw [← left_opening] at hresolution
  unfold run Settings.check
  rcases hrun : job.settings.resolveFilter runner job.options.filter ⟨job.host, []⟩ with
    ⟨fault | filter, session⟩
  · rw [hrun] at hresolution
    have hfilter : job.filter runner = .error fault := by simp [StyleJob.filter, hrun]
    refine ⟨job.opening runner, trail_opening, hpurposes, hresolution, ?_⟩
    rintro fault ⟨⟩
    exact iff_of_true (isConfigurationError_of_filter hearly hfilter) hfilter
  · rw [hrun] at hresolution
    obtain rfl := hresolution
    have hfilter : job.filter runner = .ok filter := by simp [StyleJob.filter, hrun]
    dsimp only
    cases hhost : job.settings.dropCache job.options.resetCache
        ((job.opening runner).left job.host) with
    | error fault =>
      refine ⟨job.opening runner, trail_opening, hpurposes, rfl, ?_⟩
      rintro fault ⟨⟩
      rw [left_opening] at hhost
      obtain ⟨rfl, -⟩ := dropCache_eq_error_iff.1 hhost
      exact iff_of_false nofun (by simp [hfilter])
    | ok host => exact tells_runLinter hfilter (found_of_dropCache hhost)

/-- **A failure to settle the filter leaves everything as it was.** At most the listing has been
called, and what that has left is all that has changed. -/
theorem run_of_filter_error {fault : StyleError} (h : job.filter runner = .error fault) :
    (job.run runner).1 = .error fault ∧
    ((job.run runner).2 = ⟨job.host, []⟩ ∨
      job.settings.rules = [] ∧
      (job.run runner).2 = ⟨(runner [] job.host job.settings.listingInvocation).2,
        [job.settings.listingInvocation]⟩) := by
  have hsession := (job.resolution_resolveFilter runner).session
  rcases hresolve : job.settings.resolveFilter runner job.options.filter ⟨job.host, []⟩ with
    ⟨resolved, session⟩
  obtain rfl : resolved = .error fault := by simpa [StyleJob.filter, hresolve] using h
  have hrun : job.run runner = (.error fault, session) := by
    simp only [run, Settings.check, hresolve]
  rw [hresolve, ← left_opening] at hsession
  refine ⟨by rw [hrun], ?_⟩
  rw [hrun, hsession]
  unfold opening
  split
  case isTrue hdue => exact .inr ⟨hdue.2, rfl⟩
  case isFalse => exact .inl rfl

/-- **Configuration errors leave everything as it was, and a run removes the cache only.** The calls
of a run find the files as the calls before have left them, but for the cache: if it is to be
removed, and there is one, it goes right before the linter is started, which needs a settled filter.
The failures to settle the filter are the configuration errors of the run; then nothing has been
called but the listing, if that was due, and the run itself has changed nothing. -/
theorem run_files (job : StyleJob) (runner : Runner) :
    ∃ journal : Journal,
      (job.run runner).2 = ⟨journal.left job.host, journal.map CallRecord.invocation⟩ ∧
      job.Trail runner journal ∧
      journal.map CallRecord.purpose <+: job.dueBefore ++ [.linting, .checking] ∧
      (∀ (past : Journal) (record : CallRecord) (future : Journal),
        journal = past ++ record :: future → job.Finds runner (past.left job.host) record) ∧
      (∀ fault, (job.run runner).1 = .error fault →
        (IsConfigurationError journal fault ↔ job.filter runner = .error fault)) ∧
      (∀ fault, job.filter runner = .error fault →
        (job.run runner).1 = .error fault ∧
        ((job.run runner).2 = ⟨job.host, []⟩ ∨
          job.settings.rules = [] ∧
          (job.run runner).2 = ⟨(runner [] job.host job.settings.listingInvocation).2,
            [job.settings.listingInvocation]⟩)) := by
  obtain ⟨journal, h⟩ := job.tells_run runner
  exact ⟨journal, h.session, h.trail, h.purposes, h.trail.finds, h.error,
    fun _ => run_of_filter_error⟩

end StyleJob

end Blurb
