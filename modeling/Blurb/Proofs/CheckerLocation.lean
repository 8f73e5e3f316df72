import Blurb.Proofs.CallOrder

/-! # Where the checker is

The checker is called where the settings have it, if there is a file, and is looked up like any
program otherwise: a bare name in the directories of the search path, in their order. That decides
whether the checker is due after the linter, and which program its call names.

* `Host.FoundAt`, `Host.which?_eq_some_iff` — where a program is found.
* `Settings.CheckerAt`, `Settings.locateChecker_eq_ok_iff` — where the checker is.
* `Settings.locateChecker_eq_error_iff` — why there is none.
* `StyleJob.Completes.checks_iff` — the complete runs that call the checker.
* `StyleJob.IsJournal.checkerAt` — the program that such a call names. -/

namespace Blurb

/-! ## Programs -/

namespace Host

/-- **A program is found at a path.** -/
inductive FoundAt (host : Host) (name : Path) : Path → Prop where
  /-- A path of several components leads there from the working directory. -/
  | walked (several : 1 < name.components.length)
    (runs : host.isExecutable (host.absolutePath name) = true) :
    FoundAt host name (host.absolutePath name)
  /-- A bare name stands in a directory of the search path, and in none before it. -/
  | searched {before after : List Path} {directory : Path} (bare : name.components.length ≤ 1)
    (given : name ≠ []) (searchPath : host.searchPath = before ++ directory :: after)
    (first : ∀ other ∈ before, host.isExecutable (Path.join other name) = false)
    (runs : host.isExecutable (Path.join directory name) = true) :
    FoundAt host name (Path.join directory name)

variable {host : Host} {name path : Path}

/-- A file that may be run is a file. -/
theorem isFile_of_isExecutable (h : host.isExecutable path = true) : host.isFile path = true := by
  unfold isExecutable FileTree.isExecutable at h
  unfold isFile FileTree.isFile
  cases hnode : host.tree.node? host.cwd path with
  | none => simp [hnode] at h
  | some node =>
    cases node with
    | dir => simp [hnode, Node.isExecutable] at h
    | file content executable => rfl

theorem FoundAt.isExecutable (h : host.FoundAt name path) : host.isExecutable path = true := by
  cases h with
  | walked several runs => exact runs
  | searched bare given searchPath first runs => exact runs

/-- **What the search for a program comes to**: the place where it is found. -/
theorem which?_eq_some_iff : host.which? name = some path ↔ host.FoundAt name path := by
  unfold which?
  by_cases hseveral : 1 < name.components.length
  · rw [if_pos hseveral]
    constructor
    · intro h
      obtain rfl := List.mem_singleton.1 (List.mem_of_find?_eq_some h)
      exact .walked hseveral (List.find?_some h)
    · intro h
      cases h with
      | walked _ runs => simp [runs]
      | searched bare => omega
  · rw [if_neg hseveral]
    by_cases hempty : name = []
    · subst hempty
      constructor
      · simp
      · intro h
        cases h with
        | walked several => exact absurd several hseveral
        | searched _ given => exact absurd rfl given
    rw [if_neg (by simpa using hempty), List.find?_map, Option.map_eq_some_iff]
    constructor
    · rintro ⟨directory, hfind, rfl⟩
      obtain ⟨hruns, before, after, hsearch, hfirst⟩ := List.find?_eq_some_iff_append.1 hfind
      exact .searched (by omega) hempty hsearch (by simpa using hfirst) hruns
    · intro h
      cases h with
      | walked several => exact absurd several hseveral
      | @searched before after directory _ _ searchPath first runs =>
        refine ⟨directory, List.find?_eq_some_iff_append.2 ⟨runs, before, after, searchPath, ?_⟩,
          rfl⟩
        simpa using first

end Host

/-! ## The checker -/

namespace Settings

/-- **The checker is at a path.** -/
inductive CheckerAt (settings : Settings) (host : Host) : Path → Prop where
  /-- The settings have it there, and there is a file, which need not be one that may be run. -/
  | configured {path : Path} (checker : settings.checker = some path)
    (isFile : host.isFile path = true) : CheckerAt settings host path
  /-- There is no such file, and a program of that name is found there. -/
  | found {name path : Path} (checker : settings.checker = some name)
    (noFile : host.isFile name = false) (foundAt : host.FoundAt name path) :
    CheckerAt settings host path

/-- **Why the checker is nowhere.** -/
inductive CheckerMissing (settings : Settings) (host : Host) : Text → Prop where
  /-- The settings disable it. -/
  | disabled (checker : settings.checker = none) :
    CheckerMissing settings host "shell checker disabled".toList
  /-- There is no such file, and the search finds no such program. -/
  | notFound {name : Path} (checker : settings.checker = some name)
    (nowhere : ∀ path, ¬ settings.CheckerAt host path) :
    CheckerMissing settings host ('\x60' :: name ++ "\x60 not found on PATH".toList)

variable {settings : Settings} {host : Host} {path : Path}

/-- The checker is a file. -/
theorem CheckerAt.isFile (h : settings.CheckerAt host path) : host.isFile path = true := by
  cases h with
  | configured _ isFile => exact isFile
  | found _ _ foundAt => exact Host.isFile_of_isExecutable foundAt.isExecutable

/-- **Where the checker is located.** -/
theorem locateChecker_eq_ok_iff :
    settings.locateChecker host = .ok path ↔ settings.CheckerAt host path := by
  unfold locateChecker
  cases hchecker : settings.checker with
  | none =>
    refine ⟨nofun, fun h => ?_⟩
    cases h <;> simp_all
  | some name =>
    dsimp only
    by_cases hfile : host.isFile name = true
    · rw [if_pos hfile, Except.ok.injEq]
      constructor
      · rintro rfl
        exact .configured hchecker hfile
      · intro h
        cases h with
        | configured checker => simpa [hchecker] using checker
        | found checker noFile =>
          obtain rfl := Option.some.inj (hchecker.symm.trans checker)
          rw [hfile] at noFile
          cases noFile
    · rw [if_neg hfile]
      have hfound : settings.CheckerAt host path ↔ host.which? name = some path := by
        rw [Host.which?_eq_some_iff]
        refine ⟨fun h => ?_, .found hchecker (by simpa using hfile)⟩
        cases h with
        | configured checker isFile =>
          obtain rfl := Option.some.inj (hchecker.symm.trans checker)
          exact absurd isFile hfile
        | found checker _ foundAt =>
          obtain rfl := Option.some.inj (hchecker.symm.trans checker)
          exact foundAt
      rw [hfound]
      cases host.which? name <;> simp

/-- The checker is at one path at most. -/
theorem CheckerAt.unique {other : Path} (h : settings.CheckerAt host path)
    (hother : settings.CheckerAt host other) : path = other :=
  Except.ok.inj ((locateChecker_eq_ok_iff.2 h).symm.trans (locateChecker_eq_ok_iff.2 hother))

theorem isOk_locateChecker_iff :
    (settings.locateChecker host).isOk = true ↔ ∃ path, settings.CheckerAt host path := by
  simp only [← locateChecker_eq_ok_iff]
  cases settings.locateChecker host <;> simp [Except.isOk, Except.toBool]

theorem locateChecker_of_nowhere {name : Path} (hchecker : settings.checker = some name)
    (hnowhere : ∀ path, ¬ settings.CheckerAt host path) :
    settings.locateChecker host = .error ('\x60' :: name ++ "\x60 not found on PATH".toList) := by
  have hfile : ¬ host.isFile name = true := fun h => hnowhere name (.configured hchecker h)
  have hwhich : host.which? name = none := by
    rw [Option.eq_none_iff_forall_ne_some]
    intro path hpath
    exact hnowhere path (.found hchecker (by simpa using hfile) (Host.which?_eq_some_iff.1 hpath))
  rw [locateChecker, hchecker]
  dsimp only
  rw [if_neg hfile, hwhich]

/-- **Why the checker is not located**: for that reason a report says it was skipped. -/
theorem locateChecker_eq_error_iff {reason : Text} :
    settings.locateChecker host = .error reason ↔ settings.CheckerMissing host reason := by
  constructor
  · intro h
    cases hchecker : settings.checker with
    | none =>
      rw [locateChecker, hchecker] at h
      exact Except.error.inj h ▸ .disabled hchecker
    | some name =>
      have hnowhere : ∀ path, ¬ settings.CheckerAt host path := by
        intro path hat
        rw [locateChecker_eq_ok_iff.2 hat] at h
        cases h
      rw [locateChecker_of_nowhere hchecker hnowhere] at h
      exact Except.error.inj h ▸ .notFound hchecker hnowhere
  · intro h
    cases h with
    | disabled checker => rw [locateChecker, checker]
    | notFound checker nowhere => exact locateChecker_of_nowhere checker nowhere

/-- **The call of the checker** names the program where the checker is, and the scripts. -/
theorem checkerInvocation_eq_ok_iff {mode : OutputMode} {invocation : Invocation} :
    settings.checkerInvocation host mode = .ok invocation ↔
      settings.shellFiles host ≠ [] ∧ ∃ path, settings.CheckerAt host path ∧
        invocation = {
          program := path
          args :=
            [if mode = .structured then "--format=json".toList else "--format=tty".toList,
              "--shell=bash".toList, "--".toList] ++ settings.shellFiles host
          capture := mode.captures } := by
  simp only [← locateChecker_eq_ok_iff]
  unfold checkerInvocation
  cases hlocate : settings.locateChecker host with
  | error reason =>
    refine ⟨nofun, ?_⟩
    rintro ⟨-, path, ⟨⟩, -⟩
  | ok path =>
    dsimp only
    by_cases hfiles : settings.shellFiles host = []
    · rw [if_pos (by rw [hfiles]; rfl)]
      exact ⟨nofun, fun h => absurd hfiles h.1⟩
    · rw [if_neg (by simpa using hfiles), Except.ok.injEq]
      refine ⟨fun h => ⟨hfiles, path, rfl, h.symm⟩, ?_⟩
      rintro ⟨-, _, ⟨⟩, rfl⟩
      rfl

end Settings

/-! ## Runs -/

namespace StyleJob

variable {job : StyleJob} {runner : Runner} {journal : Journal}

/-- **When the checker is due**: no files were given, it is somewhere, and it has files to check. -/
theorem checking_mem_dueAfter_iff {host : Host} :
    .checking ∈ job.dueAfter host ↔
      job.files = [] ∧ (∃ path, job.settings.CheckerAt host path) ∧
        job.settings.shellFiles host ≠ [] := by
  rw [← Settings.isOk_locateChecker_iff, dueAfter]
  split <;> simp_all

/-- **The complete runs that call the checker** are those in which it is due on the host that the
linter has left. -/
theorem Completes.checks_iff {report : StyleReport} (h : job.Completes journal report) :
    (∃ record ∈ journal, record.purpose = .checking) ↔
      job.files = [] ∧
        (∃ path, job.settings.CheckerAt (journal.hostAfter .linting job.host) path) ∧
        job.settings.shellFiles (journal.hostAfter .linting job.host) ≠ [] := by
  have hbefore : Purpose.checking ∉ job.dueBefore := by
    unfold dueBefore
    split <;> simp
  have hmade : (∃ record ∈ journal, record.purpose = .checking) ↔
      .checking ∈ job.dueAfter (journal.hostAfter .linting job.host) := by
    rw [← List.mem_map, h.due, StyleJob.due]
    simp [hbefore]
  rw [hmade, checking_mem_dueAfter_iff]

/-- **A call of the checker names the program where the checker is** on the host that the call
finds, whatever answers the calls. -/
theorem IsJournal.checkerAt {record : CallRecord} (h : job.IsJournal runner journal)
    (hrecord : record ∈ journal) (hp : record.purpose = .checking) :
    job.settings.CheckerAt record.before record.invocation.program := by
  obtain ⟨past, future, hjournal⟩ := List.append_of_mem hrecord
  have hfollows := (h past record future hjournal).2
  rw [hp] at hfollows
  obtain ⟨-, path, hat, hinvocation⟩ := Settings.checkerInvocation_eq_ok_iff.1 hfollows.2
  rw [hinvocation]
  exact hat

end StyleJob

end Blurb
