import Blurb.Program
import Blurb.Proofs.AcceptedCommands
import Blurb.Proofs.BatchAudits
import Blurb.Proofs.CallOrder
import Blurb.Proofs.LoadedConfigs
import Blurb.Proofs.LoadedManifests
import Blurb.Proofs.PrintedJson

/-! # Exit codes

What the exit code of a command says about the configuration, the manifest, the problems that were
found and the programs that ran, and what is on the standard output then.

* `Program.auditFails_iff`, `Program.audits_iff_of_manifest` — the files of an audit.
* `Program.audit_cases`, `Program.correct_cases`, `Program.style_cases` — how the commands end.
* `Program.AuditContract`, `Program.CorrectContract`, `Program.StyleContract` — what their exit
  codes mean.
* `Program.execute_contract` — every command line that is accepted. -/

namespace Blurb

/-! ## Configurations -/

/-- The output format that is asked for decides about nothing else. -/
theorem map_erase_output_resolveEffective (host : Host) (repoRoot output other : Option Text) :
    (resolveEffective host repoRoot output).map (fun effective => { effective with output := [] }) =
      (resolveEffective host repoRoot other).map
        fun effective => { effective with output := [] } := by
  unfold resolveEffective
  dsimp only
  split
  · rfl
  · split <;> rfl

/-- A configuration that cannot be loaded cannot be loaded for another output format. -/
theorem resolveEffective_eq_error {host : Host} {repoRoot output : Option Text} {e : ConfigError}
    (h : resolveEffective host repoRoot output = .error e) (other : Option Text) :
    resolveEffective host repoRoot other = .error e := by
  have herase := map_erase_output_resolveEffective host repoRoot output other
  rw [h] at herase
  cases hother : resolveEffective host repoRoot other with
  | error e' =>
    rw [hother] at herase
    cases herase
    rfl
  | ok effective =>
    rw [hother] at herase
    cases herase

/-- For another output format, the configuration is loaded alike. -/
theorem exists_resolveEffective_eq_ok {host : Host} {repoRoot output : Option Text}
    {effective : Effective} (h : resolveEffective host repoRoot output = .ok effective)
    (other : Option Text) :
    ∃ format, resolveEffective host repoRoot other = .ok { effective with output := format } := by
  have herase := map_erase_output_resolveEffective host repoRoot output other
  rw [h] at herase
  cases hother : resolveEffective host repoRoot other with
  | error e' =>
    rw [hother] at herase
    cases herase
  | ok effective' =>
    rw [hother] at herase
    obtain ⟨repoRoot', format, book, style, found⟩ := effective'
    simp only [Except.map, Except.ok.injEq, Effective.mk.injEq] at herase
    obtain ⟨rfl, -, rfl, rfl, rfl⟩ := herase
    exact ⟨format, rfl⟩

namespace Program

variable {host : Host} {repoRoot output : Option Text} {allowed : List Text}
  {act : Effective → Text → Ending} {effective : Effective}

theorem withConfig_of_error {e : ConfigError}
    (h : resolveEffective host repoRoot output = .error e) :
    withConfig host repoRoot output allowed act = .failure [] e.message host.console := by
  unfold withConfig
  rw [h]

theorem withConfig_of_ok (h : resolveEffective host repoRoot output = .ok effective) :
    withConfig host repoRoot output allowed act =
      act (adapt allowed effective).1 (adapt allowed effective).2 := by
  unfold withConfig
  rw [h]

/-- A command works with the configuration, apart from the output format. -/
theorem exists_adapt_eq (allowed : List Text) (effective : Effective) :
    ∃ format, (adapt allowed effective).1 = { effective with output := format } := by
  unfold adapt
  dsimp only
  split
  · exact ⟨effective.output, rfl⟩
  · exact ⟨_, rfl⟩

/-- Where JSON is a format, it is what is asked for. -/
theorem isJsonFormat_adapt (hallowed : "json".toList ∈ allowed) (effective : Effective) :
    isJsonFormat (adapt allowed effective).1.output = isJsonFormat effective.output := by
  unfold adapt
  dsimp only
  split
  · rfl
  · next hunknown =>
    have hjson : isJsonFormat effective.output = false := by
      rw [isJsonFormat, beq_eq_false_iff_ne]
      rintro heq
      rw [heq] at hunknown
      exact hunknown (by simpa using hallowed)
    rw [hjson]
    rfl

/-! ## Audits -/

/-- **What an audit is about**: the entries of its manifest, or the item that it names. -/
inductive Audits (host : Host) (effective : Effective) (command : CommandLine.AuditCommand) :
    List Entry → Prop where
  /-- The manifest is loaded. -/
  | manifest {given : Text} {entries : List Entry} (named : command.manifest = some given)
    (loaded : Manifest.load host (manifestPath host effective.repoRoot given) = .ok entries) :
    Audits host effective command entries
  /-- There is no manifest, but the name of an item. -/
  | item {name : Text} (alone : command.manifest = none) (named : command.name = some name) :
    Audits host effective command [⟨command.kind, name, command.desc⟩]

/-- **An audit cannot start**: its configuration or its manifest cannot be loaded. -/
inductive AuditFails (host : Host) (command : CommandLine.AuditCommand) : Prop where
  /-- The configuration cannot be loaded. -/
  | config {e : ConfigError}
    (failed : resolveEffective host command.repoRoot command.output = .error e)
  /-- The manifest cannot be loaded. -/
  | manifest {effective : Effective} {given : Text} {e : ManifestError}
    (config : resolveEffective host command.repoRoot command.output = .ok effective)
    (named : command.manifest = some given)
    (failed : Manifest.load host (manifestPath host effective.repoRoot given) = .error e)

/-- **An audit finds something**: one of the entries has a problem. -/
inductive AuditFinds (host : Host) (command : CommandLine.AuditCommand) : Prop where
  /-- An entry has a problem. -/
  | problem {effective : Effective} {entries : List Entry} {entry : Entry}
    (config : resolveEffective host command.repoRoot command.output = .ok effective)
    (audits : Audits host effective command entries) (mem : entry ∈ entries)
    (found : effective.rulebook.audit entry.kind entry.name (entry.desc.map Token.quoted) ≠ [])

/-- **The audits that cannot start**, by what is wrong with their files. -/
theorem auditFails_iff {command : CommandLine.AuditCommand} :
    AuditFails host command ↔
      (∃ e, Config.Unusable host (Config.detectRoot host (command.repoRoot.getD ['.'])) e) ∨
      ∃ effective given e, resolveEffective host command.repoRoot command.output = .ok effective ∧
        command.manifest = some given ∧
        Manifest.CannotLoad host (manifestPath host effective.repoRoot given) e := by
  simp only [← Manifest.load_eq_error_iff]
  constructor
  · intro h
    cases h with
    | config failed => exact .inl ⟨_, resolveEffective_eq_error_iff.1 failed⟩
    | manifest config named failed => exact .inr ⟨_, _, _, config, named, failed⟩
  · rintro (⟨e, failed⟩ | ⟨effective, given, e, config, named, failed⟩)
    · exact .config (resolveEffective_eq_error_iff.2 failed)
    · exact .manifest config named failed

/-- **An audit of a manifest is about the entries that its file holds.** -/
theorem audits_iff_of_manifest {command : CommandLine.AuditCommand} {given : Text}
    {entries : List Entry} (named : command.manifest = some given) :
    Audits host effective command entries ↔
      ∃ text, host.HoldsText (manifestPath host effective.repoRoot given) text ∧
        Manifest.Holds (manifestPath host effective.repoRoot given) text entries := by
  rw [← Manifest.load_eq_ok_iff]
  constructor
  · intro h
    cases h with
    | manifest other loaded =>
      obtain rfl := Option.some.inj (named.symm.trans other)
      exact loaded
    | item alone => cases named.symm.trans alone
  · exact .manifest named

/-- An audit is about one list of entries. -/
theorem Audits.unique {command : CommandLine.AuditCommand} {xs ys : List Entry}
    (hx : Audits host effective command xs) (hy : Audits host effective command ys) : xs = ys := by
  cases hx <;> cases hy <;> simp_all

/-- The entries of an audit, or the failure of its manifest. -/
theorem auditEntries_cases {command : CommandLine.AuditCommand}
    (hnames : command.manifest.isSome = true ∨ command.name.isSome = true) (format : Text) :
    (∃ given e, command.manifest = some given ∧
      Manifest.load host (manifestPath host effective.repoRoot given) = .error e ∧
      auditEntries host { effective with output := format } command = .error e.message) ∨
    ∃ entries note, Audits host effective command entries ∧
      auditEntries host { effective with output := format } command = .ok (entries, note) := by
  unfold auditEntries
  cases hmanifest : command.manifest with
  | some given =>
    cases hload : Manifest.load host (manifestPath host effective.repoRoot given) with
    | error e => exact .inl ⟨given, e, rfl, hload, by simp only [hload]⟩
    | ok entries =>
      simp only [hload]
      exact .inr ⟨entries, _, .manifest hmanifest hload, rfl⟩
  | none =>
    cases hname : command.name with
    | none => simp [hmanifest, hname] at hnames
    | some name => exact .inr ⟨_, _, .item hmanifest hname, rfl⟩

/-- **How an audit ends**: it cannot start, or it reports on what it is about. -/
theorem audit_cases {command : CommandLine.AuditCommand} (host : Host)
    (hnames : command.manifest.isSome = true ∨ command.name.isSome = true) :
    (AuditFails host command ∧
      ∃ notes message, audit host command = .failure notes message host.console) ∨
    ∃ effective entries notes,
      resolveEffective host command.repoRoot command.output = .ok effective ∧
      Audits host effective command entries ∧
      let report := effective.rulebook.auditBatch command.fix entries
      audit host command = {
        code := if report.hasProblems then 1 else 0
        notes := notes
        console := host.console
        printed := report.print (adapt descriptionFormats effective).1.output } := by
  unfold audit
  cases hconfig : resolveEffective host command.repoRoot command.output with
  | error e => exact .inl ⟨.config hconfig, _, _, withConfig_of_error hconfig⟩
  | ok effective =>
    rw [withConfig_of_ok hconfig]
    obtain ⟨format, hadapt⟩ := exists_adapt_eq descriptionFormats effective
    rw [hadapt]
    rcases auditEntries_cases hnames format with ⟨given, e, hgiven, hload, hentries⟩ |
      ⟨entries, note, haudits, hentries⟩
    · rw [hentries]
      exact .inl ⟨.manifest hconfig hgiven hload, _, _, rfl⟩
    · rw [hentries]
      exact .inr ⟨effective, entries, _, rfl, haudits, by rw [hadapt]⟩

/-- A report that is asked for as JSON is printed as one document. -/
theorem stdout_of_json {notes : Text} {code : Nat} {printed : Printed} {value : Json.Value}
    (h : printed = .out value.document) :
    Ending.stdout ⟨code, notes, host.console, printed⟩ =
      host.console.stdout ++ Text.utf8 value.document := by
  rw [h]
  rfl

/-- **What the exit code of an audit means.** -/
structure AuditContract (host : Host) (command : CommandLine.AuditCommand) (ending : Ending) :
    Prop where
  /-- There are no other codes than 0, 1 and 2. -/
  code_le : ending.code ≤ 2
  /-- It is 2 if the configuration or the manifest cannot be loaded. -/
  code_two : ending.code = 2 ↔ AuditFails host command
  /-- It is 1 if an entry has a problem. -/
  code_one : ending.code = 1 ↔ AuditFinds host command
  /-- Neither corrections nor the output format change it. -/
  options : ∀ fix output,
    (audit host { command with fix := fix, output := output }).code = ending.code
  /-- After an error nothing has been printed. -/
  silent : ending.code = 2 → ending.stdout = host.console.stdout
  /-- As JSON, the report is one document. -/
  json : ∀ effective, resolveEffective host command.repoRoot command.output = .ok effective →
    isJsonFormat effective.output = true → ending.code ≠ 2 →
    ∃ entries, Audits host effective command entries ∧
      let report := (effective.rulebook.auditBatch command.fix entries).toJson
      ending.stdout = host.console.stdout ++ Text.utf8 report.document ∧
      Json.Document.parse? report.document = some report.toDocument

/-- An audit that starts does not fail. -/
theorem not_auditFails {command : CommandLine.AuditCommand} {entries : List Entry}
    (hconfig : resolveEffective host command.repoRoot command.output = .ok effective)
    (haudits : Audits host effective command entries) : ¬ AuditFails host command := by
  intro hfails
  cases hfails with
  | config failed =>
    rw [hconfig] at failed
    cases failed
  | manifest config named failed =>
    rw [hconfig] at config
    cases config
    cases haudits with
    | manifest named' loaded =>
      rw [named] at named'
      cases named'
      rw [failed] at loaded
      cases loaded
    | item alone _ =>
      rw [named] at alone
      cases alone

theorem auditFinds_iff {command : CommandLine.AuditCommand} {entries : List Entry}
    (hconfig : resolveEffective host command.repoRoot command.output = .ok effective)
    (haudits : Audits host effective command entries) (fix : Bool) :
    AuditFinds host command ↔ (effective.rulebook.auditBatch fix entries).hasProblems = true := by
  rw [Rulebook.hasProblems_auditBatch_iff]
  constructor
  · rintro ⟨hconfig', haudits', hmem, hfound⟩
    rw [hconfig] at hconfig'
    cases hconfig'
    exact ⟨_, haudits.unique haudits' ▸ hmem, hfound⟩
  · rintro ⟨entry, hmem, hfound⟩
    exact .problem hconfig haudits hmem hfound

/-- What an audit is about has nothing to do with corrections and the output format. -/
theorem Audits.of_options {command : CommandLine.AuditCommand} {entries : List Entry}
    (h : Audits host effective command entries) (format : Text) (fix : Bool)
    (output : Option Text) :
    Audits host { effective with output := format }
      { command with fix := fix, output := output } entries := by
  cases h with
  | manifest named loaded => exact .manifest named loaded
  | item alone named => exact .item alone named

theorem AuditFails.of_options {command : CommandLine.AuditCommand} (h : AuditFails host command)
    (fix : Bool) (output : Option Text) :
    AuditFails host { command with fix := fix, output := output } := by
  cases h with
  | config failed => exact .config (resolveEffective_eq_error failed output)
  | manifest config named failed =>
    obtain ⟨format, hconfig⟩ := exists_resolveEffective_eq_ok config output
    exact .manifest hconfig named failed

theorem AuditFinds.of_options {command : CommandLine.AuditCommand} (h : AuditFinds host command)
    (fix : Bool) (output : Option Text) :
    AuditFinds host { command with fix := fix, output := output } := by
  obtain ⟨config, audits, mem, found⟩ := h
  obtain ⟨format, hconfig⟩ := exists_resolveEffective_eq_ok config output
  exact .problem hconfig (audits.of_options format fix output) mem found

/-- The exit code of an audit. -/
theorem code_audit {command : CommandLine.AuditCommand} (host : Host)
    (hnames : command.manifest.isSome = true ∨ command.name.isSome = true) :
    (AuditFails host command ∧ ¬ AuditFinds host command ∧ (audit host command).code = 2) ∨
    (¬ AuditFails host command ∧ AuditFinds host command ∧ (audit host command).code = 1) ∨
    (¬ AuditFails host command ∧ ¬ AuditFinds host command ∧ (audit host command).code = 0) := by
  rcases audit_cases host hnames with ⟨hfails, notes, message, haudit⟩ |
    ⟨effective, entries, notes, hconfig, haudits, haudit⟩
  · refine .inl ⟨hfails, ?_, by rw [haudit]; rfl⟩
    rintro ⟨config, audits, -, -⟩
    exact not_auditFails config audits hfails
  · have hfinds := auditFinds_iff hconfig haudits command.fix
    have hstarts := not_auditFails hconfig haudits
    rw [haudit]
    cases hproblems : (effective.rulebook.auditBatch command.fix entries).hasProblems with
    | true => exact .inr (.inl ⟨hstarts, hfinds.2 hproblems, by simp⟩)
    | false =>
      exact .inr (.inr ⟨hstarts, fun h => by simp [hfinds.1 h] at hproblems, by simp⟩)

/-- **Audits keep their contract.** -/
theorem auditContract {command : CommandLine.AuditCommand} (host : Host)
    (hnames : command.manifest.isSome = true ∨ command.name.isSome = true) :
    AuditContract host command (audit host command) where
  code_le := by rcases code_audit host hnames with h | h | h <;> omega
  code_two := by rcases code_audit host hnames with h | h | h <;> simp [h]
  code_one := by rcases code_audit host hnames with h | h | h <;> simp [h]
  options fix output := by
    -- the other command fails and finds as this one does
    have hfails : AuditFails host { command with fix := fix, output := output } ↔
        AuditFails host command :=
      ⟨fun h => h.of_options command.fix command.output, fun h => h.of_options fix output⟩
    have hfinds : AuditFinds host { command with fix := fix, output := output } ↔
        AuditFinds host command :=
      ⟨fun h => h.of_options command.fix command.output, fun h => h.of_options fix output⟩
    have hother : ({ command with fix := fix, output := output } :
        CommandLine.AuditCommand).manifest.isSome = true ∨ _ := hnames
    have hcode := code_audit host hnames
    have hcode' := code_audit host hother
    rw [hfails, hfinds] at hcode'
    rcases hcode with h | h | h <;> rcases hcode' with h' | h' | h' <;> simp_all
  silent hcode := by
    rcases audit_cases host hnames with ⟨-, notes, message, haudit⟩ |
      ⟨effective, entries, notes, -, -, haudit⟩
    · rw [haudit]
      exact List.append_nil _
    · rw [haudit] at hcode
      dsimp only at hcode
      split at hcode <;> cases hcode
  json effective hconfig hjson hcode := by
    rcases audit_cases host hnames with ⟨-, notes, message, haudit⟩ |
      ⟨effective', entries, notes, hconfig', haudits, haudit⟩
    · rw [haudit] at hcode
      exact absurd rfl hcode
    · rw [hconfig] at hconfig'
      cases hconfig'
      refine ⟨entries, haudits, ?_, Json.Value.parse?_document _⟩
      rw [haudit]
      refine stdout_of_json ?_
      rw [BatchReport.print, isJsonFormat_adapt (by decide), if_pos hjson]

/-! ## Corrections -/

/-- **The corrected token** of a correction, if there is one. -/
def corrected (effective : Effective) (command : CommandLine.CorrectCommand) : Option Text :=
  (effective.rulebook.correct? command.name (Token.ofSource command.source)).bind
    fun replacement => replacement.splice? command.source

/-- The outcome of a correction as JSON: the token, its correction, and whether there is one. -/
def correctionJson (effective : Effective) (command : CommandLine.CorrectCommand) : Json.Value :=
  .obj [Json.member "original" (.str command.source),
    Json.member "corrected" (.ofText? (corrected effective command)),
    Json.member "changed" (.bool (corrected effective command).isSome)]

/-- **How a correction ends**: its configuration cannot be loaded, or it tells its outcome. -/
theorem correct_cases (host : Host) (command : CommandLine.CorrectCommand) :
    (∃ e, resolveEffective host command.repoRoot command.output = .error e ∧
      correct host command = .failure [] e.message host.console) ∨
    ∃ effective notes, resolveEffective host command.repoRoot command.output = .ok effective ∧
      correct host command = {
        code := 0
        notes := notes
        console := host.console
        printed := printCorrection command.source (corrected effective command)
          (adapt descriptionFormats effective).1.output } := by
  unfold correct
  cases hconfig : resolveEffective host command.repoRoot command.output with
  | error e => exact .inl ⟨e, rfl, withConfig_of_error hconfig⟩
  | ok effective =>
    rw [withConfig_of_ok hconfig]
    obtain ⟨format, hadapt⟩ := exists_adapt_eq descriptionFormats effective
    rw [hadapt]
    exact .inr ⟨effective, _, rfl, by rw [hadapt]; rfl⟩

/-- **What the exit code of a correction means.** -/
structure CorrectContract (host : Host) (command : CommandLine.CorrectCommand) (ending : Ending) :
    Prop where
  /-- The code is 2 if the configuration cannot be loaded. -/
  code_two : ending.code = 2 ↔
    ∃ e, resolveEffective host command.repoRoot command.output = .error e
  /-- Otherwise it is 0. -/
  code_zero : ending.code ≠ 2 → ending.code = 0
  /-- After an error nothing has been printed. -/
  silent : ending.code = 2 → ending.stdout = host.console.stdout
  /-- As JSON, the outcome is one document. -/
  json : ∀ effective, resolveEffective host command.repoRoot command.output = .ok effective →
    isJsonFormat effective.output = true → ending.code ≠ 2 →
    let report := correctionJson effective command
    ending.stdout = host.console.stdout ++ Text.utf8 report.document ∧
    Json.Document.parse? report.document = some report.toDocument

/-- **Corrections keep their contract.** -/
theorem correctContract (host : Host) (command : CommandLine.CorrectCommand) :
    CorrectContract host command (correct host command) := by
  rcases correct_cases host command with ⟨e, hconfig, hcorrect⟩ |
    ⟨effective, notes, hconfig, hcorrect⟩
  · rw [hcorrect]
    exact ⟨iff_of_true rfl ⟨e, hconfig⟩, fun h => absurd rfl h, fun _ => List.append_nil _,
      fun _ _ _ h => absurd rfl h⟩
  · rw [hcorrect]
    refine ⟨iff_of_false (by simp) (by simp [hconfig]), fun _ => rfl, fun h => absurd h (by simp),
      ?_⟩
    intro effective' hconfig' hjson _
    rw [hconfig] at hconfig'
    cases hconfig'
    refine ⟨stdout_of_json ?_, Json.Value.parse?_document _⟩
    unfold printCorrection
    rw [isJsonFormat_adapt (by decide), if_pos hjson]
    rfl

/-! ## Style runs -/

end Program

theorem Outcome.ofExitCode_eq_violations_iff {code : Option Int} :
    Outcome.ofExitCode code = .violations ↔ code = some 1 := by
  unfold Outcome.ofExitCode
  split <;> simp_all

/-- **Violations are reported** exactly if one of the programs has exited with 1. -/
theorem StyleJob.Completes.outcome_eq_violations_iff {job : StyleJob} {journal : Journal}
    {report : StyleReport} (h : job.Completes journal report) :
    report.outcome = .violations ↔
      ∃ record ∈ journal, record.purpose ≠ .listing ∧ record.code? = some 1 := by
  constructor
  · intro hviolations
    have hmem := h.outcome_mem
    rw [hviolations] at hmem
    obtain ⟨record, hrecord, hcode⟩ := List.mem_map.1 hmem
    obtain ⟨hjournal, hpurpose⟩ := List.mem_filter.1 hrecord
    exact ⟨record, hjournal, by simpa using hpurpose, Outcome.ofExitCode_eq_violations_iff.1 hcode⟩
  · rintro ⟨record, hjournal, hpurpose, hcode⟩
    have hmem : Outcome.violations ∈ journal.outcomes :=
      List.mem_map.2 ⟨record, List.mem_filter.2 ⟨hjournal, by simpa using hpurpose⟩,
        Outcome.ofExitCode_eq_violations_iff.2 hcode⟩
    have hworst := h.outcome_worst _ hmem
    have hfine := h.outcome_ne_executionError
    cases hout : report.outcome with
    | clean => simp [hout, Outcome.badness] at hworst
    | violations => rfl
    | executionError => exact absurd hout hfine

namespace Program

/-- **The run of a style command.** -/
def styleJob (ci : Option Text) (color : Bool) (host : Host) (effective : Effective)
    (command : CommandLine.StyleCommand) : StyleJob where
  settings := effective.style
  files := command.files
  options := optionsOf ci color command
  mode := modeOf (adapt styleFormats effective).1.output
  host := host

/-- **What the exit code of a style command means.** -/
structure StyleContract (runner : Runner) (ci : Option Text) (color : Bool) (host : Host)
    (command : CommandLine.StyleCommand) (ending : Ending) : Prop where
  /-- There are no other codes than 0, 1 and 2. -/
  code_le : ending.code ≤ 2
  /-- The code is 2 if the configuration cannot be loaded or the run fails. -/
  code_two : ending.code = 2 ↔
    (∃ e, resolveEffective host command.repoRoot command.output = .error e) ∨
    ∃ effective fault, resolveEffective host command.repoRoot command.output = .ok effective ∧
      ((styleJob ci color host effective command).run runner).1 = .error fault
  /-- Otherwise it is 1 if one of the programs that ran has exited with 1. -/
  code_one : ∀ effective, resolveEffective host command.repoRoot command.output = .ok effective →
    let job := styleJob ci color host effective command
    ∃ journal, job.Account runner journal (job.run runner) ∧
      (ending.code = 1 ↔ ending.code ≠ 2 ∧
        ∃ record ∈ journal, record.purpose ≠ .listing ∧ record.code? = some 1)
  /-- No report is about a program that has failed. -/
  reported : ∀ effective report,
    resolveEffective host command.repoRoot command.output = .ok effective →
    ((styleJob ci color host effective command).run runner).1 = .ok report →
    report.outcome ≠ .executionError

/-- **How a style command ends**: its configuration cannot be loaded, its run fails, or the outcome
of the run decides. -/
theorem style_cases (runner : Runner) (ci : Option Text) (color : Bool) (host : Host)
    (command : CommandLine.StyleCommand) :
    (∃ e, resolveEffective host command.repoRoot command.output = .error e ∧
      (style runner ci color host command).code = 2) ∨
    ∃ effective, resolveEffective host command.repoRoot command.output = .ok effective ∧
      let run := (styleJob ci color host effective command).run runner
      (∃ fault, run.1 = .error fault ∧ (style runner ci color host command).code = 2) ∨
      ∃ report, run.1 = .ok report ∧
        (style runner ci color host command).code = exitCode report.outcome := by
  unfold style
  cases hconfig : resolveEffective host command.repoRoot command.output with
  | error e => exact .inl ⟨e, rfl, by rw [withConfig_of_error hconfig]; rfl⟩
  | ok effective =>
    rw [withConfig_of_ok hconfig]
    refine .inr ⟨effective, rfl, ?_⟩
    obtain ⟨format, hadapt⟩ := exists_adapt_eq styleFormats effective
    have hrun : effective.style.check runner command.files (optionsOf ci color command)
        (modeOf (adapt styleFormats effective).1.output) host =
        (styleJob ci color host effective command).run runner := rfl
    have hstyle : (adapt styleFormats effective).1.style = effective.style := by rw [hadapt]
    rw [hstyle, hrun]
    rcases (styleJob ci color host effective command).run runner with ⟨fault | report, session⟩
    · exact .inl ⟨fault, rfl, rfl⟩
    · exact .inr ⟨report, rfl, rfl⟩

/-- **Style commands keep their contract.** -/
theorem styleContract (runner : Runner) (ci : Option Text) (color : Bool) (host : Host)
    (command : CommandLine.StyleCommand) :
    StyleContract runner ci color host command (style runner ci color host command) := by
  rcases style_cases runner ci color host command with ⟨e, hconfig, hcode⟩ |
    ⟨effective, hconfig, hrun⟩
  · refine ⟨by omega, iff_of_true hcode (.inl ⟨e, hconfig⟩), ?_, ?_⟩
    · simp [hconfig]
    · simp [hconfig]
  have hunique : ∀ other, resolveEffective host command.repoRoot command.output = .ok other →
      other = effective := by
    intro other hother
    rw [hconfig] at hother
    exact (Except.ok.inj hother).symm
  obtain ⟨journal, haccount⟩ := (styleJob ci color host effective command).account_run runner
  rcases hrun with ⟨fault, hfault, hcode⟩ | ⟨report, hreport, hcode⟩
  · refine ⟨by omega, iff_of_true hcode (.inr ⟨effective, fault, hconfig, hfault⟩), ?_, ?_⟩
    · intro other hother
      obtain rfl := hunique other hother
      exact ⟨journal, haccount, iff_of_false (by omega) fun h => h.1 hcode⟩
    · intro other report hother hreport
      obtain rfl := hunique other hother
      rw [hfault] at hreport
      cases hreport
  · have hcompletes := haccount.ok report hreport
    have hfine := hcompletes.outcome_ne_executionError
    have hle : exitCode report.outcome ≤ 1 := by
      cases hout : report.outcome with
      | executionError => exact absurd hout hfine
      | clean => decide
      | violations => decide
    refine ⟨by omega, iff_of_false (by omega) ?_, ?_, ?_⟩
    · rintro (⟨e, he⟩ | ⟨other, fault, hother, hfault⟩)
      · rw [hconfig] at he
        cases he
      · obtain rfl := hunique other hother
        rw [hreport] at hfault
        cases hfault
    · intro other hother
      obtain rfl := hunique other hother
      refine ⟨journal, haccount, ?_⟩
      rw [← hcompletes.outcome_eq_violations_iff, hcode]
      cases hout : report.outcome with
      | executionError => exact absurd hout hfine
      | clean => simp [exitCode]
      | violations => simp [exitCode]
    · intro other report' hother hreport'
      obtain rfl := hunique other hother
      rw [hreport] at hreport'
      cases hreport'
      exact hfine

/-! ## Command lines -/

/-- **What the exit code of a command means.** -/
def Contract (runner : Runner) (ci : Option Text) (color : Bool) (host : Host) :
    CommandLine.Command → Ending → Prop
  | .version, ending => ending.code = 0
  | .audit command, ending => AuditContract host command ending
  | .correct command, ending => CorrectContract host command ending
  | .style command, ending => StyleContract runner ci color host command ending

/-- **Exit codes.** Whatever command line is accepted, on whatever host and whatever answers its
calls, with colours or without, the command keeps its contract: the exit code tells errors and
findings apart, nothing is printed by an audit or a correction that fails, and what is asked for as
JSON is one document. -/
theorem execute_contract (runner : Runner) (ci : Option Text) (color : Bool) (host : Host)
    {words : List Text} {command : CommandLine.Command}
    (h : CommandLine.parse words = .ok command) :
    Contract runner ci color host command (execute runner ci color host words) := by
  have hexecute : execute runner ci color host words = run runner ci color host command := by
    unfold execute
    rw [h]
  rw [hexecute]
  cases command with
  | version => rfl
  | audit command => exact auditContract host (CommandLine.AuditCommand.names_of_parse h)
  | correct command => exact correctContract host command
  | style command => exact styleContract runner ci color host command

/-- An item without a description has a problem. -/
theorem execute_contract_wget :
    let runner : Runner := fun _ host _ => (.error "not found".toList, host)
    let host : Host := ⟨⟨[]⟩, [], [], {}⟩
    let words := ["audit", "--name", "wget", "--output", "json"].map String.toList
    let command : CommandLine.AuditCommand :=
      ⟨none, some "json".toList, none, .formula, some "wget".toList, none, false⟩
    CommandLine.parse words = .ok (.audit command) ∧
    (execute runner none false host words).code = 1 ∧
    Contract runner none false host (.audit command) (execute runner none false host words) := by
  intro runner host words command
  have hparse : CommandLine.parse words = .ok (.audit command) := by rfl
  have hcode : (execute runner none false host words).code = 1 := by decide +kernel
  exact ⟨hparse, hcode, execute_contract runner none false host hparse⟩

end Program

end Blurb
