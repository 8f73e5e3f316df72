import Blurb.Style.Outcome
import Blurb.Style.Payload
import Blurb.Style.RuleNames
import Blurb.Style.Settings

/-! # Style runs

A run asks the linter for its rules if a filter needs them, calls the linter, and calls the checker
of shell scripts if no files were given. Each call is made only after everything before it has
succeeded; the first failure ends the run. -/

namespace Blurb

/-! ## What can go wrong -/

/-- **Why the linter's rules are not known.** -/
inductive ListingFault where
  /-- The linter has failed. -/
  | exitCode (code : Option Int) (stderr : Text)
  /-- The listing is malformed. -/
  | unreadable
  /-- The listing names no rules. -/
  | empty
deriving Repr, DecidableEq

/-- **Why a report cannot be used.** -/
inductive ReportFault where
  /-- It is too short; its size in bytes. -/
  | tooShort (size : Nat)
  /-- It is malformed. -/
  | unreadable
deriving Repr, DecidableEq

/-- **Why a run has failed.** Failures of a call name it by its line. -/
inductive StyleError where
  /-- The filter names rules that the linter does not know. -/
  | unknownRules (names : List Text)
  /-- The linter's rules are not known. -/
  | listing (command : Text) (fault : ListingFault)
  /-- A program could not be started. -/
  | spawn (command reason : Text)
  /-- A program has failed. -/
  | execution (command : Text) (code : Option Int) (stderr : Text)
  /-- The report of a program cannot be used. -/
  | report (command : Text) (fault : ReportFault) (stderr : Text)
  /-- The file system has refused something. -/
  | io
deriving Repr, DecidableEq

namespace StyleError

/-- An integer in decimal. -/
def integer (n : Int) : Text :=
  if n < 0 then '-' :: Text.ofNat n.natAbs else Text.ofNat n.natAbs

/-- An exit code in a sentence. -/
def describeCode : Option Int → Text
  | some code => "exit code ".toList ++ integer code
  | none => "no exit code (terminated by signal)".toList

/-- Error output on lines of its own, if there is any. -/
def describeStderr (stderr : Text) : Text :=
  let trimmed := Text.trim stderr
  if trimmed.isEmpty then [] else '\n' :: trimmed

/-- A command in a sentence. -/
def quoteCommand (command : Text) : Text := '\x60' :: command ++ ['\x60']

/-- The reason that a listing fault gives. -/
def describeListing : ListingFault → Text
  | .exitCode (some code) stderr =>
    "exit code Some(".toList ++ integer code ++ "): ".toList ++ Text.trim stderr
  | .exitCode none stderr => "exit code None: ".toList ++ Text.trim stderr
  | .unreadable => "the listing is malformed".toList
  | .empty => "no rules listed".toList

/-- The reason that a report fault gives. -/
def describeReport : ReportFault → Text
  | .tooShort size => "expected a JSON report, got ".toList ++ Text.ofNat size ++ " bytes".toList
  | .unreadable => "the report is malformed".toList

/-- **The message of a failure.** -/
def message : StyleError → Text
  | unknownRules names => "unknown rules or departments: ".toList ++ Text.join [',', ' '] names
  | listing command fault =>
    "failed to read rule registry from ".toList ++ quoteCommand command ++ ": ".toList ++
      describeListing fault
  | spawn command reason =>
    "failed to start ".toList ++ quoteCommand command ++ ": ".toList ++ reason
  | execution command code stderr =>
    quoteCommand command ++ " failed with ".toList ++ describeCode code ++ describeStderr stderr
  | report command fault stderr =>
    quoteCommand command ++ " produced an unusable report: ".toList ++ describeReport fault ++
      describeStderr stderr
  | io => "IO error: the file system has refused".toList

end StyleError

/-! ## The world of a run -/

/-- **What answers the calls**: the answer to a call may depend on the calls before it and on the
files, and may change the files. -/
abbrev Runner := List Invocation → Host → Invocation → Reply × Host

/-- **The state of a run**: the files, and the calls that were made, in order. -/
structure Session where
  /-- The files as they are now. -/
  host : Host
  /-- The calls so far. -/
  calls : List Invocation := []

namespace Session

/-- **Making a call.** -/
def call (session : Session) (runner : Runner) (invocation : Invocation) : Reply × Session :=
  let (reply, host) := runner session.calls session.host invocation
  (reply, ⟨host, session.calls ++ [invocation]⟩)

@[simp] theorem calls_call (session : Session) (runner : Runner) (invocation : Invocation) :
    (session.call runner invocation).2.calls = session.calls ++ [invocation] := rfl

end Session

/-- **Whether the checker ran.** -/
inductive Auxiliary where
  /-- Files were given, so it was not asked for. -/
  | notRequested
  /-- It could not run, for a reason. -/
  | skipped (reason : Text)
  /-- It ran. -/
  | ran (outcome : Outcome)
deriving Repr, DecidableEq

/-- **The report on a run.** -/
structure StyleReport where
  /-- The worst outcome of the programs that ran. -/
  outcome : Outcome
  /-- The offenses; none if the programs printed them. -/
  result : Option Findings
  /-- Whether the checker ran. -/
  auxiliary : Auxiliary
deriving Repr, DecidableEq

namespace Settings

/-! ## The filter -/

/-- The call that asks the linter for its rules. -/
def listingInvocation (settings : Settings) : Invocation where
  program := settings.linter
  args := ["--show-cops".toList]

/-- The rules in the answer to the call for them. -/
def readListing (command : Text) : Reply → Except StyleError RuleNames
  | .error reason => .error (.spawn command reason)
  | .ok output =>
    if output.code ≠ some 0 then
      .error (.listing command (.exitCode output.code output.stderr))
    else match RuleNames.ofListing? output.stdout with
      | none => .error (.listing command .unreadable)
      | some known =>
        if known.isEmpty then .error (.listing command .empty) else .ok known

/-- **The rules that the linter knows**: those of the settings, or those that it lists itself. -/
def knownRules (settings : Settings) (runner : Runner) (session : Session) :
    Except StyleError RuleNames × Session :=
  if settings.rules.isEmpty then
    let invocation := settings.listingInvocation
    let (reply, session) := session.call runner invocation
    (readListing invocation.commandLine reply, session)
  else (.ok (RuleNames.ofList settings.rules), session)

/-- The filter for names that are known; without names there is no restriction. -/
def filterOf (known : RuleNames) (filter : List Text → Filter) (names : List Text) :
    Except StyleError Filter :=
  match known.resolve names with
  | .error unknown => .error (.unknownRules unknown)
  | .ok [] => .ok .all
  | .ok resolved => .ok (filter resolved)

/-- **Resolving a filter** against the rules that the linter knows. -/
def resolveFilter (settings : Settings) (runner : Runner) (filter : Filter) (session : Session) :
    Except StyleError Filter × Session :=
  let named (make : List Text → Filter) (names : List Text) :
      Except StyleError Filter × Session :=
    match settings.knownRules runner session with
    | (.error fault, session) => (.error fault, session)
    | (.ok known, session) => (filterOf known make names, session)
  match filter with
  | .all => (.ok .all, session)
  | .only names => named .only names
  | .except names => named .except names

/-! ## The cache -/

/-- **Removing the cache**, where that is asked for and there is one. Only a directory can be
removed. -/
def dropCache (settings : Settings) (wanted : Bool) (host : Host) : Except StyleError Host :=
  if wanted then
    match host.tree.resolve host.cwd settings.styleCache with
    | none => .ok host
    | some place =>
      if host.tree.isDirAt place then .ok { host with tree := host.tree.removeAll place }
      else .error .io
  else .ok host

/-! ## Calls of the programs -/

/-- How findings are read out of a report, with the canonical paths and the directory it was made
in. -/
abbrev ReportReader := (Path → Option Path) → Path → Text → Option Findings

/-- Reads the linter's report. -/
def readReport : ReportReader := fun canonicalize? base payload =>
  (linterReport? payload).map (Findings.ofReport canonicalize? base)

/-- Reads the checker's report. -/
def readComments : ReportReader := fun canonicalize? base payload =>
  (checkerReport? payload).map (Findings.ofComments canonicalize? base)

/-- **Judging the answer to a call**: the outcome, and the findings where they are captured. -/
def judge (command : Text) (mode : OutputMode) (read : ReportReader) (host : Host) :
    Reply → Except StyleError (Outcome × Option Findings)
  | .error reason => .error (.spawn command reason)
  | .ok output =>
    let outcome := Outcome.ofExitCode output.code
    -- the exit code decides before anything is read
    if outcome = .executionError then .error (.execution command output.code output.stderr)
    else if mode = .print then .ok (outcome, none)
    else if Outcome.classify output.code output.stdout = .executionError then
      .error (.report command (.tooShort (Text.utf8Size output.stdout)) output.stderr)
    -- paths are made absolute against the working directory, so there must be one
    else if !host.tree.isDirAt host.cwd then .error .io
    else match read host.canonicalize? host.cwdPath output.stdout with
      | some findings => .ok (outcome, some findings)
      | none => .error (.report command .unreadable output.stderr)

/-- **Calling a program** and judging its answer. -/
def execute (runner : Runner) (invocation : Invocation) (mode : OutputMode) (read : ReportReader)
    (session : Session) : Except StyleError (Outcome × Option Findings) × Session :=
  let (reply, session) := session.call runner invocation
  (judge invocation.commandLine mode read session.host reply, session)

/-- The findings of both programs. -/
def mergeResults : Option Findings → Option Findings → Option Findings
  | some a, some b => some (a.merge b)
  | some a, none => some a
  | none, b => b

/-- **The part of the checker**, after the linter has come to its outcome. -/
def runChecker (settings : Settings) (runner : Runner) (files : List Path) (mode : OutputMode)
    (outcome : Outcome) (result : Option Findings) (session : Session) :
    Except StyleError StyleReport × Session :=
  if !files.isEmpty then (.ok ⟨outcome, result, .notRequested⟩, session)
  else match settings.checkerInvocation session.host mode with
    | .error reason => (.ok ⟨outcome, result, .skipped reason⟩, session)
    | .ok invocation =>
      match execute runner invocation mode readComments session with
      | (.error fault, session) => (.error fault, session)
      | (.ok (checked, found), session) =>
        (.ok ⟨outcome.worst checked, mergeResults result found, .ran checked⟩, session)

/-- The part of the linter and what follows it. -/
def runLinter (settings : Settings) (runner : Runner) (files : List Path) (options : Options)
    (filter : Filter) (mode : OutputMode) (session : Session) :
    Except StyleError StyleReport × Session :=
  let invocation := settings.linterInvocation session.host files options filter mode
  match execute runner invocation mode readReport session with
  | (.error fault, session) => (.error fault, session)
  | (.ok (outcome, result), session) =>
    settings.runChecker runner files mode outcome result session

/-- **A style run** over the given files, or over the default target if there are none. -/
def check (settings : Settings) (runner : Runner) (files : List Path) (options : Options)
    (mode : OutputMode) (host : Host) : Except StyleError StyleReport × Session :=
  match settings.resolveFilter runner options.filter ⟨host, []⟩ with
  | (.error fault, session) => (.error fault, session)
  | (.ok filter, session) =>
    match settings.dropCache options.resetCache session.host with
    | .error fault => (.error fault, session)
    | .ok host =>
      settings.runLinter runner files options filter mode { session with host := host }

end Settings

end Blurb
