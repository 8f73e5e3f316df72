import Blurb.CommandLine.Command
import Blurb.Config
import Blurb.Manifest
import Blurb.Report.Batch
import Blurb.Report.Style

/-! # The program

What a command does as a whole: which configuration it works with, what it prints, and the exit code
that it ends with. The code is 0 if nothing was found, 1 if something was found, and 2 after an
error.

Colours are for people at a terminal. The linter is asked for them; the texts that the program
itself writes stand here without the codes that colour them. -/

namespace Blurb

/-- **How the program ends.** -/
structure Ending where
  /-- The exit code. -/
  code : Nat
  /-- Remarks on the error output, made before anything else is printed. -/
  notes : Text := []
  /-- What the called programs have written. -/
  console : Console := {}
  /-- What is printed at the end. -/
  printed : Printed := {}
deriving Repr, DecidableEq

namespace Ending

/-- **The standard output.** -/
def stdout (ending : Ending) : Bytes := ending.console.stdout ++ Text.utf8 ending.printed.stdout

/-- **The standard error output.** -/
def stderr (ending : Ending) : Bytes :=
  Text.utf8 ending.notes ++ ending.console.stderr ++ Text.utf8 ending.printed.stderr

/-- The end after an error. -/
def failure (notes message : Text) (console : Console) : Ending where
  code := 2
  notes := notes
  console := console
  printed := { stderr := "error: ".toList ++ message ++ ['\n'] }

end Ending

namespace Program

/-- The name of the program. -/
def name : Text := "desclint".toList

/-- The version of the program. -/
def version : Text := "0.1.0".toList

/-! ## Preparation -/

/-- The remark on an output format that a command does not have. -/
def formatNote (format : Text) : Text :=
  "warning: Unknown output mode '".toList ++ format ++ "'; using human.\n".toList

/-- The remark on a missing configuration. -/
def defaultsNote : Text := "note: No desclint.toml found; using defaults.\n".toList

/-- **What a command works with**, with one of the formats that it has, and the remarks on it. -/
def adapt (allowed : List Text) (effective : Effective) : Effective × Text :=
  -- an unknown format falls back before the configuration is remarked on
  let known := allowed.contains effective.output
  let adapted :=
    if known then effective else { effective with output := "human".toList }
  let notes :=
    (if known then [] else formatNote effective.output) ++
    (if adapted.configFound || isJsonFormat adapted.output then [] else defaultsNote)
  (adapted, notes)

/-- **Working with the configuration** of a repository; without a usable one the command fails. -/
def withConfig (host : Host) (repoRoot output : Option Text) (allowed : List Text)
    (act : Effective → Text → Ending) : Ending :=
  match resolveEffective host repoRoot output with
  | .error e => .failure [] e.message host.console
  | .ok effective =>
    let (adapted, notes) := adapt allowed effective
    act adapted notes

/-- The formats of reports on descriptions. -/
def descriptionFormats : List Text := ["human".toList, "json".toList]

/-- The formats of reports on style runs. -/
def styleFormats : List Text := ["human".toList, "json".toList, "concise".toList]

/-! ## Audits -/

/-- The path of a manifest: as it is given if it is absolute or something is there, else in the
repository. -/
def manifestPath (host : Host) (repoRoot : Path) (path : Path) : Path :=
  if Path.isAbsolute path || host.holds path then path else Path.join repoRoot path

/-- The remark on the size of a manifest. -/
def manifestNote (entries : List Entry) (path : Path) : Text :=
  "info: Auditing ".toList ++ Text.ofNat entries.length ++ " entries from ".toList ++ path ++ ['\n']

/-- **The entries of an audit**, and a remark on them: those of a manifest, or the single item that
the command names. Otherwise there is a message why there are none. -/
def auditEntries (host : Host) (effective : Effective) (command : CommandLine.AuditCommand) :
    Except Text (List Entry × Text) :=
  match command.manifest, command.name with
  | some given, _ =>
    let path := manifestPath host effective.repoRoot given
    match Manifest.load host path with
    | .error e => .error e.message
    | .ok entries =>
      .ok (entries, if isJsonFormat effective.output then [] else manifestNote entries path)
  | none, some name => .ok ([⟨command.kind, name, command.desc⟩], [])
  | none, none => .error "pass --name or --manifest".toList

/-- **An audit** ends with 1 if there is a problem. -/
def audit (host : Host) (command : CommandLine.AuditCommand) : Ending :=
  withConfig host command.repoRoot command.output descriptionFormats fun effective notes =>
    match auditEntries host effective command with
    | .error message => .failure notes message host.console
    | .ok (entries, note) =>
      let report := effective.rulebook.auditBatch command.fix entries
      { code := if report.hasProblems then 1 else 0
        notes := notes ++ note
        console := host.console
        printed := report.print effective.output }

/-! ## Corrections -/

/-- **A correction** ends with 0, whether there is something to correct or not. -/
def correct (host : Host) (command : CommandLine.CorrectCommand) : Ending :=
  withConfig host command.repoRoot command.output descriptionFormats fun effective notes =>
    let corrected := (effective.rulebook.correct? command.name (Token.ofSource command.source)).bind
      fun replacement => replacement.splice? command.source
    { code := 0
      notes := notes
      console := host.console
      printed := printCorrection command.source corrected effective.output }

/-! ## Style runs -/

/-- The restriction that a style run asks for; rules to apply go before rules not to apply. -/
def filterOf (command : CommandLine.StyleCommand) : Filter :=
  if !command.only.isEmpty then .only command.only
  else if !command.except.isEmpty then .except command.except
  else .all

/-- The options of a style run. -/
def optionsOf (ci : Option Text) (color : Bool) (command : CommandLine.StyleCommand) : Options where
  fix := command.fix
  filter := filterOf command
  verbose := command.verbose
  displayRuleNames := command.displayRuleNames
  debug := command.debug
  resetCache := command.resetCache
  color := color
  ci := onServer ci

/-- Only output for people is left to the programs. -/
def modeOf (format : Text) : OutputMode :=
  if format == "human".toList then .print else .structured

/-- The exit code of an outcome. -/
def exitCode : Outcome → Nat
  | .clean => 0
  | .violations => 1
  | .executionError => 2

/-- The working directory as reports see it: it may be gone after a run. -/
def reportDirectory (host : Host) : Path :=
  if host.tree.isDirAt host.cwd then host.cwdPath else []

/-- **A style run** ends with the exit code of its outcome. -/
def style (runner : Runner) (ci : Option Text) (color : Bool) (host : Host)
    (command : CommandLine.StyleCommand) : Ending :=
  withConfig host command.repoRoot command.output styleFormats fun effective notes =>
    match effective.style.check runner command.files (optionsOf ci color command)
        (modeOf effective.output) host with
    | (.error e, session) => .failure notes e.message session.host.console
    | (.ok report, session) =>
      { code := exitCode report.outcome
        notes := notes
        console := session.host.console
        printed := report.print (reportDirectory session.host) effective.output
          (command.displayRuleNames || command.verbose) }

/-! ## Commands -/

/-- **Running a command.** The runner answers the calls of external programs, `ci` is the variable
that tells whether the run is on a server, and `color` says that colours are wanted. -/
def run (runner : Runner) (ci : Option Text) (color : Bool) (host : Host) :
    CommandLine.Command → Ending
  | .version => { code := 0, console := host.console, printed := .out (version ++ ['\n']) }
  | .audit command => audit host command
  | .correct command => correct host command
  | .style command => style runner ci color host command

/-- What the program tells about its use. -/
def usage : Text := "Usage: ".toList ++ name ++ " <COMMAND>\n\nCommands:\n".toList ++
  Printed.lines (["version", "audit", "correct", "style", "help"].map fun command =>
    ' ' :: ' ' :: command.toList)

/-- What is wrong with a command line, in a sentence. -/
def describeUsage : CommandLine.UsageError → Text
  | .unknownArgument => "unexpected argument".toList
  | .invalidSubcommand => "unrecognized subcommand".toList
  | .invalidValue => "invalid or missing value of an option".toList
  | .conflict => "an argument cannot be used with another one".toList
  | .missingRequired => "a required argument was not provided".toList
  | .tooManyValues => "unexpected value of an option".toList
  | .displayHelp => "help".toList
  | .displayVersion => "version".toList
  | .missingSubcommand => "a command is required".toList

/-- **The end of a command line that names no command to run**: help and the version go to the
standard output, anything else is an error. -/
def endOfUsage (host : Host) : CommandLine.UsageError → Ending
  | .displayHelp => { code := 0, console := host.console, printed := .out usage }
  | .displayVersion =>
    { code := 0, console := host.console, printed := .out (name ++ ' ' :: version ++ ['\n']) }
  | .missingSubcommand =>
    { code := 2, console := host.console, printed := { stderr := usage } }
  | e => .failure [] (describeUsage e) host.console

/-- **The program**: its words are understood as a command, and the command is run. -/
def execute (runner : Runner) (ci : Option Text) (color : Bool) (host : Host) (words : List Text) :
    Ending :=
  match CommandLine.parse words with
  | .error e => endOfUsage host e
  | .ok command => run runner ci color host command

end Program

end Blurb
