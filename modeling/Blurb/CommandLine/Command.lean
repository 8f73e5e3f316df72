import Blurb.CommandLine.Options
import Blurb.Description.Audit

/-! # Commands

The commands of the program, what each of them accepts, and how a command line is understood as
one. -/

namespace Blurb.CommandLine

/-- **An audit** of one description or of a manifest. -/
structure AuditCommand where
  /-- The repository. -/
  repoRoot : Option Text
  /-- The output format. -/
  output : Option Text
  /-- The manifest. -/
  manifest : Option Text
  /-- The kind of the item. -/
  kind : Kind
  /-- The name of the item. -/
  name : Option Text
  /-- The description of the item. -/
  desc : Option Text
  /-- Corrections are wanted. -/
  fix : Bool
deriving Repr, DecidableEq

/-- **A correction** of one description token. -/
structure CorrectCommand where
  /-- The repository. -/
  repoRoot : Option Text
  /-- The output format. -/
  output : Option Text
  /-- The name of the item. -/
  name : Text
  /-- The token. -/
  source : Text
deriving Repr, DecidableEq

/-- **A style run.** -/
structure StyleCommand where
  /-- The repository. -/
  repoRoot : Option Text
  /-- The output format. -/
  output : Option Text
  /-- Corrections are wanted. -/
  fix : Bool
  /-- The rules to apply. -/
  only : List Text
  /-- The rules not to apply. -/
  except : List Text
  /-- More details are wanted. -/
  verbose : Bool
  /-- The names of rules are wanted. -/
  displayRuleNames : Bool
  /-- The cache is to be removed. -/
  resetCache : Bool
  /-- The linter is to tell what it does. -/
  debug : Bool
  /-- The files to check. -/
  files : List Text
deriving Repr, DecidableEq

/-- **A command.** -/
inductive Command where
  /-- The version is printed. -/
  | version
  /-- Descriptions are audited. -/
  | audit (command : AuditCommand)
  /-- A token is corrected. -/
  | correct (command : CorrectCommand)
  /-- The linters are run. -/
  | style (command : StyleCommand)
deriving Repr, DecidableEq

/-! ## The words of each command -/

/-- An option that takes one value. -/
def single (name : String) : OptionSpec := ⟨name.toList, .single, []⟩

/-- A switch. -/
def switch (name : String) : OptionSpec := ⟨name.toList, .switch, []⟩

/-- An option that takes a list. -/
def list (name : String) : OptionSpec := ⟨name.toList, .list, []⟩

/-- What `version` accepts. -/
def versionSpec : CommandSpec := ⟨[], .none⟩

/-- What `audit` accepts. -/
def auditSpec : CommandSpec where
  options := [single "repo-root", single "output", single "manifest",
    ⟨"kind".toList, .single, [Kind.formula.label, Kind.cask.label]⟩,
    single "name", single "desc", switch "fix"]
  arguments := .none

/-- What `correct` accepts. -/
def correctSpec : CommandSpec where
  options := [single "repo-root", single "output", single "name"]
  arguments := .one

/-- What `style` accepts. -/
def styleSpec : CommandSpec where
  options := [single "repo-root", single "output", switch "fix", list "only", list "except",
    switch "verbose", switch "display-cop-names", switch "reset-cache", switch "debug"]
  arguments := .many

/-- **An audit**: a manifest excludes a name and a description, and without one a name is
required. -/
def Command.ofAudit (parsed : Parsed) : Except UsageError Command :=
  -- of a conflict and a missing option, the conflict is reported
  if parsed.has "manifest" && (parsed.has "name" || parsed.has "desc") then .error .conflict
  else if !parsed.has "manifest" && !parsed.has "name" then .error .missingRequired
  else .ok <| .audit {
    repoRoot := parsed.value? "repo-root"
    output := parsed.value? "output"
    manifest := parsed.value? "manifest"
    kind := ((parsed.value? "kind").bind Kind.ofLabel?).getD .formula
    name := parsed.value? "name"
    desc := parsed.value? "desc"
    fix := parsed.has "fix" }

/-- **A correction**: a name and a token are required. -/
def Command.ofCorrect (parsed : Parsed) : Except UsageError Command :=
  match parsed.value? "name", parsed.arguments.head? with
  | some name, some source => .ok <| .correct {
      repoRoot := parsed.value? "repo-root"
      output := parsed.value? "output"
      name := name
      source := source }
  | _, _ => .error .missingRequired

/-- **A style run**: rules to apply exclude rules not to apply. -/
def Command.ofStyle (parsed : Parsed) : Except UsageError Command :=
  if parsed.has "only" && parsed.has "except" then .error .conflict
  else .ok <| .style {
    repoRoot := parsed.value? "repo-root"
    output := parsed.value? "output"
    fix := parsed.has "fix"
    only := parsed.values "only"
    except := parsed.values "except"
    verbose := parsed.has "verbose"
    displayRuleNames := parsed.has "display-cop-names"
    resetCache := parsed.has "reset-cache"
    debug := parsed.has "debug"
    files := parsed.arguments }

/-- **What a command name stands for**: what it accepts and what is made of it. -/
def commandOf? (name : Text) :
    Option (CommandSpec × (Parsed → Except UsageError Command)) :=
  if name == "version".toList then some (versionSpec, fun _ => .ok .version)
  else if name == "audit".toList then some (auditSpec, Command.ofAudit)
  else if name == "correct".toList then some (correctSpec, Command.ofCorrect)
  else if name == "style".toList then some (styleSpec, Command.ofStyle)
  else none

/-- The word names a command, that for help included. -/
def isCommandName (word : Text) : Bool := (commandOf? word).isSome || word == helpName

/-- The words behind `help`: at most the name of one command. -/
def helpOn : List Text → UsageError
  | [] => .displayHelp
  | [word] => if isCommandName word then .displayHelp else .invalidSubcommand
  | _ => .invalidSubcommand

/-- A switch before any command, without its hyphens. -/
def leadingLong (body : Text) : UsageError :=
  let (name, value) := splitLong body
  if name == helpName then (if value.isSome then .tooManyValues else .displayHelp)
  else if name == "version".toList then
    (if value.isSome then .tooManyValues else .displayVersion)
  else .unknownArgument

/-- The first word behind two hyphens that stand before any command. -/
def afterHyphens : List Text → UsageError
  | [] => .missingSubcommand
  | word :: _ => if isCommandName word then .unknownArgument else .invalidSubcommand

/-- **Understanding a command line**, without the name of the program. -/
def parse (words : List Text) : Except UsageError Command :=
  match words with
  | [] => .error .missingSubcommand
  | word :: rest =>
    match commandOf? word with
    | some (spec, make) => (parseWords spec rest).bind make
    | none =>
      if word == helpName then .error (helpOn rest)
      else match word with
        | ['-', '-'] => .error (afterHyphens rest)
        | '-' :: '-' :: body => .error (leadingLong body)
        | '-' :: 'h' :: _ => .error .displayHelp
        | '-' :: 'V' :: _ => .error .displayVersion
        | '-' :: _ :: _ => .error .unknownArgument
        | _ => .error .invalidSubcommand

end Blurb.CommandLine
