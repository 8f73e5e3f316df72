import Blurb.Files.Glob
import Blurb.Files.Program
import Blurb.Style.Invocation

/-! # Settings of a style run

Where the external programs and their files are, what a run is asked to do, and the calls that
follow from both. -/

namespace Blurb

/-- **Locations and programs of a style run.** -/
structure Settings where
  /-- The linter. -/
  linter : Path
  /-- The checker of shell scripts; none if it is disabled. -/
  checker : Option Path
  /-- What is checked if no files are given. -/
  root : Path
  /-- The linter's configuration. -/
  config : Path
  /-- The linter's configuration where the first target has a directory of specifications. -/
  specConfig : Path
  /-- The directory of caches. -/
  cacheDir : Path
  /-- The script that the checker looks at first. -/
  entryPoint : Path
  /-- Patterns of further scripts, relative to the repository. -/
  shellGlobs : List Text
  /-- The repository. -/
  repoRoot : Path
  /-- The rules that the linter knows; it is asked for them if the list is empty. -/
  rules : List Text
deriving Repr, DecidableEq

namespace Settings

/-- **The settings of a repository** without a configuration. -/
def ofRepo (repoRoot : Path) : Settings where
  linter := "rubocop".toList
  checker := some "shellcheck".toList
  root := Path.join repoRoot "Library/Homebrew".toList
  config := Path.join repoRoot "Library/.rubocop.yml".toList
  specConfig := Path.join repoRoot "Library/.rubocop_rspec.yml".toList
  cacheDir := Path.join repoRoot ".cache/desclint".toList
  entryPoint := Path.join repoRoot "bin/brew".toList
  shellGlobs := ["Library/Homebrew/*.sh".toList, "Library/Homebrew/cmd/*.sh".toList,
    "Library/Homebrew/utils/*.sh".toList]
  repoRoot := repoRoot
  rules := []

/-- The cache that the linter is told to use. -/
def styleCache (settings : Settings) : Path := Path.join settings.cacheDir "style".toList

end Settings

/-- **A restriction to some rules**, or to all but some. -/
inductive Filter where
  /-- All rules. -/
  | all
  /-- Only the named rules. -/
  | only (names : List Text)
  /-- All but the named rules. -/
  | except (names : List Text)
deriving Repr, DecidableEq

/-- **What a run is asked to do.** -/
structure Options where
  /-- Correct what can be corrected; else files are checked in parallel. -/
  fix : Bool := false
  /-- The rules to apply. -/
  filter : Filter := .all
  /-- Show more details. -/
  verbose : Bool := false
  /-- Show the names of the rules. -/
  displayRuleNames : Bool := false
  /-- Show what the linter does. -/
  debug : Bool := false
  /-- Remove the cache first. -/
  resetCache : Bool := false
  /-- Ask for colours. -/
  color : Bool := false
  /-- The run is on a server. -/
  ci : Bool := false
deriving Repr, DecidableEq

/-- **The run is on a server**, as its variable tells: it is set to anything but nothing or
"false". -/
def onServer (ci : Option Text) : Bool :=
  match ci with
  | none => false
  | some value => !value.isEmpty && value != "false".toList

/-- **Where the output of the programs goes.** -/
inductive OutputMode where
  /-- The programs write it themselves. -/
  | print
  /-- It is captured as JSON. -/
  | structured
deriving Repr, DecidableEq

/-! ## The call of the linter -/

/-- A program captures its output only in structured mode. -/
def OutputMode.captures (mode : OutputMode) : Bool := mode == .structured

/-- The arguments of a filter. -/
def Filter.args : Filter → List Text
  | all => []
  | only names => ["--only".toList, Text.join [','] names]
  | except names => ["--except".toList, Text.join [','] names]

namespace Settings

/-- The configuration for a run on given files: that for specifications if the first of them has
any. -/
def configFor (settings : Settings) (host : Host) (first : Path) : Path :=
  if host.holds (Path.join first "spec".toList) then settings.specConfig else settings.config

/-- The arguments that only make sense where the linter prints. -/
def printArgs (host : Host) (files : List Path) (options : Options) : List Text :=
  -- whatever is no directory counts, also a path where nothing is
  let single := files.countP (fun file => !host.isDir file) = 1
  (if options.debug then ["--debug".toList] else []) ++
  (if options.ci || single then ["--format".toList, "clang".toList] else []) ++
  (if options.color then ["--color".toList] else [])

/-- The options that the linter is called with. -/
def linterOptions (settings : Settings) (host : Host) (files : List Path) (options : Options)
    (filter : Filter) (mode : OutputMode) : List Text :=
  (if mode = .structured then ["--format".toList, "json".toList] else []) ++
  ["--force-exclusion".toList] ++
  [if options.fix then "--autocorrect-all".toList else "--parallel".toList] ++
  (if options.verbose then ["--extra-details".toList] else []) ++
  (if options.displayRuleNames || options.verbose then ["--display-cop-names".toList] else []) ++
  filter.args ++
  (match files with
    | [] => []
    | first :: _ => ["--config".toList, settings.configFor host first]) ++
  (if mode = .print then printArgs host files options else [])

/-- **The call of the linter**: options, then the files or else the default target. -/
def linterInvocation (settings : Settings) (host : Host) (files : List Path) (options : Options)
    (filter : Filter) (mode : OutputMode) : Invocation where
  program := settings.linter
  args := settings.linterOptions host files options filter mode ++
    (if files.isEmpty then [settings.root] else files)
  env := [("XDG_CACHE_HOME".toList, settings.styleCache)]
  capture := mode.captures

/-! ## The call of the checker -/

/-- Adds a path to an ascending list, unless the list has it in some spelling. -/
def insertPath (path : Path) : List Path → List Path
  | [] => [path]
  | other :: rest =>
    match Path.compare path other with
    | .lt => path :: other :: rest
    | .eq => other :: rest
    | .gt => other :: insertPath path rest

/-- The files that the globs find, in ascending order and each once. -/
def globbedFiles (settings : Settings) (host : Host) : List Path :=
  let found := settings.shellGlobs.flatMap fun pattern =>
    match Glob.ofText? (Path.join settings.repoRoot pattern) with
    | some glob => Glob.files host glob
    | none => []
  found.foldl (fun all path => insertPath path all) []

/-- **The scripts for the checker**: the entry point if it is a file, then the others. -/
def shellFiles (settings : Settings) (host : Host) : List Path :=
  let files := settings.globbedFiles host
  if host.isFile settings.entryPoint then
    settings.entryPoint :: files.filter fun file => !Path.same file settings.entryPoint
  else files

/-- **Where the checker is**, or why it cannot run. -/
def locateChecker (settings : Settings) (host : Host) : Except Text Path :=
  match settings.checker with
  | none => .error "shell checker disabled".toList
  | some configured =>
    -- a file of that name goes before any search
    if host.isFile configured then .ok configured
    else match host.which? configured with
      | some found => .ok found
      | none => .error ('\x60' :: configured ++ "\x60 not found on PATH".toList)

/-- **The call of the checker**, or why it is skipped. -/
def checkerInvocation (settings : Settings) (host : Host) (mode : OutputMode) :
    Except Text Invocation :=
  match settings.locateChecker host with
  | .error reason => .error reason
  | .ok checker =>
    let files := settings.shellFiles host
    if files.isEmpty then .error "no shell files found".toList
    else .ok {
      program := checker
      args :=
        [if mode = .structured then "--format=json".toList else "--format=tty".toList,
          "--shell=bash".toList, "--".toList] ++ files
      capture := mode.captures }

end Settings

end Blurb
