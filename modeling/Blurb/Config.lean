import Blurb.Description.Rulebook
import Blurb.Style.Settings
import Blurb.Toml.Document
import Blurb.Yaml.Decode

/-! # Configuration

Where the configuration of a repository is found, how it is read, and what becomes of it together
with the defaults. -/

namespace Blurb

/-- **The section on descriptions.** -/
structure DescSection where
  /-- The greatest length of a description. -/
  maxLength : Option Nat := none
  /-- The words that may start with a small letter. -/
  lowercaseWords : Option (List Text) := none
  /-- The names of the rules to disable. -/
  disable : List Text := []
deriving Repr, DecidableEq

/-- **The section on style runs.** Its paths are relative to the repository. -/
structure StyleSection where
  /-- The linter. -/
  linter : Option Text := none
  /-- The checker of shell scripts; an empty name disables it. -/
  checker : Option Text := none
  /-- The default target. -/
  root : Option Text := none
  /-- The linter's configuration. -/
  config : Option Text := none
  /-- The linter's configuration for specifications. -/
  specConfig : Option Text := none
  /-- The directory of caches. -/
  cacheDir : Option Text := none
  /-- The script that the checker looks at first. -/
  entryPoint : Option Text := none
  /-- Patterns of further scripts. -/
  shellGlobs : Option (List Text) := none
  /-- The rules that the linter knows. -/
  rules : Option (List Text) := none
deriving Repr, DecidableEq

/-- **A configuration as it is written.** -/
structure Config where
  /-- The output format. -/
  output : Option Text := none
  /-- The section on descriptions. -/
  desc : Option DescSection := none
  /-- The section on style runs. -/
  style : Option StyleSection := none
deriving Repr, DecidableEq

/-- **Why a configuration cannot be used.** -/
inductive ConfigError where
  /-- The file cannot be read, or it is no text. -/
  | read (path : Path)
  /-- The file is no TOML, or does not hold a configuration. -/
  | toml (path : Path)
  /-- The file is no YAML, or does not hold a configuration. -/
  | yaml (path : Path)
  /-- A rule to disable is none of the rules. -/
  | unknownRule (name : Text)
deriving Repr, DecidableEq

/-- **The message of a failure.** -/
def ConfigError.message : ConfigError → Text
  | read path => "failed to read config ".toList ++ path
  | toml path => "config ".toList ++ path ++ " is not valid TOML".toList
  | yaml path => "config ".toList ++ path ++ " is not valid YAML".toList
  | unknownRule name => "unknown rule id '".toList ++ name ++ "' in [desc].disable".toList

/-! ## Reading -/

section Reading

variable {δ : Type} (format : Format δ)

/-- Reads the section on descriptions. -/
def DescSection.read? (part : δ) : Option DescSection := do
  let record ← format.record? ["max_length".toList, "lowercase_words".toList, "disable".toList] part
  some {
    maxLength := ← record.optional? "max_length" (format.optional? (format.nat? wordBound))
    lowercaseWords := ← record.optional? "lowercase_words" (format.optional? format.texts?)
    disable := ← record.withDefault? "disable" [] format.texts? }

/-- Reads the section on style runs. -/
def StyleSection.read? (part : δ) : Option StyleSection := do
  let record ← format.record? ["linter".toList, "checker".toList, "root".toList, "config".toList,
    "spec_config".toList, "cache_dir".toList, "entry_point".toList, "shell_globs".toList,
    "rules".toList] part
  let text (name : String) := record.optional? name (format.optional? format.text?)
  let texts (name : String) := record.optional? name (format.optional? format.texts?)
  some {
    linter := ← text "linter", checker := ← text "checker", root := ← text "root"
    config := ← text "config", specConfig := ← text "spec_config"
    cacheDir := ← text "cache_dir", entryPoint := ← text "entry_point"
    shellGlobs := ← texts "shell_globs", rules := ← texts "rules" }

/-- **Reads a configuration.** -/
def Config.read? (part : δ) : Option Config := do
  let record ← format.record? ["output".toList, "desc".toList, "style".toList] part
  some {
    output := ← record.optional? "output" (format.optional? format.text?)
    desc := ← record.optional? "desc" (format.optional? (DescSection.read? format))
    style := ← record.optional? "style" (format.optional? (StyleSection.read? format)) }

end Reading

namespace Config

/-- The configuration in a TOML text. -/
def ofToml? (text : Text) : Option Config :=
  (Toml.Value.parse? text).bind (read? Toml.Value.format)

/-- The configuration in a YAML text; an empty text configures nothing. -/
def ofYaml? (text : Text) : Option Config := do
  let document ← Yaml.Document.parse? text
  match document.root with
  | none => some {}
  | some root => read? document.format root

/-! ## Finding -/

/-- The names of configuration files, in the order in which they are tried. -/
def fileNames : List Text :=
  ["desclint.toml".toList, "desclint.yaml".toList, "desclint.yml".toList]

/-- A directory is the root of a repository: it has a configuration, or is under version control. -/
def isRoot (host : Host) (directory : Path) : Bool :=
  (fileNames.any fun name => host.holds (Path.join directory name)) ||
    host.holds (Path.join directory ".git".toList)

/-- The first root among a path and its parents. -/
def findRoot? (host : Host) : Nat → Path → Option Path
  | 0, _ => none
  | fuel + 1, path =>
    if isRoot host path then some path else (Path.parent? path).bind (findRoot? host fuel)

/-- **The root of the repository** that a path lies in; the path itself if it lies in none. Each
parent is shorter than the path, down to the empty one. -/
def detectRoot (host : Host) (start : Path) : Path :=
  (findRoot? host (start.length + 2) start).getD start

/-- **Loading the configuration of a repository**, if it has one. -/
def load (host : Host) (root : Path) : Except ConfigError (Option Config) :=
  match (fileNames.map (Path.join root)).find? host.holds with
  | none => .ok none
  | some path =>
    match host.tree.readText? host.cwd path with
    | none => .error (.read path)
    | some text =>
      -- anything but TOML is read as YAML
      if Path.extension? path == some "toml".toList then
        match ofToml? text with
        | some config => .ok (some config)
        | none => .error (.toml path)
      else
        match ofYaml? text with
        | some config => .ok (some config)
        | none => .error (.yaml path)

end Config

/-! ## Effective settings -/

/-- The rules of the given names, or the first name that is none. -/
def ruleIds : List Text → Except ConfigError (List RuleId)
  | [] => .ok []
  | name :: names =>
    match RuleId.ofLabel? name with
    | none => .error (.unknownRule name)
    | some id =>
      match ruleIds names with
      | .error e => .error e
      | .ok ids => .ok (id :: ids)

/-- **The rulebook of a configuration**: the default rules but those that are disabled. -/
def DescSection.rulebook (section_ : DescSection) : Except ConfigError Rulebook :=
  match ruleIds section_.disable with
  | .error e => .error e
  | .ok disabled =>
    let book : Rulebook := {
      lowercaseWords := section_.lowercaseWords.getD Rulebook.defaultLowercaseWords
      maxLength := section_.maxLength.getD Rulebook.defaultMaxLength
      rules := Rulebook.default.rules }
    .ok (book.without disabled)

/-- A program of a repository: a bare name is looked for, anything else is a path in it. -/
def programIn (repoRoot : Path) (program : Text) : Path :=
  if program.contains '/' then Path.join repoRoot program else program

/-- **The settings of a configuration**, where everything that is not given is as by default. -/
def StyleSection.settings (section_ : StyleSection) (repoRoot : Path) : Settings :=
  let defaults := Settings.ofRepo repoRoot
  let under (path : Option Text) (default : Path) : Path :=
    (path.map (Path.join repoRoot)).getD default
  { linter := (section_.linter.map (programIn repoRoot)).getD defaults.linter
    checker := match section_.checker with
      | none => defaults.checker
      | some name => if name.isEmpty then none else some (programIn repoRoot name)
    root := under section_.root defaults.root
    config := under section_.config defaults.config
    specConfig := under section_.specConfig defaults.specConfig
    cacheDir := under section_.cacheDir defaults.cacheDir
    entryPoint := under section_.entryPoint defaults.entryPoint
    shellGlobs := section_.shellGlobs.getD defaults.shellGlobs
    repoRoot := repoRoot
    rules := section_.rules.getD defaults.rules }

/-- **What a command works with.** -/
structure Effective where
  /-- The root of the repository. -/
  repoRoot : Path
  /-- The output format. -/
  output : Text
  /-- The rulebook for descriptions. -/
  rulebook : Rulebook
  /-- The settings of style runs. -/
  style : Settings
  /-- There is a configuration file. -/
  configFound : Bool

/-- **Resolving what a command works with**: the command line goes before the configuration, and
that before the defaults. -/
def resolveEffective (host : Host) (repoRoot output : Option Text) :
    Except ConfigError Effective :=
  let root := Config.detectRoot host (repoRoot.getD ['.'])
  match Config.load host root with
  | .error e => .error e
  | .ok loaded =>
    let config := loaded.getD {}
    match (config.desc.getD {}).rulebook with
    | .error e => .error e
    | .ok rulebook =>
      .ok {
        repoRoot := root
        output := (output.or config.output).getD "human".toList
        rulebook := rulebook
        style := (config.style.getD {}).settings root
        configFound := loaded.isSome }

end Blurb
