import Blurb.Proofs.DisabledRules
import Blurb.Proofs.RecordFields
import Blurb.Proofs.StrictUtf8

/-! # Loaded configurations

The configuration of a repository is what the first of its configuration files holds, and a command
can work with it unless that file holds none or disables something that is no rule.

* `Config.Holds` — the configurations that a text holds.
* `Config.Loads`, `Config.load_eq_ok_iff` — the configuration of a repository.
* `Config.CannotLoad`, `Config.load_eq_error_iff` — those that cannot be loaded.
* `Config.Unusable`, `resolveEffective_eq_error_iff` — those that a command cannot work with. -/

namespace Blurb

variable {host : Host} {path : Path}

/-! ## Sections -/

section Sections

variable {δ : Type} (format : Format δ)

/-- **A record gives the section on descriptions.** -/
structure DescSection.IsGivenBy (record : Record δ) (section_ : DescSection) : Prop where
  /-- The greatest length. -/
  maxLength : record.MayGive "max_length"
    (format.MeansOptional fun part n => format.nat? wordBound part = some n) section_.maxLength
  /-- The words that may start with a small letter. -/
  lowercaseWords : record.MayGive "lowercase_words" (format.MeansOptional format.MeansTexts)
    section_.lowercaseWords
  /-- The names of the rules to disable. -/
  disable : record.GivesOr "disable" [] format.MeansTexts section_.disable

/-- A part is a section on descriptions. -/
def DescSection.IsSection (part : δ) (section_ : DescSection) : Prop :=
  ∃ record, format.record? ["max_length".toList, "lowercase_words".toList, "disable".toList] part =
    some record ∧ section_.IsGivenBy format record

/-- **A record gives the section on style runs.** -/
structure StyleSection.IsGivenBy (record : Record δ) (section_ : StyleSection) : Prop where
  /-- Each path or program under its name. -/
  texts : ∀ field ∈ [("linter", section_.linter), ("checker", section_.checker),
      ("root", section_.root), ("config", section_.config), ("spec_config", section_.specConfig),
      ("cache_dir", section_.cacheDir), ("entry_point", section_.entryPoint)],
    record.MayGive field.1 (format.MeansOptional format.MeansText) field.2
  /-- Each list of texts under its name. -/
  lists : ∀ field ∈ [("shell_globs", section_.shellGlobs), ("rules", section_.rules)],
    record.MayGive field.1 (format.MeansOptional format.MeansTexts) field.2

/-- A part is a section on style runs. -/
def StyleSection.IsSection (part : δ) (section_ : StyleSection) : Prop :=
  ∃ record, format.record? ["linter".toList, "checker".toList, "root".toList, "config".toList,
    "spec_config".toList, "cache_dir".toList, "entry_point".toList, "shell_globs".toList,
    "rules".toList] part = some record ∧ section_.IsGivenBy format record

/-- **A record gives a configuration.** -/
structure Config.IsGivenBy (record : Record δ) (config : Config) : Prop where
  /-- The output format. -/
  output : record.MayGive "output" (format.MeansOptional format.MeansText) config.output
  /-- The section on descriptions. -/
  desc : record.MayGive "desc" (format.MeansOptional (DescSection.IsSection format)) config.desc
  /-- The section on style runs. -/
  style : record.MayGive "style" (format.MeansOptional (StyleSection.IsSection format)) config.style

/-- A part is a configuration. -/
def Config.IsConfig (part : δ) (config : Config) : Prop :=
  ∃ record, format.record? ["output".toList, "desc".toList, "style".toList] part = some record ∧
    config.IsGivenBy format record

variable {format} {part : δ}

theorem optionalText_eq_some_iff {record : Record δ} {name : String} {value : Option Text} :
    record.optional? name (format.optional? format.text?) = some value ↔
      record.MayGive name (format.MeansOptional format.MeansText) value :=
  Record.optional?_eq_some_iff fun _ _ => Format.optional?_eq_some_iff fun _ _ => Iff.rfl

theorem optionalTexts_eq_some_iff {record : Record δ} {name : String} {value : Option (List Text)} :
    record.optional? name (format.optional? format.texts?) = some value ↔
      record.MayGive name (format.MeansOptional format.MeansTexts) value :=
  Record.optional?_eq_some_iff fun _ _ =>
    Format.optional?_eq_some_iff fun _ _ => Format.texts?_eq_some_iff

theorem optionalNat_eq_some_iff {record : Record δ} {name : String} {bound : Nat}
    {value : Option Nat} :
    record.optional? name (format.optional? (format.nat? bound)) = some value ↔
      record.MayGive name
        (format.MeansOptional fun part n => format.nat? bound part = some n) value :=
  Record.optional?_eq_some_iff fun _ _ => Format.optional?_eq_some_iff fun _ _ => Iff.rfl

theorem DescSection.read?_eq_some_iff {section_ : DescSection} :
    DescSection.read? format part = some section_ ↔ section_.IsSection format part := by
  simp only [DescSection.read?, IsSection, Option.bind_eq_bind, Option.bind_eq_some_iff,
    optionalNat_eq_some_iff, optionalTexts_eq_some_iff,
    Record.withDefault?_eq_some_iff fun _ _ => Format.texts?_eq_some_iff, Option.some.injEq]
  constructor
  · rintro ⟨record, hrecord, maxLength, hmax, words, hwords, disable, hdisable, rfl⟩
    exact ⟨record, hrecord, hmax, hwords, hdisable⟩
  · rintro ⟨record, hrecord, h⟩
    exact ⟨record, hrecord, _, h.maxLength, _, h.lowercaseWords, _, h.disable, rfl⟩

theorem StyleSection.read?_eq_some_iff {section_ : StyleSection} :
    StyleSection.read? format part = some section_ ↔ section_.IsSection format part := by
  simp only [StyleSection.read?, IsSection, Option.bind_eq_bind, Option.bind_eq_some_iff,
    optionalText_eq_some_iff, optionalTexts_eq_some_iff, Option.some.injEq]
  constructor
  · rintro ⟨record, hrecord, linter, hlinter, checker, hchecker, root, hroot, config, hconfig,
      specConfig, hspec, cacheDir, hcache, entryPoint, hentry, shellGlobs, hglobs, rules, hrules,
      rfl⟩
    exact ⟨record, hrecord, by simp_all, by simp_all⟩
  · rintro ⟨record, hrecord, htexts, hlists⟩
    simp only [List.forall_mem_cons] at htexts hlists
    obtain ⟨hlinter, hchecker, hroot, hconfig, hspec, hcache, hentry, -⟩ := htexts
    obtain ⟨hglobs, hrules, -⟩ := hlists
    exact ⟨record, hrecord, _, hlinter, _, hchecker, _, hroot, _, hconfig, _, hspec, _, hcache,
      _, hentry, _, hglobs, _, hrules, rfl⟩

theorem Config.read?_eq_some_iff {config : Config} :
    Config.read? format part = some config ↔ config.IsConfig format part := by
  simp only [Config.read?, IsConfig, Option.bind_eq_bind, Option.bind_eq_some_iff,
    optionalText_eq_some_iff,
    Record.optional?_eq_some_iff fun _ _ =>
      Format.optional?_eq_some_iff fun _ _ => DescSection.read?_eq_some_iff,
    Record.optional?_eq_some_iff fun _ _ =>
      Format.optional?_eq_some_iff fun _ _ => StyleSection.read?_eq_some_iff,
    Option.some.injEq]
  constructor
  · rintro ⟨record, hrecord, output, houtput, desc, hdesc, style, hstyle, rfl⟩
    exact ⟨record, hrecord, houtput, hdesc, hstyle⟩
  · rintro ⟨record, hrecord, h⟩
    exact ⟨record, hrecord, _, h.output, _, h.desc, _, h.style, rfl⟩

end Sections

/-! ## Texts and files -/

namespace Config

/-- **A text holds a configuration**: TOML if the extension of its file says so, else YAML. -/
inductive Holds (path : Path) (text : Text) : Config → Prop where
  /-- It is TOML. -/
  | toml {value : Toml.Value} {config : Config}
    (extension : Path.extension? path = some "toml".toList)
    (parsed : Toml.Value.parse? text = some value)
    (means : config.IsConfig Toml.Value.format value) : Holds path text config
  /-- It is YAML. -/
  | yaml {document : Yaml.Document} {root : Yaml.Node} {config : Config}
    (extension : Path.extension? path ≠ some "toml".toList)
    (parsed : Yaml.Document.parse? text = some document) (written : document.root = some root)
    (means : config.IsConfig document.format root) : Holds path text config
  /-- It is YAML without anything written. -/
  | empty {document : Yaml.Document} (extension : Path.extension? path ≠ some "toml".toList)
    (parsed : Yaml.Document.parse? text = some document) (empty : document.root = none) :
    Holds path text {}

/-- **The configuration file of a repository**: the first that is there, of those that are tried. -/
def IsFile (host : Host) (root path : Path) : Prop :=
  ∃ before after, fileNames.map (Path.join root) = before ++ path :: after ∧
    (∀ other ∈ before, host.holds other = false) ∧ host.holds path = true

/-- **What the configuration of a repository is.** -/
inductive Loads (host : Host) (root : Path) : Option Config → Prop where
  /-- There is no file, and nothing is configured. -/
  | none (noFile : ∀ name ∈ fileNames, host.holds (Path.join root name) = false) :
    Loads host root none
  /-- It is what the file holds. -/
  | file {path : Path} {text : Text} {config : Config} (isFile : IsFile host root path)
    (holdsText : host.HoldsText path text) (holds : Holds path text config) :
    Loads host root (some config)

/-- **Why the configuration of a repository cannot be loaded.** -/
inductive CannotLoad (host : Host) (root : Path) : ConfigError → Prop where
  /-- What stands there is no file, or it holds no text. -/
  | noText {path : Path} (isFile : IsFile host root path)
    (noText : ∀ text, ¬ host.HoldsText path text) : CannotLoad host root (.read path)
  /-- Its text holds no configuration in TOML. -/
  | noToml {path : Path} {text : Text} (isFile : IsFile host root path)
    (holdsText : host.HoldsText path text) (extension : Path.extension? path = some "toml".toList)
    (noConfig : ∀ config, ¬ Holds path text config) : CannotLoad host root (.toml path)
  /-- Its text holds no configuration in YAML. -/
  | noYaml {path : Path} {text : Text} (isFile : IsFile host root path)
    (holdsText : host.HoldsText path text) (extension : Path.extension? path ≠ some "toml".toList)
    (noConfig : ∀ config, ¬ Holds path text config) : CannotLoad host root (.yaml path)

variable {root : Path} {text : Text} {config : Config}

/-- What is read of the text of a file. -/
def ofText? (path : Path) (text : Text) : Option Config :=
  if Path.extension? path = some "toml".toList then ofToml? text else ofYaml? text

theorem ofText?_eq_some_iff : ofText? path text = some config ↔ Holds path text config := by
  unfold ofText?
  by_cases hextension : Path.extension? path = some "toml".toList
  · rw [if_pos hextension, ofToml?, Option.bind_eq_some_iff]
    constructor
    · rintro ⟨value, hparsed, hread⟩
      exact .toml hextension hparsed (read?_eq_some_iff.1 hread)
    · intro h
      cases h with
      | toml _ parsed means => exact ⟨_, parsed, read?_eq_some_iff.2 means⟩
      | yaml extension => exact absurd hextension extension
      | empty extension => exact absurd hextension extension
  · rw [if_neg hextension, ofYaml?, Option.bind_eq_bind, Option.bind_eq_some_iff]
    constructor
    · rintro ⟨document, hparsed, hread⟩
      cases hroot : document.root with
      | none =>
        rw [hroot] at hread
        obtain rfl := Option.some.inj hread
        exact .empty hextension hparsed hroot
      | some root =>
        rw [hroot] at hread
        exact .yaml hextension hparsed hroot (read?_eq_some_iff.1 hread)
    · intro h
      cases h with
      | toml extension => exact absurd extension hextension
      | yaml _ parsed written means =>
        refine ⟨_, parsed, ?_⟩
        rw [written]
        exact read?_eq_some_iff.2 means
      | empty _ parsed empty =>
        refine ⟨_, parsed, ?_⟩
        rw [empty]

theorem ofText?_eq_none_iff : ofText? path text = none ↔ ∀ config, ¬ Holds path text config := by
  rw [Option.eq_none_iff_forall_ne_some]
  exact forall_congr' fun config => not_congr ofText?_eq_some_iff

theorem isFile_iff :
    IsFile host root path ↔ (fileNames.map (Path.join root)).find? host.holds = some path := by
  rw [List.find?_eq_some_iff_append]
  constructor
  · rintro ⟨before, after, hnames, hfree, hholds⟩
    exact ⟨hholds, before, after, hnames, by simpa using hfree⟩
  · rintro ⟨hholds, before, after, hnames, hfree⟩
    exact ⟨before, after, hnames, by simpa using hfree, hholds⟩

/-- Loading goes on from the file that is found. -/
theorem load_of_isFile (h : IsFile host root path) :
    load host root =
      match host.tree.readText? host.cwd path with
      | none => .error (.read path)
      | some text =>
        match ofText? path text with
        | some config => .ok (some config)
        | none => .error
          (if Path.extension? path = some "toml".toList then .toml path else .yaml path) := by
  unfold load
  rw [isFile_iff.1 h]
  dsimp only
  cases host.tree.readText? host.cwd path with
  | none => rfl
  | some text =>
    unfold ofText?
    by_cases hextension : Path.extension? path = some "toml".toList
    · cases hconfig : ofToml? text <;>
        simp only [hextension, hconfig, beq_self_eq_true, if_true]
    · cases hconfig : ofYaml? text <;> simp only [hextension, hconfig, beq_iff_eq, if_false]

/-- Without a file, nothing is configured. -/
theorem load_of_no_file (h : ∀ name ∈ fileNames, host.holds (Path.join root name) = false) :
    load host root = .ok none := by
  have hnone : (fileNames.map (Path.join root)).find? host.holds = none := by
    rw [List.find?_eq_none]
    intro path hpath
    obtain ⟨name, hname, rfl⟩ := List.mem_map.1 hpath
    simp [h name hname]
  rw [load, hnone]

/-- A repository has a configuration file or none. -/
theorem exists_isFile_or (host : Host) (root : Path) :
    (∃ path, IsFile host root path) ∨
      ∀ name ∈ fileNames, host.holds (Path.join root name) = false := by
  simp only [isFile_iff, ← Option.isSome_iff_exists]
  cases hfind : (fileNames.map (Path.join root)).find? host.holds with
  | some path => exact .inl rfl
  | none =>
    refine .inr fun name hname => ?_
    simpa using List.find?_eq_none.1 hfind _ (List.mem_map_of_mem hname)

theorem IsFile.unique {other : Path} (h : IsFile host root path) (hother : IsFile host root other) :
    path = other :=
  Option.some.inj ((isFile_iff.1 h).symm.trans (isFile_iff.1 hother))

theorem not_isFile (h : ∀ name ∈ fileNames, host.holds (Path.join root name) = false) :
    ¬ IsFile host root path := by
  rintro ⟨before, after, hnames, -, hholds⟩
  have hmem : path ∈ fileNames.map (Path.join root) := by
    rw [hnames]
    exact List.mem_append_right before List.mem_cons_self
  obtain ⟨name, hname, rfl⟩ := List.mem_map.1 hmem
  rw [h name hname] at hholds
  cases hholds

/-- **The configuration of a repository that is loaded** is that of its file, if it has one. -/
theorem load_eq_ok_iff {loaded : Option Config} :
    load host root = .ok loaded ↔ Loads host root loaded := by
  rcases exists_isFile_or host root with ⟨path, hfile⟩ | hnone
  · rw [load_of_isFile hfile]
    constructor
    · intro h
      cases hread : host.tree.readText? host.cwd path with
      | none => simp [hread] at h
      | some text =>
        cases hconfig : ofText? path text with
        | none => simp [hread, hconfig] at h
        | some config =>
          simp only [hread, hconfig] at h
          obtain rfl := Except.ok.inj h
          exact .file hfile (FileTree.readText?_eq_some_iff.1 hread)
            (ofText?_eq_some_iff.1 hconfig)
    · intro h
      cases h with
      | none noFile => exact absurd hfile (not_isFile noFile)
      | file isFile holdsText holds =>
        obtain rfl := isFile.unique hfile
        simp only [FileTree.readText?_eq_some_iff.2 holdsText, ofText?_eq_some_iff.2 holds]
  · rw [load_of_no_file hnone, Except.ok.injEq]
    constructor
    · rintro rfl
      exact .none hnone
    · intro h
      cases h with
      | none => rfl
      | file isFile => exact absurd isFile (not_isFile hnone)

/-- **The configurations that cannot be loaded.** -/
theorem load_eq_error_iff {e : ConfigError} :
    load host root = .error e ↔ CannotLoad host root e := by
  constructor
  · intro h
    rcases exists_isFile_or host root with ⟨path, hfile⟩ | hnone
    · rw [load_of_isFile hfile] at h
      cases hread : host.tree.readText? host.cwd path with
      | none =>
        simp only [hread] at h
        obtain rfl := Except.error.inj h
        exact .noText hfile (FileTree.readText?_eq_none_iff.1 hread)
      | some text =>
        have htext := FileTree.readText?_eq_some_iff.1 hread
        cases hconfig : ofText? path text with
        | some config => simp [hread, hconfig] at h
        | none =>
          have hno := ofText?_eq_none_iff.1 hconfig
          simp only [hread, hconfig] at h
          obtain rfl := Except.error.inj h
          split
          · exact .noToml hfile htext ‹_› hno
          · exact .noYaml hfile htext ‹_› hno
    · rw [load_of_no_file hnone] at h
      cases h
  · intro h
    cases h with
    | noText isFile noText =>
      rw [load_of_isFile isFile, FileTree.readText?_eq_none_iff.2 noText]
    | noToml isFile holdsText extension noConfig =>
      rw [load_of_isFile isFile, FileTree.readText?_eq_some_iff.2 holdsText]
      simp only [ofText?_eq_none_iff.2 noConfig, extension, if_true]
    | noYaml isFile holdsText extension noConfig =>
      rw [load_of_isFile isFile, FileTree.readText?_eq_some_iff.2 holdsText]
      simp only [ofText?_eq_none_iff.2 noConfig, extension, if_false]

end Config

/-! ## What a command works with -/

/-- **The first name that is none of a rule** is the one that is reported. -/
theorem ruleIds_eq_error_iff {names : List Text} {e : ConfigError} :
    ruleIds names = .error e ↔ ∃ (known : List RuleId) (name : Text) (rest : List Text),
      names = known.map RuleId.label ++ name :: rest ∧ (∀ id : RuleId, name ≠ id.label) ∧
        e = .unknownRule name := by
  induction names with
  | nil => simp [ruleIds]
  | cons name names ih =>
    cases hname : RuleId.ofLabel? name with
    | none =>
      have hunknown := RuleId.ofLabel?_eq_none_iff.1 hname
      rw [ruleIds, hname]
      dsimp only
      rw [Except.error.injEq]
      constructor
      · rintro rfl
        exact ⟨[], name, names, rfl, hunknown, rfl⟩
      · rintro ⟨known, other, rest, hnames, -, rfl⟩
        cases known with
        | nil => rw [(List.cons.inj hnames).1]
        | cons id known => exact absurd (List.cons.inj hnames).1 (hunknown id)
    | some id =>
      obtain rfl := RuleId.ofLabel?_eq_some_iff.1 hname
      have hstep : ruleIds (id.label :: names) = .error e ↔ ruleIds names = .error e := by
        rw [ruleIds, hname]
        cases ruleIds names <;> simp
      rw [hstep, ih]
      constructor
      · rintro ⟨known, other, rest, rfl, hunknown, rfl⟩
        exact ⟨id :: known, other, rest, rfl, hunknown, rfl⟩
      · rintro ⟨known, other, rest, hnames, hunknown, rfl⟩
        cases known with
        | nil => exact absurd (List.cons.inj hnames).1.symm (hunknown id)
        | cons first known =>
          exact ⟨known, other, rest, (List.cons.inj hnames).2, hunknown, rfl⟩

/-- **Why a command cannot work with the configuration of a repository.** -/
inductive Config.Unusable (host : Host) (root : Path) : ConfigError → Prop where
  /-- It cannot be loaded. -/
  | load {e : ConfigError} (fault : CannotLoad host root e) : Unusable host root e
  /-- It disables something that is no rule. -/
  | unknownRule {loaded : Option Config} {known : List RuleId} {name : Text} {rest : List Text}
    (loads : Loads host root loaded)
    (disables : ((loaded.getD {}).desc.getD {}).disable = known.map RuleId.label ++ name :: rest)
    (unknown : ∀ id : RuleId, name ≠ id.label) : Unusable host root (.unknownRule name)

theorem DescSection.rulebook_eq_error_iff {section_ : DescSection} {e : ConfigError} :
    section_.rulebook = .error e ↔ ruleIds section_.disable = .error e := by
  unfold rulebook
  cases ruleIds section_.disable <;> simp

/-- **The configurations that a command cannot work with.** -/
theorem resolveEffective_eq_error_iff {repoRoot output : Option Text} {e : ConfigError} :
    resolveEffective host repoRoot output = .error e ↔
      Config.Unusable host (Config.detectRoot host (repoRoot.getD ['.'])) e := by
  unfold resolveEffective
  dsimp only
  generalize Config.detectRoot host (repoRoot.getD ['.']) = root
  cases hload : Config.load host root with
  | error fault =>
    have hfault := Config.load_eq_error_iff.1 hload
    dsimp only
    rw [Except.error.injEq]
    constructor
    · rintro rfl
      exact .load hfault
    · intro h
      cases h with
      | load fault => cases hload.symm.trans (Config.load_eq_error_iff.2 fault); rfl
      | unknownRule loads => cases hload.symm.trans (Config.load_eq_ok_iff.2 loads)
  | ok loaded =>
    have hloaded := Config.load_eq_ok_iff.1 hload
    have hstep : ((loaded.getD {}).desc.getD {}).rulebook = .error e ↔
        Config.Unusable host root e := by
      rw [DescSection.rulebook_eq_error_iff, ruleIds_eq_error_iff]
      constructor
      · rintro ⟨known, name, rest, hdisable, hunknown, rfl⟩
        exact .unknownRule hloaded hdisable hunknown
      · intro h
        cases h with
        | load fault => cases hload.symm.trans (Config.load_eq_error_iff.2 fault)
        | unknownRule loads disables unknown =>
          cases hload.symm.trans (Config.load_eq_ok_iff.2 loads)
          exact ⟨_, _, _, disables, unknown, rfl⟩
    rw [← hstep]
    dsimp only
    cases ((loaded.getD {}).desc.getD {}).rulebook <;> simp

end Blurb
