import Blurb.Style.Settings
import Mathlib

/-! # What the linter is asked

The arguments of the linter are read back here as it reads them: word by word, where some options
take the next word as their value. What was asked for is then said of the options that are read, for
all settings, files and output modes at once.

* `LinterOption`, `readOptions?` — the options of the linter and how they are read.
* `readOptions?_words` — options that are written are read back, whatever their values look like.
* `Settings.givenOptions` — the options of a call, and `Settings.linterOptions_eq`, that they are
  what is written.
* `Settings.Asked`, `Settings.mem_givenOptions` — what a call is to ask for, and that its options
  are just that.
* `Settings.isLinterCall_linterInvocation` — the call of the linter asks for just that. -/

namespace Blurb

/-! ## Options of the linter -/

/-- **An option of the linter.** -/
inductive LinterOption where
  /-- How offenses are printed. -/
  | format
  /-- Files that the configuration leaves out stay out. -/
  | forceExclusion
  /-- Offenses are corrected. -/
  | autocorrectAll
  /-- Files are checked in parallel. -/
  | parallel
  /-- More details are shown. -/
  | extraDetails
  /-- The names of the rules are shown. -/
  | displayNames
  /-- Only the named rules apply. -/
  | only
  /-- All but the named rules apply. -/
  | except
  /-- The configuration. -/
  | config
  /-- What the linter does is shown. -/
  | debug
  /-- Output has colours. -/
  | color
deriving Repr, DecidableEq

namespace LinterOption

/-- All options. -/
def all : List LinterOption :=
  [format, forceExclusion, autocorrectAll, parallel, extraDetails, displayNames, only, except,
    config, debug, color]

/-- How an option is written. -/
def word : LinterOption → Text
  | format => "--format".toList
  | forceExclusion => "--force-exclusion".toList
  | autocorrectAll => "--autocorrect-all".toList
  | parallel => "--parallel".toList
  | extraDetails => "--extra-details".toList
  | displayNames => "--display-cop-names".toList
  | only => "--only".toList
  | except => "--except".toList
  | config => "--config".toList
  | debug => "--debug".toList
  | color => "--color".toList

/-- The option takes the next word as its value. -/
def takesValue : LinterOption → Bool
  | format | only | except | config => true
  | _ => false

/-- The option that a word writes. -/
def ofWord? (word : Text) : Option LinterOption := all.find? fun option => option.word == word

theorem ofWord?_word (option : LinterOption) : ofWord? option.word = some option := by
  cases option <;> decide

end LinterOption

/-- **An option that is given**, with its value if it takes one. -/
abbrev GivenOption := LinterOption × Option Text

namespace GivenOption

/-- The words of an option: itself, then its value. -/
def words (given : GivenOption) : List Text := given.1.word :: given.2.toList

/-- An option that is given under a condition. -/
def under (condition : Prop) [Decidable condition] (given : GivenOption) : List GivenOption :=
  if condition then [given] else []

theorem mem_under {condition : Prop} [Decidable condition] {given other : GivenOption} :
    other ∈ under condition given ↔ condition ∧ other = given := by
  rw [under]
  split <;> simp [*]

theorem flatMap_under (condition : Prop) [Decidable condition] (given : GivenOption) :
    (under condition given).flatMap words = if condition then given.words else [] := by
  rw [under]
  split <;> simp

theorem map_under_sublist (condition : Prop) [Decidable condition] (given : GivenOption) :
    ((under condition given).map Prod.fst).Sublist [given.1] := by
  rw [under]
  split <;> simp

/-- The option has a value exactly if it takes one. -/
def IsWhole (given : GivenOption) : Prop := given.2.isSome = given.1.takesValue

end GivenOption

/-- **Reading options** from left to right: every word is an option, or the value of the one before
it. Nothing if a word is no option or a value is missing. -/
def readOptions? : List Text → Option (List GivenOption)
  | [] => some []
  | word :: rest =>
    match LinterOption.ofWord? word with
    | none => none
    | some option =>
      if option.takesValue then
        match rest with
        | [] => none
        | value :: rest => (readOptions? rest).map ((option, some value) :: ·)
      else (readOptions? rest).map ((option, none) :: ·)

/-- **Options are read back** from their words. A value may be spelled like an option. -/
theorem readOptions?_words {options : List GivenOption}
    (h : ∀ given ∈ options, GivenOption.IsWhole given) :
    readOptions? (options.flatMap GivenOption.words) = some options := by
  induction options with
  | nil => rfl
  | cons given options ih =>
    rw [List.forall_mem_cons] at h
    obtain ⟨option, value?⟩ := given
    have hwhole : value?.isSome = option.takesValue := h.1
    cases value? with
    | none =>
      have htakes : option.takesValue = false := hwhole.symm
      rw [List.flatMap_cons, GivenOption.words, Option.toList_none, List.cons_append,
        List.nil_append, readOptions?, LinterOption.ofWord?_word]
      simp only [htakes, Bool.false_eq_true, if_false, ih h.2, Option.map_some]
    | some value =>
      have htakes : option.takesValue = true := hwhole.symm
      rw [List.flatMap_cons, GivenOption.words, Option.toList_some, List.cons_append,
        List.cons_append, List.nil_append, readOptions?, LinterOption.ofWord?_word]
      simp only [htakes, if_true, ih h.2, Option.map_some]

/-! ## The options of a call -/

/-- The option of a filter, with the names that it is given. -/
def Filter.given : Filter → List GivenOption
  | all => []
  | only names => [(.only, some (Text.join [','] names))]
  | except names => [(.except, some (Text.join [','] names))]

namespace Settings

open GivenOption

section Given

variable (settings : Settings) (host : Host) (files : List Path) (options : Options)
  (filter : Filter) (mode : OutputMode)

/-- The configuration for the given files, if there are any. -/
def givenConfig : List GivenOption :=
  match files with
  | [] => []
  | first :: _ => [(.config, some (settings.configFor host first))]

/-- The options that only make sense where the linter prints. -/
def givenPrintOptions : List GivenOption :=
  under (options.debug = true) (.debug, none) ++
  (under (options.ci = true ∨ files.countP (fun file => !host.isDir file) = 1)
    (.format, some "clang".toList) ++
  under (options.color = true) (.color, none))

/-- The options of every call, with output of either kind. -/
def givenRunOptions : List GivenOption :=
  under True (.forceExclusion, none) ++
  (under (options.fix = true) (.autocorrectAll, none) ++
  (under (options.fix = false) (.parallel, none) ++
  (under (options.verbose = true) (.extraDetails, none) ++
  (under (options.displayRuleNames = true ∨ options.verbose = true) (.displayNames, none) ++
  (filter.given ++ settings.givenConfig host files)))))

/-- **The options that the linter is called with.** `--format` comes first if output is captured. -/
def givenOptions : List GivenOption :=
  match mode with
  | .print =>
    settings.givenRunOptions host files options filter ++ givenPrintOptions host files options
  | .structured =>
    (.format, some "json".toList) :: settings.givenRunOptions host files options filter

theorem printArgs_eq :
    printArgs host files options =
      (givenPrintOptions host files options).flatMap words := by
  simp only [printArgs, givenPrintOptions, List.flatMap_append, flatMap_under, Bool.or_eq_true,
    decide_eq_true_eq, List.append_assoc]
  rfl

/-- **The options of a call are what is written.** -/
theorem linterOptions_eq :
    settings.linterOptions host files options filter mode =
      (settings.givenOptions host files options filter mode).flatMap words := by
  have hrun : [if options.fix then "--autocorrect-all".toList else "--parallel".toList] =
      (if options.fix = true then words (.autocorrectAll, none) else []) ++
        if options.fix = false then words (.parallel, none) else [] := by
    cases options.fix <;> rfl
  have hfilter : filter.args = filter.given.flatMap words := by
    cases filter <;> rfl
  unfold linterOptions
  -- once both sides are put together in the same way they only differ in how words are written
  cases mode <;>
    simp only [givenOptions, givenRunOptions, List.flatMap_append, List.flatMap_cons, flatMap_under,
      hrun, hfilter, printArgs_eq, List.append_assoc, Bool.or_eq_true] <;>
    cases files <;> rfl

end Given

/-! ## What a call asks for -/

section Asked

variable (settings : Settings) (host : Host) (files : List Path) (options : Options)
  (filter : Filter) (mode : OutputMode)

/-- **What the linter checks**: the given files, or the root if there are none. -/
def targets : List Path := if files = [] then [settings.root] else files

/-- **What a call of the linter is to ask for**, option by option and with which value. Corrections
exclude checks in parallel, and a filter has one of two directions. `single` says when output for a
single file is wanted. -/
def Asked (single : Prop) : LinterOption → Option Text → Prop
  | .format, value =>
    mode = .structured ∧ value = some "json".toList ∨
      mode = .print ∧ (options.ci = true ∨ single) ∧ value = some "clang".toList
  | .forceExclusion, value => value = none
  | .autocorrectAll, value => options.fix = true ∧ value = none
  | .parallel, value => options.fix = false ∧ value = none
  | .extraDetails, value => options.verbose = true ∧ value = none
  | .displayNames, value =>
    (options.displayRuleNames = true ∨ options.verbose = true) ∧ value = none
  | .only, value => ∃ names, filter = .only names ∧ value = some (Text.join [','] names)
  | .except, value => ∃ names, filter = .except names ∧ value = some (Text.join [','] names)
  | .config, value =>
    ∃ first ∈ files.head?, value =
      some (if host.holds (Path.join first "spec".toList) then settings.specConfig
        else settings.config)
  | .debug, value => mode = .print ∧ options.debug = true ∧ value = none
  | .color, value => mode = .print ∧ options.color = true ∧ value = none

/-- **A call that asks for what it is to ask for**, of the files or the root, with the cache of the
settings in its environment. -/
structure IsLinterCall (single : Prop) (invocation : Invocation) : Prop where
  /-- The linter is called. -/
  program : invocation.program = settings.linter
  /-- The arguments are options, each at most once, and behind them what is to be checked. -/
  args : ∃ words given, invocation.args = words ++ settings.targets files ∧
    readOptions? words = some given ∧ (given.map Prod.fst).Nodup ∧
    ∀ option value, (option, value) ∈ given ↔
      settings.Asked host files options filter mode single option value
  /-- The environment has the cache and nothing else. -/
  env : invocation.env =
    [("XDG_CACHE_HOME".toList, Path.join settings.cacheDir "style".toList)]
  /-- Output is captured in structured mode only. -/
  capture : invocation.capture = true ↔ mode = .structured

variable {settings host files options filter mode}

/-- Options that are to be asked for have a value exactly if they take one. -/
theorem Asked.isWhole {single : Prop} {option : LinterOption} {value : Option Text}
    (h : settings.Asked host files options filter mode single option value) :
    GivenOption.IsWhole (option, value) := by
  cases option with
  | format =>
    obtain ⟨-, rfl⟩ | ⟨-, -, rfl⟩ := h <;> rfl
  | only =>
    obtain ⟨names, -, rfl⟩ := h
    rfl
  | except =>
    obtain ⟨names, -, rfl⟩ := h
    rfl
  | config =>
    obtain ⟨first, -, rfl⟩ := h
    rfl
  | forceExclusion => exact congrArg Option.isSome h
  | autocorrectAll | parallel | extraDetails | displayNames => exact congrArg Option.isSome h.2
  | debug | color => exact congrArg Option.isSome h.2.2

variable (settings host files options filter mode)

/-- **The options of a call are those that are to be asked for.** Only given files count as single,
the root does not. -/
theorem mem_givenOptions (option : LinterOption) (value : Option Text) :
    (option, value) ∈ settings.givenOptions host files options filter mode ↔
      settings.Asked host files options filter mode
        (files.countP (fun file => !host.isDir file) = 1) option value := by
  have hfilter : (option, value) ∈ filter.given ↔
      (option = .only ∧ ∃ names, filter = .only names ∧ value = some (Text.join [','] names)) ∨
      (option = .except ∧ ∃ names, filter = .except names ∧
        value = some (Text.join [','] names)) := by
    cases filter <;> simp [Filter.given]
  have hconfig : (option, value) ∈ settings.givenConfig host files ↔
      option = .config ∧ ∃ first ∈ files.head?, value =
        some (settings.configFor host first) := by
    cases files <;> simp [givenConfig]
  cases mode <;>
    simp only [givenOptions, givenRunOptions, givenPrintOptions, List.mem_append, List.mem_cons,
      mem_under, hfilter, hconfig, Prod.mk.injEq] <;>
    cases option <;> simp [Asked, configFor]

theorem givenRunOptions_sublist :
    ((settings.givenRunOptions host files options filter).map Prod.fst).Sublist
      [.forceExclusion, .autocorrectAll, .parallel, .extraDetails, .displayNames, .only, .except,
        .config] := by
  have hfilter : (filter.given.map Prod.fst).Sublist [.only, .except] := by
    cases filter <;> simp [Filter.given]
  have hconfig : ((settings.givenConfig host files).map Prod.fst).Sublist [.config] := by
    cases files <;> simp [givenConfig]
  have hflag (condition : Prop) [Decidable condition] (option : LinterOption) :
      ((under condition (option, none)).map Prod.fst).Sublist [option] :=
    map_under_sublist condition _
  simp only [givenRunOptions, List.map_append]
  exact (hflag _ _).append <| (hflag _ _).append <| (hflag _ _).append <| (hflag _ _).append <|
    (hflag _ _).append <| hfilter.append hconfig

theorem givenPrintOptions_sublist :
    ((givenPrintOptions host files options).map Prod.fst).Sublist [.debug, .format, .color] := by
  simp only [givenPrintOptions, List.map_append]
  exact (map_under_sublist _ _).append ((map_under_sublist _ _).append (map_under_sublist _ _))

/-- **No option is given twice.** The options stand in a fixed order, of which a call leaves some
out; the two that are a `--format` belong to different modes. -/
theorem nodup_givenOptions :
    ((settings.givenOptions host files options filter mode).map Prod.fst).Nodup := by
  have hrun := settings.givenRunOptions_sublist host files options filter
  have hprint := givenPrintOptions_sublist host files options
  cases mode with
  | print =>
    have hsub := hrun.append hprint
    rw [← List.map_append] at hsub
    exact hsub.nodup (by decide)
  | structured =>
    have hsub := hrun.cons_cons LinterOption.format
    exact hsub.nodup (by decide)

theorem linterInvocation_args :
    (settings.linterInvocation host files options filter mode).args =
      (settings.givenOptions host files options filter mode).flatMap words ++
        settings.targets files := by
  rw [← linterOptions_eq]
  cases files <;> rfl

theorem readOptions?_givenOptions :
    readOptions? ((settings.givenOptions host files options filter mode).flatMap words) =
      some (settings.givenOptions host files options filter mode) := by
  refine readOptions?_words fun given hgiven => ?_
  obtain ⟨option, value⟩ := given
  rw [mem_givenOptions] at hgiven
  exact hgiven.isWhole

/-- **The call of the linter asks for what it is to ask for**, whatever the settings, the files and
their kinds, the options, the filter and the mode are: options that are read from left to right,
then the targets. Output for a single file is wanted if exactly one of the given files is no
directory. -/
theorem isLinterCall_linterInvocation :
    settings.IsLinterCall host files options filter mode
      (files.countP (fun file => !host.isDir file) = 1)
      (settings.linterInvocation host files options filter mode) where
  program := rfl
  args := ⟨_, _, settings.linterInvocation_args host files options filter mode,
    settings.readOptions?_givenOptions host files options filter mode,
    settings.nodup_givenOptions host files options filter mode,
    settings.mem_givenOptions host files options filter mode⟩
  env := rfl
  capture := beq_iff_eq

variable {settings host files options filter mode}

/-- Where the linter prints and no server asks for it, only one given file that is no directory
brings the output for a single file. -/
theorem IsLinterCall.single_iff {single : Prop} (hci : options.ci = false)
    (h : settings.IsLinterCall host files options filter .print single
      (settings.linterInvocation host files options filter .print)) :
    single ↔ files.countP (fun file => !host.isDir file) = 1 := by
  obtain ⟨words', given, hargs, hread, -, hgiven⟩ := h.args
  -- the options are what stands before the targets, so they are the ones that were written
  rw [linterInvocation_args, List.append_cancel_right_eq] at hargs
  rw [← hargs, readOptions?_givenOptions, Option.some_inj] at hread
  have hformat := hgiven .format (some "clang".toList)
  rw [← hread, mem_givenOptions] at hformat
  simpa [Asked, hci] using hformat.symm

/-- The root does not count as a single file: where no files are given and the root is no directory,
the call does not ask for the output for a single file. -/
theorem not_forall_isLinterCall_targets :
    ¬ ∀ (settings : Settings) (host : Host) (files : List Path) (options : Options)
        (filter : Filter) (mode : OutputMode),
      settings.IsLinterCall host files options filter mode
        ((settings.targets files).countP (fun target => !host.isDir target) = 1)
        (settings.linterInvocation host files options filter mode) := by
  intro h
  have hsingle := IsLinterCall.single_iff rfl
    (h (.ofRepo "/r".toList) ⟨{}, [], [], {}⟩ [] {} .all .print)
  exact absurd (hsingle.mp (by decide)) (by decide)

end Asked

end Settings

end Blurb
