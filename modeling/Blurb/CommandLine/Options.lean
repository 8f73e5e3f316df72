import Blurb.Text.Basic

/-! # Options and arguments

How the words behind a command's name are taken as options, their values, and arguments. The value
of an option may be the next word or stand behind an equals sign; two hyphens end the options. An
option is only settled when the next one is met, so of two faults the one of the earlier option is
reported, unless the later word is no option at all. -/

namespace Blurb.CommandLine

/-- **Why a command line is not understood**, or is answered without running a command. -/
inductive UsageError where
  /-- A word has no meaning where it stands. -/
  | unknownArgument
  /-- There is no such command. -/
  | invalidSubcommand
  /-- The value of an option is missing or none of those it may have. -/
  | invalidValue
  /-- An option is given twice, or together with one that it excludes. -/
  | conflict
  /-- Something that is required is missing. -/
  | missingRequired
  /-- A switch is given a value. -/
  | tooManyValues
  /-- Help is asked for. -/
  | displayHelp
  /-- The version is asked for. -/
  | displayVersion
  /-- There is no command, so help is shown. -/
  | missingSubcommand
deriving Repr, DecidableEq

/-- **How an option takes values.** -/
inductive Arity where
  /-- It takes none and may be given once. -/
  | switch
  /-- It takes one and may be given once. -/
  | single
  /-- It takes several, separated by commas, and may be given again. -/
  | list
deriving Repr, DecidableEq

/-- **An option of a command.** -/
structure OptionSpec where
  /-- Its name, without the hyphens. -/
  name : Text
  /-- How it takes values. -/
  arity : Arity
  /-- The values it may have; all if there are none listed. -/
  choices : List Text := []
deriving Repr, DecidableEq

/-- **How many arguments a command takes.** -/
inductive Arguments where
  /-- None. -/
  | none
  /-- One at most. -/
  | one
  /-- Any number. -/
  | many
deriving Repr, DecidableEq

/-- There is room for a further argument. -/
def Arguments.hasRoom (arguments : Arguments) (given : List Text) : Bool :=
  match arguments with
  | .none => false
  | .one => given.isEmpty
  | .many => true

/-- **What a command accepts.** -/
structure CommandSpec where
  /-- Its options. -/
  options : List OptionSpec
  /-- Its arguments. -/
  arguments : Arguments
deriving Repr, DecidableEq

/-- **What has been understood so far.** -/
structure Parsed where
  /-- The settled options with their values, in order. -/
  options : List (Text × List Text) := []
  /-- The arguments. -/
  arguments : List Text := []
  /-- The option that is not settled yet, with its value if that has been met. -/
  pending : Option (OptionSpec × Option Text) := none
deriving Repr, DecidableEq

namespace Parsed

/-- An option is given. -/
def has (parsed : Parsed) (name : String) : Bool := parsed.options.any (·.1 == name.toList)

/-- All values of an option. -/
def values (parsed : Parsed) (name : String) : List Text :=
  (parsed.options.filter (·.1 == name.toList)).flatMap (·.2)

/-- The value of an option that takes one. -/
def value? (parsed : Parsed) (name : String) : Option Text := (parsed.values name).head?

/-- **Settling an option with a value**: it may not be given twice, unless it is a list, and its
values must be among its choices. -/
def settle (parsed : Parsed) (spec : OptionSpec) (value : Text) : Except UsageError Parsed :=
  let values := if spec.arity = .list then Text.splitOn ',' value else [value]
  -- given twice is reported before a wrong value
  if spec.arity ≠ .list && parsed.options.any (·.1 == spec.name) then .error .conflict
  else if !spec.choices.isEmpty && !values.all spec.choices.contains then .error .invalidValue
  else .ok { parsed with options := parsed.options ++ [(spec.name, values)] }

/-- **Settling the pending option**, whose value must have been met. -/
def settlePending (parsed : Parsed) : Except UsageError Parsed :=
  match parsed.pending with
  | none => .ok parsed
  | some (_, none) => .error .invalidValue
  | some (spec, some value) => { parsed with pending := none }.settle spec value

/-- A switch is met. -/
def switch (parsed : Parsed) (spec : OptionSpec) : Except UsageError Parsed :=
  match parsed.settlePending with
  | .error e => .error e
  | .ok parsed =>
    if parsed.options.any (·.1 == spec.name) then .error .conflict
    else .ok { parsed with options := parsed.options ++ [(spec.name, [])] }

end Parsed

/-- The name of a long option and the value behind its equals sign, without the hyphens. -/
def splitLong (body : Text) : Text × Option Text :=
  match Text.splitFirst? '=' body with
  | some (name, value) => (name, some value)
  | none => (body, none)

/-- The name of the switch that asks for help. -/
def helpName : Text := "help".toList

/-- **A long option**, without its hyphens. -/
def longOption (spec : CommandSpec) (parsed : Parsed) (body : Text) : Except UsageError Parsed :=
  let (name, value) := splitLong body
  if name == helpName then
    match value with
    | some _ => .error .tooManyValues
    | none => parsed.settlePending.bind fun _ => .error .displayHelp
  else match spec.options.find? fun option => option.name == name with
    | none => .error .unknownArgument
    | some option =>
      match option.arity, value with
      | .switch, some _ => .error .tooManyValues
      | .switch, none => parsed.switch option
      | _, some value => parsed.settlePending.bind fun parsed => parsed.settle option value
      | _, none =>
        parsed.settlePending.bind fun parsed =>
          .ok { parsed with pending := some (option, none) }

/-- **A cluster of short options**, without its hyphen; the only one there is asks for help. -/
def shortOptions (parsed : Parsed) (body : Text) : Except UsageError Parsed :=
  if body.head? == some 'h' then parsed.settlePending.bind fun _ => .error .displayHelp
  else .error .unknownArgument

/-- A word that is an argument, or the value of the pending option if that has none yet. -/
def plainWord (spec : CommandSpec) (parsed : Parsed) (ended : Bool) (word : Text) :
    Except UsageError Parsed :=
  match parsed.pending, ended with
  | some (option, none), false => .ok { parsed with pending := some (option, some word) }
  | _, _ =>
    if spec.arguments.hasRoom parsed.arguments then
      parsed.settlePending.bind fun parsed =>
        .ok { parsed with arguments := parsed.arguments ++ [word] }
    else .error .unknownArgument

/-- Takes word after word; `ended` tells that the options have ended. -/
def takeWords (spec : CommandSpec) : Bool → Parsed → List Text → Except UsageError Parsed
  | _, parsed, [] => parsed.settlePending
  | true, parsed, word :: words =>
    (plainWord spec parsed true word).bind fun parsed => takeWords spec true parsed words
  | false, parsed, word :: words =>
    match word with
    | ['-', '-'] => takeWords spec true parsed words
    | '-' :: '-' :: body =>
      (longOption spec parsed body).bind fun parsed => takeWords spec false parsed words
    | '-' :: c :: body =>
      (shortOptions parsed (c :: body)).bind fun parsed => takeWords spec false parsed words
    | word =>
      (plainWord spec parsed false word).bind fun parsed => takeWords spec false parsed words

/-- **Understanding the words behind a command's name.** -/
def parseWords (spec : CommandSpec) (words : List Text) : Except UsageError Parsed :=
  takeWords spec false {} words

end Blurb.CommandLine
