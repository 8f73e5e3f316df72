import Blurb.Description.Phrase
import Blurb.Description.Token

/-! # Rules

What the ten rules for descriptions look for, and the messages they report with. A rule's check
yields a finding when the rule fires; apart from `presence`, no check fires on a missing
description. -/

namespace Blurb

/-- **The ten rules**, in the order in which they are applied by default. -/
inductive RuleId where
  /-- There is a description. -/
  | presence
  /-- The description is not empty. -/
  | nonEmpty
  /-- The description does not start with a blank. -/
  | leadingSpace
  /-- The description does not end with a blank. -/
  | trailingSpace
  /-- "command line" is written with a hyphen. -/
  | commandLine
  /-- The description does not start with an indefinite article. -/
  | indefiniteArticle
  /-- The description starts with a capital letter. -/
  | capitalization
  /-- The description does not start with the name of the item. -/
  | selfReference
  /-- The description does not end with a full stop. -/
  | fullStop
  /-- The description is not too long. -/
  | maxLength
deriving Repr, DecidableEq

namespace RuleId

/-- All rules in their default order. -/
def all : List RuleId :=
  [presence, nonEmpty, leadingSpace, trailingSpace, commandLine, indefiniteArticle, capitalization,
    selfReference, fullStop, maxLength]

theorem mem_all (id : RuleId) : id ∈ all := by
  cases id <;> decide

/-- The name of a rule in configurations and reports. -/
def label : RuleId → Text
  | presence => "presence".toList
  | nonEmpty => "non-empty".toList
  | leadingSpace => "leading-space".toList
  | trailingSpace => "trailing-space".toList
  | commandLine => "command-line".toList
  | indefiniteArticle => "indefinite-article".toList
  | capitalization => "capitalization".toList
  | selfReference => "self-reference".toList
  | fullStop => "full-stop".toList
  | maxLength => "max-length".toList

/-- The rule of a name. -/
def ofLabel? (label : Text) : Option RuleId := all.find? fun id => id.label == label

end RuleId

/-- **What a rule that fires carries into its message.** -/
structure Finding where
  /-- The offending part of the description. -/
  matched : Option Text := none
  /-- The suggested spelling of that part. -/
  expected : Option Text := none
  /-- The length of the description in characters. -/
  length : Option Nat := none
deriving Repr, DecidableEq

/-- **What the checks can be tuned by.** -/
structure Policy where
  /-- The words that may start a description with a small letter. -/
  lowercaseWords : List Text
  /-- The greatest length of a description in characters. -/
  maxLength : Nat
deriving Repr, DecidableEq

/-- The word may start a description with a small letter; case matters. -/
def Policy.allows (policy : Policy) (word : Text) : Bool := policy.lowercaseWords.contains word

/-- **The check of a rule on the content of a description.** -/
def RuleId.inspect? (policy : Policy) (name content : Text) : RuleId → Option Finding
  | .presence => none
  | .nonEmpty => if content.isEmpty then some ⟨none, none, none⟩ else none
  | .leadingSpace =>
    let blanks := Text.leadingBlanks content
    if blanks.isEmpty then none else some ⟨some blanks, none, none⟩
  | .trailingSpace =>
    let blanks := Text.trailingBlanks content
    if blanks.isEmpty then none else some ⟨some blanks, none, none⟩
  | .commandLine =>
    (Phrase.findCommandLine? content).map fun found =>
      ⟨some found, some (Phrase.hyphenatedSpelling found), none⟩
  | .indefiniteArticle =>
    (Phrase.stripArticle? content).map fun (article, _) => ⟨some article, none, none⟩
  | .capitalization =>
    if !policy.allows (Text.firstWord content) && Phrase.startsSmall content then
      some ⟨none, none, none⟩
    else none
  | .selfReference =>
    if name.isEmpty then none
    else (Phrase.leadingName? name content).map fun found => ⟨some (Text.trimEnd found), none, none⟩
  | .fullStop => if Phrase.endsWithFullStop content then some ⟨none, none, none⟩ else none
  | .maxLength =>
    if policy.maxLength < content.length then some ⟨none, none, some content.length⟩ else none

/-- **What a rule runs on a description**: it yields a finding when the rule fires. It sees what the
checks can be tuned by, the name of the item and its description, if there is one. -/
abbrev Check := Policy → Text → Option Token → Option Finding

/-- **The check of a rule** on the description of an item, if there is one. Only `presence` fires on
a missing description, and it fires on nothing else. -/
def RuleId.check? (id : RuleId) : Check := fun policy name token =>
  match token, id with
  | none, .presence => some ⟨none, none, none⟩
  | none, _ => none
  | some token, id => id.inspect? policy name token.content

/-- Where a check is wanted, a rule stands for its own. -/
instance : Coe RuleId Check := ⟨RuleId.check?⟩

@[simp] theorem RuleId.check?_some (policy : Policy) (name : Text) (token : Token) (id : RuleId) :
    id.check? policy name (some token) = id.inspect? policy name token.content := by
  cases id <;> rfl

/-- **A rule in a rulebook**: the name it reports under, the check it runs, whether it ends the
audit when it fires, and its message template. -/
structure Rule where
  /-- The name that problems are reported under. -/
  id : RuleId
  /-- The check that is run, which need not be the one of that name. -/
  check : Check
  /-- Nothing is checked after this rule has fired. -/
  fatal : Bool
  /-- The message, with placeholders in braces. -/
  template : Text

namespace RuleId

/-- Only a missing or empty description ends an audit by default. -/
def isFatal : RuleId → Bool
  | presence | nonEmpty => true
  | _ => false

/-- The message of a rule. `\x7bkind\x7d` and `\x7bKind\x7d` stand for the kind of the item, the
other placeholders for parts of the finding and for the length limit. -/
def template : RuleId → Text
  | presence => "\x7bKind\x7d should have a desc (Description).".toList
  | nonEmpty => "The desc (description) should not be an empty string.".toList
  | leadingSpace => "Description shouldn't have a leading space.".toList
  | trailingSpace => "Description shouldn't have a trailing space.".toList
  | commandLine =>
    "Description should use \"\x7bexpected\x7d\" instead of \"\x7bmatch\x7d\".".toList
  | indefiniteArticle =>
    "Description shouldn't start with an indefinite article i.e. \"\x7bmatch\x7d\".".toList
  | capitalization => "Description should start with a capital letter.".toList
  | selfReference => "Description shouldn't start with the \x7bkind\x7d name.".toList
  | fullStop => "Description shouldn't end with a full stop.".toList
  | maxLength =>
    ("Description is too long. It should be less than \x7bmax\x7d characters. " ++
      "The current length is \x7blength\x7d.").toList

/-- The rule of a name as it stands in the default rulebook. -/
def toRule (id : RuleId) : Rule := ⟨id, id.check?, id.isFatal, id.template⟩

end RuleId

end Blurb
