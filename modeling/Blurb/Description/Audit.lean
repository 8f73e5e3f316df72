import Blurb.Description.Rulebook

/-! # Audits

An audit applies the rules of a rulebook in order to the description of one item. Every rule that
fires is reported as a problem, and a fatal rule ends the audit right after its report. -/

namespace Blurb

/-- **The kind of an item**; it shows only in messages. -/
inductive Kind where
  /-- A formula. -/
  | formula
  /-- A cask. -/
  | cask
deriving Repr, DecidableEq

namespace Kind

/-- The name of a kind. -/
def label : Kind → Text
  | formula => "formula".toList
  | cask => "cask".toList

/-- The name of a kind at the start of a sentence. -/
def capitalized : Kind → Text
  | formula => "Formula".toList
  | cask => "Cask".toList

/-- The kind of a name. -/
def ofLabel? (label : Text) : Option Kind := [formula, cask].find? fun kind => kind.label == label

end Kind

/-- **A problem**: one rule that fired on a description. -/
structure Problem where
  /-- The rule that fired. -/
  rule : RuleId
  /-- The rendered message. -/
  message : Text
  /-- The offending part, for rules that name one. -/
  matched : Option Text
  /-- Where the description stands; nothing if it is missing. -/
  span : Option Span
deriving Repr, DecidableEq

/-- The severity that all problems are reported with. -/
def Problem.severity : Text := "convention".toList

/-- **Rendering a message**: each placeholder of the template is replaced by its value, which is
empty where the finding has none. -/
def renderMessage (policy : Policy) (kind : Kind) (finding : Finding) (template : Text) : Text :=
  let steps : List (Text × Text) := [
    ("\x7bKind\x7d".toList, kind.capitalized),
    ("\x7bkind\x7d".toList, kind.label),
    ("\x7bmax\x7d".toList, Text.ofNat policy.maxLength),
    ("\x7blength\x7d".toList, (finding.length.map Text.ofNat).getD []),
    ("\x7bexpected\x7d".toList, finding.expected.getD []),
    ("\x7bmatch\x7d".toList, finding.matched.getD [])]
  steps.foldl (fun text (placeholder, value) => Text.replaceAll placeholder value text) template

namespace Rulebook

/-- The problem that a rule reports, if it fires. -/
def problem? (book : Rulebook) (kind : Kind) (name : Text) (token : Option Token) (rule : Rule) :
    Option Problem :=
  (rule.check book.toPolicy name token).map fun finding =>
    { rule := rule.id
      message := renderMessage book.toPolicy kind finding rule.template
      matched := finding.matched
      span := token.map (·.span) }

/-- The problems that a list of rules reports: one for each rule that fires, up to and including the
first fatal one. -/
def auditRules (book : Rulebook) (kind : Kind) (name : Text) (token : Option Token) :
    List Rule → List Problem
  | [] => []
  | rule :: rules =>
    match book.problem? kind name token rule with
    | none => auditRules book kind name token rules
    | some problem =>
      if rule.fatal then [problem] else problem :: auditRules book kind name token rules

/-- **The audit of an item's description** under a rulebook. -/
def audit (book : Rulebook) (kind : Kind) (name : Text) (token : Option Token) : List Problem :=
  book.auditRules kind name token book.rules

/-- **A description passes** if no rule fires on it. -/
def passes (book : Rulebook) (name : Text) (token : Token) : Bool :=
  book.rules.all fun rule => (rule.check book.toPolicy name (some token)).isNone

end Rulebook

end Blurb
