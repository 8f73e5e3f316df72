import Blurb.Description.Rule

/-! # Rulebooks

An ordered list of rules together with what tunes their checks. -/

namespace Blurb

/-- **A rulebook**: its rules in the order in which they are applied. -/
structure Rulebook extends Policy where
  /-- The rules; one may stand several times. -/
  rules : List Rule

namespace Rulebook

/-- The longest description that is not too long by default. -/
def defaultMaxLength : Nat := 80

/-- The words that may start a description with a small letter by default. -/
def defaultLowercaseWords : List Text := ["iOS".toList, "iPhone".toList, "macOS".toList]

/-- **The default rulebook**: all ten rules in their order. -/
def default : Rulebook where
  lowercaseWords := defaultLowercaseWords
  maxLength := defaultMaxLength
  rules := RuleId.all.map RuleId.toRule

/-- **Disabling rules**: the rulebook without the rules of the given names, the others in their
order. -/
def without (book : Rulebook) (disabled : List RuleId) : Rulebook :=
  { book with rules := book.rules.filter fun rule => !disabled.contains rule.id }

/-- The rulebook has a rule of that name. -/
def has (book : Rulebook) (id : RuleId) : Bool := book.rules.any fun rule => rule.id == id

@[simp] theorem rules_without (book : Rulebook) (disabled : List RuleId) :
    (book.without disabled).rules =
      book.rules.filter fun rule => !disabled.contains rule.id := rfl

end Rulebook

end Blurb
