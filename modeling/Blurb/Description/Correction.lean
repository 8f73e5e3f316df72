import Blurb.Description.Audit

/-! # Corrections

A description is corrected by a fixed list of steps on its text. One pass applies them all, and
passes repeat until the text no longer changes. A step that repairs a rule runs only if the rulebook
has that rule; a description that is too long is never shortened. -/

namespace Blurb

/-- **The steps of a correction.** -/
inductive Step where
  /-- Blanks at both ends go. -/
  | stripWhitespace
  /-- An indefinite article at the start goes. -/
  | stripArticle
  /-- The first character is put in upper case. -/
  | capitalize
  /-- "command line" gets its hyphen. -/
  | hyphenateCommandLine
  /-- The name of the item goes wherever it is a word of its own. -/
  | removeName
  /-- The closing full stop goes. -/
  | stripFullStop
deriving Repr, DecidableEq

namespace Step

/-- **A pass**: the steps in the order in which they are applied. Blanks are stripped a second time
because the name may leave some behind. -/
def pass : List Step :=
  [stripWhitespace, stripArticle, capitalize, hyphenateCommandLine, removeName, stripWhitespace,
    stripFullStop]

/-- The name of a step. -/
def label : Step → Text
  | stripWhitespace => "strip-whitespace".toList
  | stripArticle => "strip-article".toList
  | capitalize => "capitalize".toList
  | hyphenateCommandLine => "hyphenate-command-line".toList
  | removeName => "remove-name".toList
  | stripFullStop => "strip-full-stop".toList

/-- The rule that a step repairs. -/
def rule? : Step → Option RuleId
  | stripWhitespace => none
  | stripArticle => some .indefiniteArticle
  | capitalize => some .capitalization
  | hyphenateCommandLine => some .commandLine
  | removeName => some .selfReference
  | stripFullStop => some .fullStop

/-- **A step on a text.** -/
def apply (policy : Policy) (name text : Text) : Step → Text
  | stripWhitespace => Text.trim text
  | stripArticle => Phrase.dropArticle text
  | capitalize =>
    let word := Text.firstWord text
    if word.isEmpty || policy.allows word then text else Phrase.capitalize text
  | hyphenateCommandLine => Phrase.hyphenate text
  | removeName => Phrase.removeName name text
  | stripFullStop => Phrase.dropFullStop text

/-- The rulebook wants the step: the step repairs no rule, or one that the rulebook has. -/
def isEnabled (book : Rulebook) (step : Step) : Bool :=
  match step.rule? with
  | none => true
  | some id => book.has id

end Step

namespace Rulebook

/-- One pass of the steps that the rulebook wants. -/
def reviseOnce (book : Rulebook) (name text : Text) : Text :=
  (Step.pass.filter (Step.isEnabled book)).foldl
    (fun text step => step.apply book.toPolicy name text) text

/-- **A single pass step by step**: each step of the pass with the text after it, or with nothing if
the rulebook does not want the step, which then leaves the text as it is. -/
def passTrace (book : Rulebook) (name : Text) : List Step → Text → List (Step × Option Text)
  | [], _ => []
  | step :: steps, text =>
    if step.isEnabled book then
      let next := step.apply book.toPolicy name text
      (step, some next) :: passTrace book name steps next
    else (step, none) :: passTrace book name steps text

/-- The trace names the steps in their order. -/
theorem map_fst_passTrace (book : Rulebook) (name : Text) (steps : List Step) (text : Text) :
    (book.passTrace name steps text).map Prod.fst = steps := by
  induction steps generalizing text with
  | nil => rfl
  | cons step steps ih =>
    rw [passTrace]
    split <;> rw [List.map_cons, ih]

/-- The last text of a trace is the text that its steps lead to. -/
theorem getLastD_passTrace (book : Rulebook) (name : Text) (steps : List Step) (text : Text) :
    ((book.passTrace name steps text).filterMap Prod.snd).getLastD text =
      (steps.filter (Step.isEnabled book)).foldl
        (fun text step => step.apply book.toPolicy name text) text := by
  induction steps generalizing text with
  | nil => rfl
  | cons step steps ih =>
    rw [passTrace]
    by_cases henabled : step.isEnabled book = true
    · rw [if_pos henabled, List.filter_cons_of_pos henabled, List.foldl_cons, ← ih]
      exact List.getLastD_cons ..
    · rw [if_neg henabled, List.filter_cons_of_neg henabled, ← ih]
      rfl

/-- **The trace of a pass ends in the pass.** -/
theorem getLastD_passTrace_pass (book : Rulebook) (name text : Text) :
    ((book.passTrace name Step.pass text).filterMap Prod.snd).getLastD text =
      book.reviseOnce name text :=
  getLastD_passTrace book name Step.pass text

/-- Passes until the text is stable, but not more than the given number. -/
def reviseWithin (book : Rulebook) (name : Text) : Nat → Text → Text
  | 0, text => text
  | passes + 1, text =>
    let next := book.reviseOnce name text
    if next = text then text else reviseWithin book name passes next

/-- **The revised text** of a description: its steps applied until nothing changes. -/
def revise (book : Rulebook) (name text : Text) : Text :=
  book.reviseWithin name (text.length + 2) text

/-- **The correction of a token**: its revised content between the same quotes, at its span.
Nothing if the token is not a quoted literal on one line, if it passes already, or if it would come
out unchanged or blank. -/
def correct? (book : Rulebook) (name : Text) (token : Token) : Option Replacement :=
  match lineLiteral? token.source with
  | none => none
  | some (quote, literal) =>
    if book.passes name token then none
    else
      let corrected := book.revise name literal
      -- a blank description is never an improvement
      if corrected = literal ∨ (Text.trim corrected).isEmpty = true then none
      else some ⟨token.span, quote :: corrected ++ [quote]⟩

end Rulebook

end Blurb
