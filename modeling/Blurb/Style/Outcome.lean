import Blurb.Text.Blank
import Blurb.Text.Utf8

/-! # Outcomes

How the run of an external program ended, from best to worst. -/

namespace Blurb

/-- **How a run ended.** -/
inductive Outcome where
  /-- Nothing was found. -/
  | clean
  /-- There are violations. -/
  | violations
  /-- The program failed. -/
  | executionError
deriving Repr, DecidableEq

namespace Outcome

/-- The name of an outcome. -/
def label : Outcome → Text
  | clean => "clean".toList
  | violations => "violations".toList
  | executionError => "execution-error".toList

/-- The place of an outcome from best to worst. -/
def badness : Outcome → Nat
  | clean => 0
  | violations => 1
  | executionError => 2

/-- **The outcome of an exit code**; a program that a signal ended has none. -/
def ofExitCode : Option Int → Outcome
  | some 0 => clean
  | some 1 => violations
  | _ => executionError

/-- The fewest bytes that a report can have. -/
def minPayload : Nat := 2

/-- The payload is long enough to be a report, blanks at its ends apart. -/
def isReport (payload : Text) : Bool := minPayload ≤ Text.utf8Size (Text.trim payload)

/-- **The outcome of a run whose report is captured**: without a report it has failed. -/
def classify (code : Option Int) (payload : Text) : Outcome :=
  match ofExitCode code with
  | executionError => executionError
  | outcome => if isReport payload then outcome else executionError

/-- The worse of two outcomes. -/
def worst (a b : Outcome) : Outcome := if a.badness < b.badness then b else a

end Outcome

end Blurb
