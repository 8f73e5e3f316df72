import Blurb.Text.Basic

/-! # Printed text

What a command writes: the two standard streams, and the formats that reports are asked for in. -/

namespace Blurb

/-- **What is written to the two standard streams.** -/
structure Printed where
  /-- The standard output. -/
  stdout : Text := []
  /-- The standard error output. -/
  stderr : Text := []
deriving Repr, DecidableEq

namespace Printed

/-- One piece of writing after another. -/
def append (a b : Printed) : Printed := ⟨a.stdout ++ b.stdout, a.stderr ++ b.stderr⟩

/-- Writing to the standard output. -/
def out (text : Text) : Printed := ⟨text, []⟩

/-- Lines, each with its line break. -/
def lines (texts : List Text) : Text := texts.flatMap fun text => text ++ ['\n']

end Printed

/-- The output format that is meant for programs. Every other name asks for lines for people. -/
def isJsonFormat (format : Text) : Bool := format == "json".toList

end Blurb
