import Blurb.Text.Case
import Blurb.Json.Value

/-! # Offenses

What an external linter complains about, and the one line that tells it. -/

namespace Blurb

/-- **Where an offense stands**: line and column, counted from one, and the number of characters it
covers. -/
structure Location where
  /-- The line. -/
  line : Nat
  /-- The column. -/
  column : Nat
  /-- The number of characters. -/
  length : Nat
deriving Repr, DecidableEq

/-- The short form of a location. -/
def Location.short (location : Location) : Text :=
  Text.ofNat location.line ++ ": col ".toList ++ Text.ofNat location.column

/-- **An offense** that a linter reports. -/
structure Offense where
  /-- How bad it is, in the linter's words. -/
  severity : Text
  /-- What is wrong. -/
  message : Text
  /-- The linter's rule. -/
  rule : Text
  /-- The linter has corrected it. -/
  corrected : Bool
  /-- The linter could correct it. -/
  correctable : Bool
  /-- Where it stands. -/
  location : Location
deriving Repr, DecidableEq

namespace Offense

/-- The code of a severity: its first character in upper case. -/
def code (offense : Offense) : Text :=
  match offense.severity with
  | [] => []
  | c :: _ => upper c

/-- **The line that tells an offense**, with or without the rule. -/
def render (offense : Offense) (showRule : Bool) : Text :=
  offense.code ++ ": ".toList ++ offense.location.short ++ ": ".toList ++
    (if showRule then offense.rule ++ ": ".toList else []) ++
    (if offense.corrected then "[Corrected] ".toList else []) ++ offense.message

open Json in
/-- An offense as JSON. -/
def toJson (offense : Offense) : Value :=
  .obj [
    member "severity" (.str offense.severity),
    member "message" (.str offense.message),
    member "rule_id" (.str offense.rule),
    member "corrected" (.bool offense.corrected),
    member "correctable" (.bool offense.correctable),
    member "location" (.obj [
      member "line" (.nat offense.location.line),
      member "column" (.nat offense.location.column),
      member "length" (.nat offense.location.length)])]

end Offense

end Blurb
