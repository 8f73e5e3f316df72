import Blurb.Program
import Blurb.Shell.Script

/-! # The program among scripts

The program on a host where all other programs are shell scripts, as its environment variables tell
where to look for them. -/

namespace Blurb.Program

/-- Environment variables. -/
abbrev Environment := List (Text × Text)

/-- The search path that a variable holds. -/
def searchPathOf (environment : Environment) : List Path :=
  match environment.lookup "PATH".toList with
  | some value => Text.splitOn ':' value
  | none => []

/-- The runner that answers calls by running scripts. -/
def scriptRunner (environment : Environment) : Runner :=
  fun _ host invocation => Shell.answer environment host invocation

/-- Colours are wanted at a terminal, unless a variable forbids them, whatever it holds. -/
def wantsColor (environment : Environment) (terminal : Bool) : Bool :=
  terminal && (environment.lookup "NO_COLOR".toList).isNone

/-- **The program with its environment**, on a host where all other programs are scripts;
`terminal` says that the standard output is one. -/
def executeScripted (environment : Environment) (host : Host) (words : List Text)
    (terminal : Bool := false) : Ending :=
  execute (scriptRunner environment) (environment.lookup "CI".toList)
    (wantsColor environment terminal) { host with searchPath := searchPathOf environment } words

end Blurb.Program
