import Blurb.Files.Path

/-! # Invocations

The call of an external program and what comes back from it. -/

namespace Blurb

/-- **The call of an external program.** -/
structure Invocation where
  /-- The program: a path, or a name to look for. -/
  program : Path
  /-- The arguments. -/
  args : List Text := []
  /-- The environment variables that are set for the call. -/
  env : List (Text × Text) := []
  /-- The output is captured; else it goes where ours goes. -/
  capture : Bool := true
deriving Repr, DecidableEq

namespace Invocation

/-- **The call as a line**, as error messages quote it: variables, program and arguments, separated
by blanks and not quoted. -/
def commandLine (invocation : Invocation) : Text :=
  Text.join [' '] <|
    invocation.env.map (fun (key, value) => key ++ '=' :: value) ++
      invocation.program :: invocation.args

end Invocation

/-- **What a finished program leaves**: its exit code, unless a signal ended it, and the output that
was captured. -/
structure CommandOutput where
  /-- The exit code. -/
  code : Option Int
  /-- The captured standard output. -/
  stdout : Text := []
  /-- The captured standard error output. -/
  stderr : Text := []
deriving Repr, DecidableEq

/-- **The answer to a call**: the program could not be started, for the given reason, or it has
run. -/
abbrev Reply := Except Text CommandOutput

end Blurb
