import Blurb.Shell.Run
import Blurb.Style.Invocation

/-! # Scripts as programs

Programs are shell scripts. This module starts them as a style run asks for it, so that a run over a
host with its scripts can be followed to its end. -/

namespace Blurb.Shell

/-- **What a finished script leaves.** -/
structure Remains where
  /-- Its exit code, unless a signal ended it. -/
  code : Option Int
  /-- Its standard output. -/
  stdout : Bytes
  /-- Its standard error output. -/
  stderr : Bytes
  /-- The files. -/
  host : Host

/-- How deep the commands of a script may nest, and how often its loops may run. -/
def depth : Nat := 1000000

/-- The state in which a script starts: nothing is there to read, and what it prints is kept in
streams. -/
def State.initial (host : Host) (environment : List (Text × Text)) (name : Path)
    (arguments : List Text) : State where
  host := host
  name := Text.toRaw name
  parameters := arguments.map Text.toRaw
  bindings := ("PWD".toList, ⟨some (Text.toRaw host.cwdPath), true⟩) ::
    environment.map fun (name, value) => (Text.toRaw name, ⟨some (Text.toRaw value), true⟩)
  streams := [[], [], []]
  channels := [(0, .stream 0), (1, .stream 1), (2, .stream 2)]

/-- **Running a script** from its first line to its end. -/
def runScript (host : Host) (environment : List (Text × Text)) (name : Path)
    (arguments : List Text) (content : Bytes) : Remains :=
  let script := Text.ofBytes content
  let start := (firstLineModes script).foldl (Builtin.setMode true)
    (State.initial host environment name arguments)
  let final := runToEnd depth script start
  { code := match final.flow with
      | .killed _ => none
      | .exhausted => none
      | _ => some final.status
    stdout := Text.toBytes (final.streams.getD 1 [])
    stderr := Text.toBytes (final.streams.getD 2 [])
    host := { final.host with cwd := host.cwd } }

/-! ## Starting -/

/-- **Why a program cannot be started.** -/
inductive StartFault where
  /-- There is no such file. -/
  | missing
  /-- The file may not be run. -/
  | denied
  /-- The file is no script. -/
  | noScript
  /-- A text holds the character that ends texts. -/
  | nulCharacter
deriving Repr, DecidableEq

/-- **The message of a failure to start.** -/
def StartFault.message : StartFault → Text
  | missing => "No such file or directory (os error 2)".toList
  | denied => "Permission denied (os error 13)".toList
  | noScript => "Exec format error (os error 8)".toList
  | nulCharacter => "nul byte found in provided data".toList

/-- The path of a program that is named by a path or a bare name. A bare name stands for the first
file in the search path that may be run, or else for the first of that name. -/
def programPath (host : Host) (program : Path) : Path :=
  if program.contains '/' || program.isEmpty then program
  else
    let candidates := host.searchPath.map fun directory => Path.join directory program
    ((candidates.find? host.isExecutable).or (candidates.find? host.holds)).getD []

/-- The interpreters that run shell scripts. -/
def interpreters : List Text := ["/bin/sh".toList, "/usr/bin/sh".toList, "/bin/dash".toList]

/-- The interpreter that the first line of a file names. -/
def interpreter? (content : Bytes) : Option Text :=
  let line := (Text.ofBytes content).takeWhile (· != '\n')
  (Text.strip? ['#', '!'] line).map fun rest =>
    (rest.dropWhile fun c => c == ' ' || c == '\t').takeWhile fun c => c != ' ' && c != '\t'

/-- **The script of a program**: where it is and what it says. -/
def findScript (host : Host) (program : Path) : Except StartFault (Path × Bytes) :=
  let path := programPath host program
  match host.tree.node? host.cwd path with
  | none => .error .missing
  | some (.file content true) =>
    match interpreter? content with
    | none => .error .noScript
    | some interpreter =>
      if interpreters.contains interpreter then .ok (path, content) else .error .missing
  | some _ => .error .denied

/-- Later variables replace earlier ones of the same name. -/
def overlay (environment changes : List (Text × Text)) : List (Text × Text) :=
  environment.filter (fun v => !changes.any (·.1 == v.1)) ++ changes

/-- The texts of a call can be handed to a program. -/
def isPassable (invocation : Invocation) : Bool :=
  !(invocation.program :: invocation.args ++ invocation.env.flatMap fun v => [v.1, v.2]).any
    fun t => t.contains '\x00'

/-- **Answering a call** by running the script it names. What is not captured goes to the
console. -/
def answer (environment : List (Text × Text)) (host : Host) (invocation : Invocation) :
    Reply × Host :=
  if !isPassable invocation then (.error StartFault.nulCharacter.message, host)
  else match findScript host invocation.program with
    | .error fault => (.error fault.message, host)
    | .ok (path, content) =>
      let left := runScript host (overlay environment invocation.env) path invocation.args content
      if invocation.capture then
        (.ok {
          code := left.code
          stdout := Text.ofUtf8Lossy left.stdout
          stderr := Text.ofUtf8Lossy left.stderr }, left.host)
      else
        (.ok { code := left.code }, { left.host with console := {
          stdout := host.console.stdout ++ left.stdout
          stderr := host.console.stderr ++ left.stderr } })

end Blurb.Shell
