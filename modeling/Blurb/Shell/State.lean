import Blurb.Files.Program
import Blurb.Shell.Command
import Blurb.Text.Raw

/-! # The state of a shell

What a running script can see and change: parameters, variables, functions, descriptors and files.
All texts in it are raw. -/

namespace Blurb.Shell

/-- **A variable.** -/
structure Binding where
  /-- Its value, if it has one. -/
  value : Option Text
  /-- Programs that are started see it. -/
  exported : Bool := false
deriving Repr, DecidableEq

/-- **How a script goes on** after a command. -/
inductive Flow where
  /-- With the next command. -/
  | onward
  /-- Behind this many loops. -/
  | breaking (loops : Nat)
  /-- With the next round of the loop that is this many loops out. -/
  | continuing (loops : Nat)
  /-- Behind the call of the function. -/
  | returning
  /-- Not at all: it ends. -/
  | leaving
  /-- Not at all: a signal has ended it. -/
  | killed (signal : Nat)
  /-- Not at all: it takes more steps than it may. -/
  | exhausted
deriving Repr, DecidableEq

/-- **Where a descriptor leads.** -/
inductive Channel where
  /-- To one of the streams. -/
  | stream (n : Nat)
  /-- To a file. -/
  | file (place : Place)
  /-- Nowhere. -/
  | nowhere
deriving Repr, DecidableEq

/-- **The state of a shell.** -/
structure State where
  /-- The files. -/
  host : Host
  /-- The name of the script. -/
  name : Text
  /-- The parameters. -/
  parameters : List Text := []
  /-- The variables; the first of a name counts. -/
  bindings : List (Text × Binding) := []
  /-- The functions; the first of a name counts. -/
  functions : List (Text × Command) := []
  /-- For each function that is running, what its local variables were before. -/
  frames : List (List (Text × Option Binding)) := []
  /-- The status of the last command. -/
  status : Nat := 0
  /-- The status of the last command whose output has been put into the current one. -/
  substituted : Option Nat := none
  /-- How the script goes on. -/
  flow : Flow := .onward
  /-- The streams, each with what has been written to it and not been read. -/
  streams : List Text := []
  /-- Where the descriptors lead; the first of a number counts. -/
  channels : List (Nat × Channel) := []
  /-- What is run at the end of the script. -/
  atExit : Text := []
  /-- The number of loops around the current command. -/
  loops : Nat := 0
  /-- The line of the last simple command. -/
  line : Nat := 0
  /-- A command that fails ends the script. -/
  stopOnError : Bool := false
  /-- A variable without a value ends the script. -/
  stopOnUnset : Bool := false

namespace State

/-- The script goes on with the next command. -/
def isOnward (s : State) : Bool := s.flow = .onward

/-- The last command has succeeded. -/
def succeeded (s : State) : Bool := s.status == 0

/-- The state with a status. -/
def withStatus (s : State) (status : Nat) : State := { s with status := status }

/-- The state with a status that tells whether something holds. -/
def withTruth (s : State) (holds : Bool) : State := s.withStatus (if holds then 0 else 1)

/-- The script ends with a status. -/
def leave (s : State) (status : Nat) : State := { s with status := status, flow := .leaving }

/-! ## Variables -/

/-- The variable of a name. -/
def binding? (s : State) (name : Text) : Option Binding := s.bindings.lookup name

/-- The value of a variable. -/
def value? (s : State) (name : Text) : Option Text := (s.binding? name).bind Binding.value

/-- The variable of a name is replaced, or removed. -/
def putBinding (s : State) (name : Text) (new : Option Binding) : State :=
  let others := s.bindings.filter (·.1 != name)
  { s with bindings :=
      match new with
      | some v => (name, v) :: others
      | none => others }

/-- **Setting a variable**; it stays exported if it was. -/
def set (s : State) (name value : Text) : State :=
  s.putBinding name (some ⟨some value, (s.binding? name).any (·.exported)⟩)

/-- A variable is exported. -/
def exportName (s : State) (name : Text) : State :=
  s.putBinding name (some ⟨s.value? name, true⟩)

/-- The variables that programs see. -/
def environment (s : State) : List (Text × Text) :=
  s.bindings.filterMap fun (name, v) =>
    if v.exported then v.value.map fun value => (name, value) else none

/-- The characters that separate fields. -/
def separators (s : State) : Text := (s.value? "IFS".toList).getD " \t\n".toList

/-- The number of the shell's process. Only its own uses of it are answered. -/
def process : Text := "4711".toList

/-- **The value of a parameter**: a variable, or one of the parameters that are named by digits or
by a special character. -/
def parameter? (s : State) (name : Text) : Option Text :=
  match name with
  | ['@'] => if s.parameters.isEmpty then none else some (Text.join [' '] s.parameters)
  | ['*'] =>
    if s.parameters.isEmpty then none else some (Text.join (s.separators.take 1) s.parameters)
  | ['#'] => some (Text.ofNat s.parameters.length)
  | ['?'] => some (Text.ofNat s.status)
  | ['$'] => some process
  | ['!'] => none
  | ['-'] => some []
  | ['0'] => some s.name
  | name =>
    match Text.number? 10 name with
    | some n => if n = 0 then some s.name else s.parameters[n - 1]?
    | none => s.value? name

/-! ## Output and input -/

/-- **Writing to a channel.** -/
def writeTo (s : State) (text : Text) : Channel → State
  | .stream n => { s with streams := s.streams.modify n (· ++ text) }
  | .nowhere => s
  | .file place =>
    match s.host.tree.at? place with
    | some (.file content executable) =>
      let node := Node.file (content ++ Text.toBytes text) executable
      { s with host := { s.host with tree := s.host.tree.add place node } }
    | _ => s

/-- Writing to a descriptor; nothing is written where it leads nowhere. -/
def write (s : State) (descriptor : Nat) (text : Text) : State :=
  match s.channels.lookup descriptor with
  | some channel => s.writeTo text channel
  | none => s

/-- Printing to the standard output. -/
def print (s : State) (text : Text) : State := s.write 1 text

/-- **A complaint** on the error output, behind the name of the script and a line. -/
def complainAt (s : State) (line : Nat) (text : Text) : State :=
  s.write 2 (s.name ++ ": ".toList ++ Text.ofNat line ++ ": ".toList ++ text ++ ['\n'])

/-- A complaint about the last simple command. -/
def complain (s : State) (text : Text) : State := s.complainAt s.line text

/-- **Reading a line** from the standard input: the line, and whether it was ended. -/
def readLine (s : State) : Text × Bool × State :=
  match s.channels.lookup 0 with
  | some (.stream n) =>
    let waiting := s.streams.getD n []
    let line := waiting.takeWhile (· != '\n')
    (line, line.length < waiting.length,
      { s with streams := s.streams.set n (waiting.drop (line.length + 1)) })
  | _ => ([], false, s)

/-- A stream is opened: its number, and the state with it. -/
def openStream (s : State) (content : Text) : Nat × State :=
  (s.streams.length, { s with streams := s.streams ++ [content] })

/-- A descriptor leads somewhere else. -/
def connect (s : State) (descriptor : Nat) (channel : Channel) : State :=
  { s with channels := (descriptor, channel) :: s.channels }

/-! ## Files -/

/-- The path that stands for no file. -/
def emptyDevice : Text := "/dev/null".toList

/-- The place where the file of a path is or would be. -/
def placeFor? (host : Host) (path : Path) : Option Place :=
  match host.tree.resolve host.cwd path with
  | some place => some place
  | none =>
    let (directory, name) :=
      match Text.splitLast? '/' path with
      | some (before, after) => (if before.isEmpty then ['/'] else before, after)
      | none => (['.'], path)
    if name.isEmpty then none
    else (host.tree.resolve host.cwd directory).bind fun place =>
      if host.tree.isDirAt place then some (place ++ [name]) else none

/-- The content of a file as a raw text. -/
def readFile? (host : Host) (path : Text) : Option Text :=
  if path == emptyDevice then some []
  else (host.tree.read? host.cwd (Text.ofRaw path)).map Text.ofBytes

/-- **Opening a file for writing**: the channel and the files, where a new file stands if there was
none, and an old one is emptied unless it is written further. -/
def openFile (host : Host) (further : Bool) (path : Text) : Except Text (Channel × Host) :=
  let refused (reason : String) : Except Text (Channel × Host) :=
    .error ("cannot create ".toList ++ path ++ ": ".toList ++ reason.toList)
  if path == emptyDevice then .ok (.nowhere, host)
  else match placeFor? host (Text.ofRaw path) with
    | none => refused "Directory nonexistent"
    | some place =>
      match host.tree.at? place with
      | some .dir => refused "Is a directory"
      | some (.file content executable) =>
        let node := Node.file (if further then content else []) executable
        .ok (.file place, { host with tree := host.tree.add place node })
      | none => .ok (.file place, { host with tree := host.tree.add place (.file [] false) })

/-- **Following a redirection** whose target has been expanded, or why that is impossible. -/
def redirect (s : State) (descriptor : Nat) (direction : Direction) (target : Text) :
    Except Text State :=
  match direction with
  | .input =>
    match readFile? s.host target with
    | some content =>
      let (n, s) := s.openStream content
      .ok (s.connect descriptor (.stream n))
    | none => .error ("cannot open ".toList ++ target ++ ": No such file".toList)
  | .document =>
    let (n, s) := s.openStream target
    .ok (s.connect descriptor (.stream n))
  | .duplicate =>
    if target == ['-'] then
      .ok { s with channels := s.channels.filter (·.1 != descriptor) }
    else match (Text.number? 10 target).bind fun n => s.channels.lookup n with
      | some channel => .ok (s.connect descriptor channel)
      | none => .error (target ++ ": Bad file descriptor".toList)
  | direction =>
    match openFile s.host (direction == .append) target with
    | .ok (channel, host) => .ok ({ s with host := host }.connect descriptor channel)
    | .error reason => .error reason

/-! ## Shells of their own -/

/-- **Going on behind a shell of its own**: what it has written stays, what else it has changed does
not. -/
def rejoin (outer inner : State) : State :=
  { outer with
    host := { inner.host with cwd := outer.host.cwd }
    streams := inner.streams
    status := inner.status
    flow := match inner.flow with
      | .killed signal => .killed signal
      | .exhausted => .exhausted
      | _ => outer.flow }

/-- **Going on behind a round of a loop**, and whether the loop is over. -/
def afterRound (s : State) : State × Bool :=
  match s.flow with
  | .onward => (s, false)
  | .breaking loops =>
    ({ s with flow := if loops ≤ 1 then .onward else .breaking (loops - 1) }, true)
  | .continuing loops =>
    if loops ≤ 1 then ({ s with flow := .onward }, false)
    else ({ s with flow := .continuing (loops - 1) }, true)
  | _ => (s, true)

end State

end Blurb.Shell
