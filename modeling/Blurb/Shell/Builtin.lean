import Blurb.Shell.Condition
import Blurb.Shell.Printing
import Blurb.Shell.State

/-! # Builtins

The commands that a shell runs by itself. Each takes its arguments and changes the state; the status
tells how it went. -/

namespace Blurb.Shell

/-- **A command of the shell itself.** -/
abbrev Builtin := List Text → State → State

namespace Builtin

/-- A complaint of a command, with a status. -/
def refuse (name reason : Text) (status : Nat) (s : State) : State :=
  (s.complain (name ++ ": ".toList ++ reason)).withStatus status

/-- Prints words. -/
def echo : Builtin := fun arguments s => (s.print (echoText arguments)).withStatus 0

/-- Prints arguments in a format. -/
def printf : Builtin
  | [], s => refuse "printf".toList "usage: printf format [arg ...]".toList 2 s
  | format :: arguments, s =>
    let printing := printfText format arguments
    let s := s.print printing.text
    printing.complaints.foldl (fun s complaint => refuse "printf".toList complaint 1 s)
      (s.withStatus 0)

/-- The status that an argument gives, or the status of the last command. -/
def statusOf (arguments : List Text) (s : State) : Except Text Nat :=
  match arguments with
  | [] => .ok s.status
  | argument :: _ =>
    match Text.number? 10 argument with
    | some n => .ok (n % 256)
    | none => .error ("Illegal number: ".toList ++ argument)

/-- Ends the script. -/
def exit : Builtin := fun arguments s =>
  match statusOf arguments s with
  | .ok status => s.leave status
  | .error reason => (refuse "exit".toList reason 2 s).leave 2

/-- Ends the call of a function. -/
def return_ : Builtin := fun arguments s =>
  match statusOf arguments s with
  | .ok status => { s with status := status, flow := .returning }
  | .error reason => (refuse "return".toList reason 2 s).leave 2

/-- The number that an argument gives, or one. -/
def countOf (arguments : List Text) : Nat := (arguments.head?.bind (Text.number? 10)).getD 1

/-- Ends loops, as many as there are at most. -/
def break_ : Builtin := fun arguments s =>
  let loops := min (countOf arguments) s.loops
  { s with status := 0, flow := if loops = 0 then s.flow else .breaking loops }

/-- Ends rounds of loops, as many as there are at most. -/
def continue_ : Builtin := fun arguments s =>
  let loops := min (countOf arguments) s.loops
  { s with status := 0, flow := if loops = 0 then s.flow else .continuing loops }

/-- Drops parameters. -/
def shift : Builtin := fun arguments s =>
  let count := countOf arguments
  if s.parameters.length < count then
    (refuse "shift".toList "can't shift that many".toList 2 s).leave 2
  else { s with parameters := s.parameters.drop count, status := 0 }

/-- Turns a mode of the shell on or off. -/
def setMode (on : Bool) (s : State) (letter : Char) : State :=
  match letter with
  | 'e' => { s with stopOnError := on }
  | 'u' => { s with stopOnUnset := on }
  | _ => s

/-- The letter of a mode that has a long name. -/
def modeLetter (name : Text) : Text :=
  if name == "errexit".toList then ['e'] else if name == "nounset".toList then ['u'] else []

/-- Sets modes and parameters. -/
def setModes : Builtin
  | [], s => s.withStatus 0
  | ['-', '-'] :: arguments, s => { s with parameters := arguments, status := 0 }
  | ['-', 'o'] :: name :: arguments, s =>
    setModes arguments ((modeLetter name).foldl (setMode true) s)
  | ['+', 'o'] :: name :: arguments, s =>
    setModes arguments ((modeLetter name).foldl (setMode false) s)
  | argument :: arguments, s =>
    match argument with
    | '-' :: letters => setModes arguments (letters.foldl (setMode true) s)
    | '+' :: letters => setModes arguments (letters.foldl (setMode false) s)
    | _ => { s with parameters := argument :: arguments, status := 0 }

/-- A name and the value behind its equals sign, if there is one. -/
def splitAssignment (argument : Text) : Text × Option Text :=
  match Text.splitFirst? '=' argument with
  | some (name, value) => (name, some value)
  | none => (argument, none)

/-- Sets the variable of an argument, if the argument has a value for it. -/
def assign (s : State) (argument : Text) : State :=
  match splitAssignment argument with
  | (name, some value) => s.set name value
  | _ => s

/-- Lets programs see variables. -/
def export_ : Builtin := fun arguments s =>
  (arguments.foldl (fun s argument => (assign s argument).exportName (splitAssignment argument).1)
    s).withStatus 0

/-- Sets variables for good. -/
def readonly : Builtin := fun arguments s => (arguments.foldl assign s).withStatus 0

/-- Sets variables until the function returns; there must be one. -/
def local_ : Builtin := fun arguments s =>
  let remember (s : State) (name : Text) : State :=
    match s.frames with
    | frame :: frames => { s with frames := ((name, s.binding? name) :: frame) :: frames }
    | [] => s
  if s.frames.isEmpty then (refuse "local".toList "not in a function".toList 2 s).leave 2
  else
    (arguments.foldl (fun s argument => assign (remember s (splitAssignment argument).1) argument)
      s).withStatus 0

/-- Removes variables or functions. -/
def unset : Builtin
  | ['-', 'f'] :: names, s =>
    { s with functions := s.functions.filter (fun f => !names.contains f.1), status := 0 }
  | names, s => (names.foldl (fun s name => s.putBinding name none) s).withStatus 0

/-! ## Reading lines -/

/-- Removes the backslashes of a line: each makes the character behind it count as it is. -/
def lineGlyphs (raw : Bool) : Text → List (Char × Bool)
  | [] => []
  | c :: rest =>
    if c = '\\' ∧ raw = false then
      match rest with
      | d :: rest => (d, true) :: lineGlyphs raw rest
      | [] => []
    else (c, false) :: lineGlyphs raw rest

/-- Sets names to the fields of a line; the last name takes all that is left. -/
def setFields (separators : Text) (names : List Text) (line : List (Char × Bool)) (s : State) :
    State :=
  let separates (c : Char × Bool) : Bool := !c.2 && separators.contains c.1
  let trimmed := line.dropWhile separates
  match names with
  | [] => s
  | [name] => s.set name ((trimmed.reverse.dropWhile separates).reverse.map (·.1))
  | name :: names =>
    let first := trimmed.takeWhile fun c => !separates c
    setFields separators names (trimmed.drop (first.length + 1)) (s.set name (first.map (·.1)))

/-- Reads a line into variables; fails where no line ends. -/
def read : Builtin := fun arguments s =>
  let raw := arguments.contains ['-', 'r']
  let names := arguments.filter fun argument => argument.head? != some '-'
  let (line, ended, s) := s.readLine
  (setFields s.separators names (lineGlyphs raw line) s).withTruth ended

/-! ## Directories and processes -/

/-- Prints the working directory. -/
def pwd : Builtin := fun _ s => (s.print (Text.toRaw s.host.cwdPath ++ ['\n'])).withStatus 0

/-- Changes the working directory; the empty name stands for the one there is. -/
def cd : Builtin := fun arguments s =>
  let given := (arguments.head?.or (s.value? "HOME".toList)).getD []
  let target := if given.isEmpty then ['.'] else given
  match s.host.tree.resolve s.host.cwd (Text.ofRaw target) with
  | some place =>
    if s.host.tree.isDirAt place then
      let s := s.set "PWD".toList (Text.toRaw (FileTree.pathOf place))
      { s with host := { s.host with cwd := place }, status := 0 }
    else refuse "cd".toList ("can't cd to ".toList ++ target) 2 s
  | none => refuse "cd".toList ("can't cd to ".toList ++ target) 2 s

/-- Sets what is run at the end of the script; other occasions do not arise. -/
def trap : Builtin := fun arguments s =>
  match arguments with
  | action :: occasions =>
    if occasions.any fun occasion => occasion == "EXIT".toList || occasion == ['0'] then
      { s with atExit := if action == ['-'] then [] else action, status := 0 }
    else s.withStatus 0
  | [] => s.withStatus 0

/-- The signals that end a process, by their names. -/
def signals : List (Text × Nat) :=
  [("HUP", 1), ("INT", 2), ("QUIT", 3), ("ILL", 4), ("TRAP", 5), ("ABRT", 6), ("BUS", 7),
    ("FPE", 8), ("KILL", 9), ("USR1", 10), ("SEGV", 11), ("USR2", 12), ("PIPE", 13), ("ALRM", 14),
    ("TERM", 15)].map fun (name, number) => (name.toList, number)

/-- The signal of a name or a number. -/
def signal? (t : Text) : Option Nat :=
  match Text.number? 10 t with
  | some n => some n
  | none => signals.lookup ((Text.strip? "SIG".toList t).getD t)

/-- Sends a signal to processes; none but the shell's own is there. -/
def kill : Builtin := fun arguments s =>
  let (signal, targets) : Option Nat × List Text :=
    match arguments with
    | ['-', 's'] :: name :: targets => (signal? name, targets)
    | ('-' :: name) :: targets => (signal? name, targets)
    | targets => (some 15, targets)
  match signal with
  | none => refuse "kill".toList "invalid signal".toList 2 s
  | some 0 => s.withTruth (targets.all (· == State.process))
  | some signal =>
    if targets.contains State.process then { s with flow := .killed signal }
    else refuse "kill".toList "No such process".toList 1 s

/-! ## Conditions -/

/-- Decides a condition. -/
def condition (name : Text) (words : List Text) (s : State) : State :=
  match Condition.holds s.host words with
  | .ok truth => s.withTruth truth
  | .error reason => refuse name reason 2 s

/-- Decides a condition between brackets. -/
def bracket : Builtin := fun arguments s =>
  if arguments.getLast? == some [']'] then condition ['['] arguments.dropLast s
  else refuse ['['] "missing ]".toList 2 s

/-- The commands that make the assignments in front of them for good. -/
def lasting : List Text :=
  [":", ".", "break", "continue", "eval", "exit", "export", "readonly", "return", "set", "shift",
    "trap", "unset"].map String.toList

/-- **The command of a name** that the shell runs by itself. -/
def ofName? (name : Text) : Option Builtin :=
  match String.ofList name with
  | ":" => some fun _ s => s.withStatus 0
  | "true" => some fun _ s => s.withStatus 0
  | "false" => some fun _ s => s.withStatus 1
  | "echo" => some echo
  | "printf" => some printf
  | "exit" => some exit
  | "return" => some return_
  | "break" => some break_
  | "continue" => some continue_
  | "shift" => some shift
  | "set" => some setModes
  | "export" => some export_
  | "readonly" => some readonly
  | "local" => some local_
  | "unset" => some unset
  | "read" => some read
  | "pwd" => some pwd
  | "cd" => some cd
  | "kill" => some kill
  | "test" => some (condition name)
  | "[" => some bracket
  | "trap" => some trap
  | "wait" => some fun _ s => s.withStatus 0
  | "umask" => some fun _ s => s.withStatus 0
  | "alias" => some fun _ s => s.withStatus 0
  | _ => none

end Builtin

end Blurb.Shell
