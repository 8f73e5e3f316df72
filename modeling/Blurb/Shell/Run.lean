import Blurb.Shell.Builtin
import Blurb.Shell.Field

/-! # Running commands

What commands do to the state of a shell. The functions that expand words and run commands call each
other; the number that they all take first bounds how deep they do. -/

namespace Blurb.Shell

/-- Expanded text is quoted or not. -/
def originOf (quoted : Bool) : Origin := if quoted then .quoted else .expanded

/-- The script ends with a complaint. -/
def State.abort (s : State) (reason : Text) : State := (s.complain reason).leave 2

/-- The state of a script that takes more steps than it may. -/
def State.exhaust (s : State) : State := { s with flow := .exhausted }

/-! ## Parameters -/

/-- **The glyphs of a parameter's value.** The list of all parameters stands in fields of its
own. -/
def valueGlyphs (name : Text) (quoted : Bool) (s : State) : Glyphs :=
  if name == ['@'] || (name == ['*'] && !quoted) then
    Glyphs.ofTexts (originOf quoted) s.parameters
  else Glyphs.ofText (originOf quoted) ((s.parameter? name).getD [])

/-- The word that stands behind the operator of a parameter. -/
def operandWord? (quoted : Bool) (source : Text) : Option Word :=
  (if quoted then double? false (source.length + 1) source
    else parts? true (source.length + 1) source).map (·.1)

/-- A glyph that is written in an operand counts as expanded. -/
def asExpanded : Glyph → Glyph
  | .char c .written => .char c .expanded
  | glyph => glyph

/-- The value without the shortest or longest start, or end, that matches a pattern. -/
def trimValue (fromEnd longest : Bool) (pattern : List Glob.Part) (value : Text) : Text :=
  let sizes := List.range (value.length + 1)
  let sizes := if longest then sizes.reverse else sizes
  if fromEnd then
    match sizes.find? fun n => Glob.matchName pattern (value.drop (value.length - n)) with
    | some n => value.take (value.length - n)
    | none => value
  else
    match sizes.find? fun n => Glob.matchName pattern (value.take n) with
    | some n => value.drop n
    | none => value

/-! ## Programs -/

/-- **Looking a program up** as a shell does, or the status and the reason why it cannot run. -/
def locate (s : State) (name : Text) : Except (Nat × Text) (Text × Bytes) :=
  let missing : Except (Nat × Text) (Text × Bytes) :=
    .error (127, name ++ ": not found".toList)
  let load (path : Text) : Except (Nat × Text) (Text × Bytes) :=
    match s.host.tree.node? s.host.cwd (Text.ofRaw path) with
    | none => missing
    | some (.file content true) => .ok (path, content)
    | some _ => .error (126, name ++ ": Permission denied".toList)
  if name.contains '/' then load name
  else
    let candidates :=
      (Text.splitOn ':' ((s.value? "PATH".toList).getD [])).map fun directory =>
        Path.join directory name
    match candidates.find? fun path => s.host.isExecutable (Text.ofRaw path) with
    | some path => load path
    | none => missing

/-- The modes that the first line of a script asks for. -/
def firstLineModes (script : Text) : Text :=
  match Text.strip? ['#', '!'] (script.takeWhile (· != '\n')) with
  | some line =>
    let words := (Text.splitOn ' ' line).filter fun word => !word.isEmpty
    (words.drop 1).flatMap fun word => if word.head? == some '-' then word.drop 1 else []
  | none => []

/-- **The state in which a program starts** that another shell calls. -/
def State.forProgram (s : State) (path : Text) (arguments : List Text) (script : Text) : State :=
  let start : State := {
    host := s.host
    name := path
    parameters := arguments
    bindings := s.environment.map fun (name, value) => (name, ⟨some value, true⟩)
    streams := s.streams
    channels := s.channels }
  (firstLineModes script).foldl (Builtin.setMode true) start

/-- Going on behind a program: one that a signal has ended gives a status of its own. -/
def State.afterProgram (s program : State) : State :=
  let after := s.rejoin program
  match program.flow with
  | .killed signal => { after with flow := .onward, status := 128 + signal }
  | _ => after

/-- A command that fails ends the script, where that is wanted and nobody asks for its status. -/
def settle (guarded : Bool) (s : State) : State :=
  if s.stopOnError && !guarded && s.isOnward && !s.succeeded then s.leave s.status else s

/-- The local variables of the innermost function are as they were before. -/
def State.restoreFrame (s : State) : State :=
  match s.frames with
  | frame :: _ => frame.foldl (fun s (name, old) => s.putBinding name old) s
  | [] => s

/-! ## Commands -/

mutual

/-- The glyphs of a part of a word. -/
def expandPart : Nat → Part → State → Glyphs × State
  | 0, _, s => ([], s.exhaust)
  | fuel + 1, part, s =>
    match part with
    | .char c quoted => ([.char c (if quoted then .quoted else .written)], s)
    | .nothing => ([.presence], s)
    | .length name quoted =>
      (Glyphs.ofText (originOf quoted) (Text.ofNat ((s.parameter? name).getD []).length), s)
    | .param name modifier quoted => expandParameter fuel name modifier quoted s
    | .command source quoted =>
      let (output, s) := substitute fuel source s
      (Glyphs.ofText (originOf quoted) output, s)
    | .arith source quoted =>
      match double? false (source.length + 1) source with
      | none => ([], s.abort "arithmetic expression: malformed".toList)
      | some (word, _) =>
        let (glyphs, s) := expandWord fuel word s
        match Arithmetic.value? s.value? glyphs.text with
        | some n =>
          let numeral := if n < 0 then '-' :: Text.ofNat n.natAbs else Text.ofNat n.natAbs
          (Glyphs.ofText (originOf quoted) numeral, s)
        | none => ([], s.abort "arithmetic expression: malformed".toList)

/-- **The glyphs of a word.** -/
def expandWord : Nat → Word → State → Glyphs × State
  | 0, _, s => ([], s.exhaust)
  | fuel + 1, word, s =>
    word.foldl (fun (glyphs, s) part =>
      let (more, s) := expandPart fuel part s
      (glyphs ++ more, s)) ([], s)

/-- **The glyphs of a parameter** with what stands behind its name in braces. -/
def expandParameter : Nat → Text → Text → Bool → State → Glyphs × State
  | 0, _, _, _, s => ([], s.exhaust)
  | fuel + 1, name, modifier, quoted, s =>
    let value := s.parameter? name
    let plain : Glyphs × State := (valueGlyphs name quoted s, s)
    let fail (reason : String) : Glyphs × State :=
      ([], s.abort (name ++ ": ".toList ++ reason.toList))
    let operand (source : Text) : Glyphs × State :=
      match operandWord? quoted source with
      | some word =>
        let (glyphs, s) := expandWord fuel word s
        (glyphs.map asExpanded, s)
      | none => ([], s.abort "Bad substitution".toList)
    let trim (fromEnd longest : Bool) (source : Text) : Glyphs × State :=
      match parts? true (source.length + 1) source with
      | some (word, _) =>
        let (glyphs, s) := expandWord fuel word s
        let rest := trimValue fromEnd longest glyphs.pattern (value.getD [])
        (Glyphs.ofText (originOf quoted) rest, s)
      | none => ([], s.abort "Bad substitution".toList)
    let strict := modifier.head? == some ':'
    let missing := value.isNone || (strict && value == some [])
    match if strict then modifier.drop 1 else modifier with
    | [] =>
      if s.stopOnUnset && value.isNone && name != ['@'] && name != ['*'] then
        fail "parameter not set"
      else plain
    | '-' :: source => if missing then operand source else plain
    | '+' :: source => if missing then ([], s) else operand source
    | '=' :: source =>
      if missing then
        let (glyphs, s) := operand source
        (glyphs, s.set name glyphs.text)
      else plain
    | '?' :: source =>
      if missing then
        let (glyphs, s) := operand source
        ([], s.abort (name ++ ": ".toList ++
          if source.isEmpty then "parameter not set".toList else glyphs.text))
      else plain
    | '%' :: '%' :: source => trim true true source
    | '%' :: source => trim true false source
    | '#' :: '#' :: source => trim false true source
    | '#' :: source => trim false false source
    | _ => ([], s.abort "Bad substitution".toList)

/-- **The fields of words**: expanded, split, and with the paths that wildcards match. -/
def expandFields : Nat → List Word → State → List Text × State
  | 0, _, s => ([], s.exhaust)
  | fuel + 1, words, s =>
    words.foldl (fun (fields, s) word =>
      let (glyphs, s) := expandWord fuel word s
      (fields ++ (glyphs.fields s.separators).flatMap (Glyphs.paths s.host), s)) ([], s)

/-- **The output of a command** without the line breaks at its end. -/
def substitute : Nat → Text → State → Text × State
  | 0, _, s => ([], s.exhaust)
  | fuel + 1, source, s =>
    let (n, opened) := s.openStream []
    let after := opened.rejoin (runTokens fuel (tokens source) (opened.connect 1 (.stream n)))
    -- the character that ends texts cannot be part of one
    let written := (after.streams.getD n []).filter (· != '\x00')
    let output := (written.reverse.dropWhile (· == '\n')).reverse
    (output, { after with substituted := some after.status, status := s.status })

/-- Following redirections, up to the first that is impossible. -/
def followRedirects : Nat → List Redirect → State → Option Text × State
  | 0, _, s => (none, s.exhaust)
  | fuel + 1, redirects, s =>
    redirects.foldl (fun (refusal, s) redirect =>
      match refusal with
      | some reason => (some reason, s)
      | none =>
        let (glyphs, s) := expandWord fuel redirect.target s
        match s.redirect redirect.descriptor redirect.direction glyphs.text with
        | .ok s => (none, s)
        | .error reason => (some reason, s)) (none, s)

/-- Making assignments. -/
def makeAssignments : Nat → List (Text × Word) → State → State
  | 0, _, s => s.exhaust
  | fuel + 1, assignments, s =>
    assignments.foldl (fun s (name, word) =>
      let (glyphs, s) := expandWord fuel word s
      s.set name glyphs.text) s

/-- **Running a simple command**: its words are expanded, its redirections and assignments are made
for as long as it runs, or for good if it has no words. -/
def runSimple : Nat → Bool → Simple → State → State
  | 0, _, _, s => s.exhaust
  | fuel + 1, guarded, command, s =>
    let (words, s) := expandFields fuel command.words
      { s with line := command.line, substituted := none }
    -- an expansion may have ended the script
    if !s.isOnward then s
    else
      let restore (after : State) : State := { after with channels := s.channels }
      match followRedirects fuel command.redirects s with
      | (some reason, redirected) => restore ((redirected.complain reason).withStatus 2)
      | (none, redirected) =>
        match words with
        | [] =>
          let after := makeAssignments fuel command.assignments redirected
          restore (if after.isOnward then after.withStatus (after.substituted.getD 0) else after)
        | name :: arguments =>
          let assigned := makeAssignments fuel command.assignments redirected
          if !assigned.isOnward then restore assigned
          -- redirections of `exec` stay
          else if name == "exec".toList then
            if arguments.isEmpty then assigned.withStatus 0
            else
              let after := runNamed fuel guarded arguments assigned
              if after.isOnward then after.leave after.status else after
          else
            let names :=
              if Builtin.lasting.contains name then [] else command.assignments.map (·.1)
            let visible := names.foldl State.exportName assigned
            let after := runNamed fuel guarded (name :: arguments) visible
            restore (names.foldl (fun after n => after.putBinding n (s.binding? n)) after)

/-- **Running what a name stands for**: a function, a command of the shell itself, or a program. -/
def runNamed : Nat → Bool → List Text → State → State
  | 0, _, _, s => s.exhaust
  | _ + 1, _, [], s => s
  | fuel + 1, guarded, name :: arguments, s =>
    match s.functions.lookup name with
    | some body =>
      let inside := { s with parameters := arguments, frames := [] :: s.frames }
      let after := run fuel guarded body inside
      { after.restoreFrame with
        parameters := s.parameters
        frames := s.frames
        flow := if after.flow = .returning then .onward else after.flow }
    | none =>
      match Builtin.ofName? name with
      | some builtin => builtin arguments s
      | none =>
        match String.ofList name with
        | "eval" => runTokens fuel (tokens (Text.join [' '] arguments)) (s.withStatus 0)
        | "command" => runCommand fuel guarded arguments s
        | "." =>
          match arguments.head?.bind (State.readFile? s.host) with
          | some script =>
            let after := runTokens fuel (tokens script) (s.withStatus 0)
            { after with flow := if after.flow = .returning then .onward else after.flow }
          | none =>
            s.abort (".: cannot open ".toList ++ arguments.headD [] ++ ": No such file".toList)
        | _ => runProgram fuel (name :: arguments) s

/-- Running a command, or telling what its name stands for. -/
def runCommand : Nat → Bool → List Text → State → State
  | 0, _, _, s => s.exhaust
  | fuel + 1, guarded, arguments, s =>
    match arguments with
    | ['-', 'v'] :: name :: _ =>
      if (s.functions.lookup name).isSome || (Builtin.ofName? name).isSome then
        (s.print (name ++ ['\n'])).withStatus 0
      else match locate s name with
        | .ok (path, _) => (s.print (path ++ ['\n'])).withStatus 0
        | .error _ => s.withStatus 127
    | arguments =>
      { runNamed fuel guarded arguments { s with functions := [] } with functions := s.functions }

/-- **Running a program**, which is a script. -/
def runProgram : Nat → List Text → State → State
  | 0, _, s => s.exhaust
  | _ + 1, [], s => s
  | fuel + 1, name :: arguments, s =>
    match locate s name with
    | .error (status, reason) => (s.complain reason).withStatus status
    | .ok (path, content) =>
      let script := Text.ofBytes content
      s.afterProgram (runTokens fuel (tokens script) (s.forProgram path arguments script))

/-- **Running a command.** A guarded command is one whose status is asked for. -/
def run : Nat → Bool → Command → State → State
  | 0, _, _, s => s.exhaust
  | fuel + 1, guarded, command, s =>
    match command with
    | .skip => s.withStatus 0
    | .simple simple => settle guarded (runSimple fuel guarded simple s)
    | .pipe left right =>
      let (n, opened) := s.openStream []
      let middle := opened.rejoin (run fuel guarded left (opened.connect 1 (.stream n)))
      settle guarded (s.rejoin (run fuel guarded right (middle.connect 0 (.stream n))))
    | .not command =>
      let after := run fuel true command s
      if after.isOnward then after.withTruth (!after.succeeded) else after
    | .and left right =>
      let after := run fuel true left s
      if after.isOnward && after.succeeded then run fuel guarded right after else after
    | .or left right =>
      let after := run fuel true left s
      if after.isOnward && !after.succeeded then run fuel guarded right after else after
    | .seq left right =>
      let after := run fuel guarded left s
      if after.isOnward then run fuel guarded right after else after
    | .background command => (s.rejoin (run fuel true command s)).withStatus 0
    | .choice condition body otherwise =>
      let after := run fuel true condition s
      if !after.isOnward then after
      else if after.succeeded then run fuel guarded body after
      else run fuel guarded otherwise after
    | .loop untilTrue condition body =>
      let inside := { s with loops := s.loops + 1 }
      { runLoop fuel guarded untilTrue condition body 0 inside with loops := s.loops }
    | .each name words body =>
      let (values, after) :=
        match words with
        | some words => expandFields fuel words s
        | none => (s.parameters, s)
      if after.isOnward then
        let inside := { after with status := 0, loops := s.loops + 1 }
        { runEach fuel guarded name values body inside with loops := s.loops }
      else after
    | .select word arms =>
      let (glyphs, after) := expandWord fuel word s
      if after.isOnward then runArms fuel guarded glyphs.text arms after else after
    | .redirected body redirects =>
      match followRedirects fuel redirects s with
      | (some reason, redirected) =>
        { (redirected.complain reason).withStatus 2 with channels := s.channels }
      | (none, redirected) => { run fuel guarded body redirected with channels := s.channels }
    | .subshell body => settle guarded (s.rejoin (run fuel guarded body s))
    | .define name body => { s with functions := (name, body) :: s.functions, status := 0 }

/-- Running a loop that has a condition; `status` is that of the last round. -/
def runLoop : Nat → Bool → Bool → Command → Command → Nat → State → State
  | 0, _, _, _, _, _, s => s.exhaust
  | fuel + 1, guarded, untilTrue, condition, body, status, s =>
    let asked := run fuel true condition s
    if !asked.isOnward then asked.afterRound.1
    else if asked.succeeded == untilTrue then asked.withStatus status
    else
      let (after, isOver) := (run fuel guarded body asked).afterRound
      if isOver then after else runLoop fuel guarded untilTrue condition body after.status after

/-- Running a loop over values. -/
def runEach : Nat → Bool → Text → List Text → Command → State → State
  | 0, _, _, _, _, s => s.exhaust
  | _ + 1, _, _, [], _, s => s
  | fuel + 1, guarded, name, value :: values, body, s =>
    let (after, isOver) := (run fuel guarded body (s.set name value)).afterRound
    if isOver then after else runEach fuel guarded name values body after

/-- Running the first arm of a choice that a text matches. -/
def runArms : Nat → Bool → Text → List (List Word × Command) → State → State
  | 0, _, _, _, s => s.exhaust
  | _ + 1, _, _, [], s => s.withStatus 0
  | fuel + 1, guarded, text, (patterns, body) :: arms, s =>
    let (isMatch, after) := patterns.foldl (fun (found, s) word =>
      if found then (true, s)
      else
        let (glyphs, s) := expandWord fuel word s
        (Glob.matchName glyphs.pattern text, s)) (false, s)
    if !after.isOnward then after
    else if isMatch then run fuel guarded body after
    else runArms fuel guarded text arms after

/-- **Running the lines of a script** one after another. A malformed line ends it, after the lines
before it have run. -/
def runTokens : Nat → List Token → State → State
  | 0, _, s => s.exhaust
  | fuel + 1, tokens, s =>
    match readLine tokens with
    | none => s
    | some (.error complaint) =>
      (s.complainAt complaint.line ("Syntax error: ".toList ++ complaint.text)).leave 2
    | some (.ok (command, rest)) =>
      let after := run fuel false command s
      if after.isOnward then runTokens fuel rest after else after

end

/-- **Running a script** from its first line to its end, and then what it has set for its end. -/
def runToEnd (fuel : Nat) (script : Text) (s : State) : State :=
  let final := runTokens fuel (tokens script) s
  match final.flow with
  | .killed _ => final
  | .exhausted => final
  | _ =>
    let last := runTokens fuel (tokens final.atExit) { final with flow := .onward, atExit := [] }
    if last.flow = .leaving then last else last.withStatus final.status

end Blurb.Shell
