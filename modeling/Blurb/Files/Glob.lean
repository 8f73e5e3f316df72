import Blurb.Files.Tree

/-! # Globs

Patterns for paths and the files they find. `?` stands for one character, `*` for any number of
them within a name, brackets for a character of a set, and `**` as a whole component for any number
of directories. A leading dot needs no literal dot. -/

namespace Blurb

namespace Glob

/-! ## Patterns -/

/-- **A member of a bracket set.** -/
inductive Range where
  /-- One character. -/
  | single (c : Char)
  /-- The characters from one to another. -/
  | between (low high : Char)
deriving Repr, DecidableEq

/-- A range holds a character. -/
def Range.holds (c : Char) : Range → Bool
  | single d => c == d
  | between low high => low ≤ c && c ≤ high

/-- **A part of a pattern.** -/
inductive Part where
  /-- The character itself. -/
  | char (c : Char)
  /-- Any one character. -/
  | anyChar
  /-- Any number of characters. -/
  | sequence
  /-- Any number of directories. -/
  | directories
  /-- A character of a set, or one outside it. -/
  | set (inside : Bool) (ranges : List Range)
deriving Repr, DecidableEq

/-- The ranges between brackets: a hyphen between two characters makes a range of them. -/
def ranges : Text → List Range
  | low :: '-' :: high :: rest => .between low high :: ranges rest
  | c :: rest => .single c :: ranges rest
  | [] => []

/-- What stands between brackets, and what follows them. The first character of the set may itself
be a closing bracket. -/
def bracket? : Text → Option (Text × Text)
  | [] => none
  | first :: rest =>
    (Text.splitFirst? ']' rest).map fun (inner, after) => (first :: inner, after)

/-- The set at the start of what follows an opening bracket. -/
def set? : Text → Option (Part × Text)
  | '!' :: rest => (bracket? rest).map fun (inner, after) => (.set false (ranges inner), after)
  | t => (bracket? t).map fun (inner, after) => (.set true (ranges inner), after)

/-- **The parts of a pattern**, given whether a component starts here. Nothing if three stars stand
together, if two of them are not a whole component, or if a bracket is not closed. -/
def parts? (atStart : Bool) : Text → Option (List Part)
  | [] => some []
  | '?' :: rest => (parts? false rest).map (.anyChar :: ·)
  | '*' :: '*' :: rest =>
    if atStart then
      match rest with
      | [] => some [.directories]
      | '/' :: rest => (parts? true rest).map (.directories :: ·)
      | _ => none
    else none
  | '*' :: rest => (parts? false rest).map (.sequence :: ·)
  | '[' :: rest =>
    match set? rest with
    | none => none
    | some (part, after) =>
      if after.length < rest.length then (parts? false after).map (part :: ·)
      else none   -- unreachable: a set takes a character at least
  | c :: rest => (parts? (c == '/') rest).map (.char c :: ·)
termination_by t => t.length

/-- **A name matches a pattern.** -/
def matchName : List Part → Text → Bool
  | [], [] => true
  | [], _ :: _ => false
  | .sequence :: parts, [] => matchName parts []
  | .sequence :: parts, c :: rest =>
    matchName parts (c :: rest) || matchName (.sequence :: parts) rest
  | .directories :: parts, [] => matchName parts []
  | .directories :: parts, c :: rest =>
    matchName parts (c :: rest) || matchName (.directories :: parts) rest
  | _ :: _, [] => false
  | .char d :: parts, c :: rest => c == d && matchName parts rest
  | .anyChar :: parts, _ :: rest => matchName parts rest
  | .set inside members :: parts, c :: rest =>
    (members.any (Range.holds c) == inside) && matchName parts rest
termination_by parts t => (parts.length, t.length)

/-- The name that a pattern without wildcards writes. -/
def literal? (parts : List Part) : Option Text :=
  parts.mapM fun
    | .char c => some c
    | _ => none

end Glob

/-- **A glob**: the path it starts from, and a pattern for each further component. -/
structure Glob where
  /-- Where the search starts. -/
  start : Path
  /-- The patterns of the components. -/
  patterns : List (List Glob.Part)
  /-- Only directories are wanted. -/
  onlyDirectories : Bool
deriving Repr, DecidableEq

namespace Glob

/-- The pieces between separators; a separator at the end opens no further piece. -/
def pieces (t : Text) : List Text :=
  let all := Text.splitOn '/' t
  if all.getLast? == some [] then all.dropLast else all

/-- **The glob of a text**, nothing if it is no valid pattern. The start is as long as what the text
has in excess of its components joined by single separators. -/
def ofText? (t : Text) : Option Glob := do
  -- the text must be valid as a whole, also where it is cut below
  let _ ← parts? true t
  let tail := (Path.components t).filter (· != .root)
  let normal := Text.join ['/'] (tail.map Component.text)
  let (start, rest) ← Text.splitAtByte? (Text.utf8Size t - Text.utf8Size normal) t
  let patterns ← (pieces rest).mapM (parts? true)
  some {
    start := if start.isEmpty then ['.'] else start
    patterns := if rest.isEmpty then patterns ++ [[]] else patterns
    onlyDirectories := t.getLast? == some '/' }

/-! ## Searching -/

/-- A path that a search has come to: it is found, or its name is still to be matched against the
first of the patterns. -/
inductive Stop where
  /-- The path has matched all patterns. -/
  | found (path : Path)
  /-- The path's name is to be matched. -/
  | pending (path : Path) (patterns : List (List Part))

/-- The path of a name in the directory where a search stands; the working directory is not
written. -/
def step (path : Path) (name : Text) : Path :=
  if Path.same path ['.'] then name else Path.join path name

/-- The names in a directory in ascending order. -/
def names (host : Host) (path : Path) : List Text :=
  match host.tree.resolve host.cwd path with
  | some place =>
    (host.tree.children place).mergeSort fun a b => (List.compareLex Ord.compare a b).isLE
  | none => []

/-- **The next stops of a search** that stands at a path with patterns to go. A pattern without
wildcards is looked up; else every name in the directory is a stop, and a pattern that starts with a
dot may match the directory itself and its parent. -/
def stops (host : Host) (path : Path) : List (List Part) → List Stop
  | [] => []
  | parts :: rest =>
    let go (next : Path) : List Stop :=
      if rest.isEmpty then [.found next] else stops host next rest
    match literal? parts with
    | some name =>
      let next := step path name
      -- `.` and `..` are there wherever there is a directory
      let special := name == ['.'] || name == ['.', '.']
      if special then (if host.isDir path then go next else [])
      else if host.holds next then go next else []
    | none =>
      if host.isDir path then
        let special :=
          if parts.head? == some (.char '.') then
            ([['.', '.'], ['.']].filter (matchName parts)).flatMap fun name =>
              go (Path.join path name)
          else []
        special ++ (names host path).map fun name => .pending (step path name) (parts :: rest)
      else []

/-- The pattern stands for any number of directories. -/
def isRecursive (parts : List Part) : Bool := parts.contains .directories

/-- **Following a search to its end**: the paths that match, in ascending order of the names met on
the way. The first argument bounds the number of names on a path. -/
def follow (host : Host) : Nat → Stop → List Path
  | 0, _ => []
  | _ + 1, .found path => [path]
  | fuel + 1, .pending path patterns =>
    let matchFirst (patterns : List (List Part)) : List Path :=
      match patterns with
      | [] => []
      | parts :: rest =>
        match Path.fileName? path with
        | some name =>
          if matchName parts name then
            if rest.isEmpty then [path] else (stops host path rest).flatMap (follow host fuel)
          else []
        | none => []
    match patterns with
    | [] => []
    | parts :: rest =>
      if isRecursive parts then
        -- several of them in a row stand for the same directories as one
        let rest := rest.dropWhile isRecursive
        let below :=
          if host.isDir path then (stops host path (parts :: rest)).flatMap (follow host fuel)
          else []
        if rest.isEmpty then (if host.isDir path then path :: below else [])
        else matchFirst rest ++ below
      else matchFirst (parts :: rest)

/-- **The files that a glob finds.** -/
def files (host : Host) (glob : Glob) : List Path :=
  let bound := glob.patterns.length + host.tree.nodes.length + 2
  let found := (stops host glob.start glob.patterns).flatMap (follow host bound)
  found.filter fun path => host.isFile path && !glob.onlyDirectories

end Glob

end Blurb
