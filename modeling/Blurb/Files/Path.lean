import Blurb.Text.Basic

/-! # Paths

A path is kept as the text it is written with, and compared by its components: empty segments and
inner `.` segments do not count. Everything here is lexical and asks no file system. -/

namespace Blurb

/-- **A path**, as it is written. -/
abbrev Path := Text

/-- **A component of a path.** -/
inductive Component where
  /-- The root that an absolute path starts with. -/
  | root
  /-- A `.` that a relative path starts with. -/
  | current
  /-- The parent directory, `..`. -/
  | parent
  /-- A name. -/
  | name (text : Text)
deriving Repr, DecidableEq

namespace Component

/-- The place of a component's class in the order of components. -/
def rank : Component → Nat
  | root => 0
  | current => 1
  | parent => 2
  | name _ => 3

/-- How a component is written. -/
def text : Component → Text
  | root => ['/']
  | current => ['.']
  | parent => ['.', '.']
  | name text => text

/-- **The order of components**: by class, then names by their characters. -/
def compare (a b : Component) : Ordering :=
  (Ord.compare a.rank b.rank).then (List.compareLex Ord.compare a.text b.text)

/-- The component that a segment writes, unless the segment does not count. -/
def ofSegment? (segment : Text) : Option Component :=
  if segment.isEmpty || segment == ['.'] then none
  else if segment == ['.', '.'] then some parent
  else some (name segment)

end Component

namespace Path

/-- The path starts at the root. -/
def isAbsolute (path : Path) : Bool := path.head? == some '/'

/-- The parts of a path between its separators, empty ones included. -/
def segments (path : Path) : List Text := Text.splitOn '/' path

/-- **The components of a path.** -/
def components (path : Path) : List Component :=
  let start :=
    if isAbsolute path then [Component.root]
    else if path.segments.head? == some ['.'] then [Component.current]
    else []
  start ++ path.segments.filterMap Component.ofSegment?

/-- **The order of paths**: component by component. -/
def compare (a b : Path) : Ordering :=
  List.compareLex Component.compare a.components b.components

/-- Two paths are the same component by component. -/
def same (a b : Path) : Bool := a.components == b.components

/-- **Joining**: an absolute right side replaces the left; else a separator stands between the two
unless the left side is empty or ends with one. -/
def join (left right : Path) : Path :=
  if isAbsolute right then right
  else if left.isEmpty || left.getLast? == some '/' then left ++ right
  else left ++ '/' :: right

/-- A segment of a path counts as a component, given whether the path starts with it. -/
def counts (isFirst : Bool) (segment : Text) : Bool :=
  !segment.isEmpty && (isFirst || segment != ['.'])

/-- **The parent of a path**: what is written before its last component. The root and the empty path
have none. -/
def parent? (path : Path) : Option Path :=
  let marked :=
    match path.segments with
    | [] => []
    | first :: rest => (first, counts true first) :: rest.map fun s => (s, counts false s)
  -- the last component goes, and with it the separators before it
  match marked.reverse.dropWhile (fun part => !part.2) with
  | [] => none
  | _ :: before =>
    match (before.dropWhile (fun part => !part.2)).reverse with
    | [] => some (if isAbsolute path then ['/'] else [])
    | kept => some (Text.join ['/'] (kept.map (·.1)))

/-- The name of the file that a path ends with. -/
def fileName? (path : Path) : Option Text :=
  match path.components.getLast? with
  | some (.name text) => some text
  | _ => none

/-- **The extension of a path**: what follows the last dot of its file name, unless the name starts
with that dot. -/
def extension? (path : Path) : Option Text := do
  let name ← fileName? path
  let (before, after) ← Text.splitLast? '.' name
  if before.isEmpty then none else some after

/-- **The way from a directory to a path**, the components of both walked side by side. What they
begin with alike is passed by; then a `..` leaves each further component of the directory, and the
rest of the path follows. At a `.` of the directory the way goes on along the path, and a `..` of
the directory that the path does not share cannot be left. `passing` says that all components so far
are shared. -/
def way? (passing : Bool) : List Component → List Component → Option (List Component)
  | [], path => some path
  | b :: base, [] => some ((b :: base).map fun _ => .parent)
  | b :: base, c :: path =>
    if passing && c == b then way? true base path
    else if b == .current then (way? false base path).map fun way => c :: way
    else if b == .parent then none
    else some ((b :: base).map (fun _ => .parent) ++ c :: path)

/-- The path that components are written as, if the root is not among them. -/
def ofComponents (components : List Component) : Path :=
  Text.join ['/'] (components.map Component.text)

/-- **The path that leads from the directory `base` to `path`.** From a relative directory an
absolute path is itself the way; from an absolute directory none leads to a relative path. -/
def relative? (base path : Path) : Option Path :=
  if isAbsolute path == isAbsolute base then
    (way? true base.components path.components).map ofComponents
  else if isAbsolute path then some path
  else none

/-- **The path shown to a reader in the directory `cwd`**: the one that leads there from `cwd`,
unless there is none or it leaves `cwd` at once; else the path as it is written. -/
def display (cwd path : Path) : Path :=
  ((relative? cwd path).filter fun shown => shown.components.head? != some .parent).getD path

end Path

end Blurb
