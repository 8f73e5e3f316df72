import Blurb.Files.Path
import Blurb.Text.Utf8

/-! # File trees

A file system without links, as a flat list of what exists: directories and files, each under the
list of names that lead to it from the root. Looking a path up walks it segment by segment from the
working directory. -/

namespace Blurb

/-- **What exists at a place** of a file tree. -/
inductive Node where
  /-- A directory. -/
  | dir
  /-- A file with its content. -/
  | file (content : Bytes) (executable : Bool)
deriving Repr, DecidableEq

namespace Node

/-- The node is a directory. -/
def isDir : Node → Bool
  | dir => true
  | file .. => false

/-- The node is a file. -/
def isFile : Node → Bool
  | dir => false
  | file .. => true

/-- The node is a file that may be run. -/
def isExecutable : Node → Bool
  | dir => false
  | file _ executable => executable

end Node

/-- **A place**: the names that lead to it from the root. -/
abbrev Place := List Text

/-- **A file tree.** The root is always there. -/
structure FileTree where
  /-- The nodes below the root; of several at one place the first counts. -/
  nodes : List (Place × Node) := []
deriving Repr, DecidableEq

namespace FileTree

/-- The node at a place. -/
def at? (tree : FileTree) (place : Place) : Option Node :=
  if place.isEmpty then some .dir else tree.nodes.lookup place

/-- There is a directory at a place. -/
def isDirAt (tree : FileTree) (place : Place) : Bool :=
  match tree.at? place with
  | some node => node.isDir
  | none => false

/-- **Walking segments** from a place. Any further segment needs a directory; `..` leads one place
up, empty segments and `.` lead nowhere else, and a name must exist. -/
def walk (tree : FileTree) : Place → List Text → Option Place
  | place, [] => some place
  | place, segment :: segments =>
    if tree.isDirAt place then
      if segment.isEmpty || segment == ['.'] then walk tree place segments
      else if segment == ['.', '.'] then walk tree place.dropLast segments
      else
        let next := place ++ [segment]
        if (tree.at? next).isSome then walk tree next segments else none
    else none

/-- **Resolving a path** from a working directory to the place it denotes, if something exists
there. The empty path denotes nothing. -/
def resolve (tree : FileTree) (cwd : Place) (path : Path) : Option Place :=
  if path.isEmpty then none
  else if Path.isAbsolute path then tree.walk [] path.segments
  else tree.walk cwd path.segments

/-- What a path denotes. -/
def node? (tree : FileTree) (cwd : Place) (path : Path) : Option Node :=
  (tree.resolve cwd path).bind tree.at?

/-- Something exists at a path. -/
def holds (tree : FileTree) (cwd : Place) (path : Path) : Bool := (tree.node? cwd path).isSome

/-- A path denotes a file. -/
def isFile (tree : FileTree) (cwd : Place) (path : Path) : Bool :=
  (tree.node? cwd path).any Node.isFile

/-- A path denotes a directory. -/
def isDir (tree : FileTree) (cwd : Place) (path : Path) : Bool :=
  (tree.node? cwd path).any Node.isDir

/-- A path denotes a file that may be run. -/
def isExecutable (tree : FileTree) (cwd : Place) (path : Path) : Bool :=
  (tree.node? cwd path).any Node.isExecutable

/-- The absolute path of a place. -/
def pathOf (place : Place) : Path :=
  if place.isEmpty then ['/'] else place.flatMap fun name => '/' :: name

/-- **The canonical path** of what a path denotes. -/
def canonicalize? (tree : FileTree) (cwd : Place) (path : Path) : Option Path :=
  (tree.resolve cwd path).map pathOf

/-- The content of the file that a path denotes. -/
def read? (tree : FileTree) (cwd : Place) (path : Path) : Option Bytes :=
  match tree.node? cwd path with
  | some (.file content _) => some content
  | _ => none

/-- The content of a file as text, if it is UTF-8. -/
def readText? (tree : FileTree) (cwd : Place) (path : Path) : Option Text :=
  (tree.read? cwd path).bind Text.ofUtf8?

/-- The name under which a place lies directly in a directory. -/
def childName? (directory place : Place) : Option Text :=
  match directory, place with
  | [], [name] => some name
  | d :: directory, p :: place => if d = p then childName? directory place else none
  | _, _ => none

/-- The names in a directory, in no particular order. -/
def children (tree : FileTree) (directory : Place) : List Text :=
  (tree.nodes.filterMap fun (place, _) => childName? directory place).eraseDups

/-- **Removing a directory** with everything below it. -/
def removeAll (tree : FileTree) (place : Place) : FileTree :=
  ⟨tree.nodes.filter fun (other, _) => !place.isPrefixOf other⟩

/-- Adds the directories that lead to a place, as far as they are missing. -/
def addParents (tree : FileTree) (place : Place) : FileTree :=
  (List.range place.length).foldl (fun tree n =>
    let above := place.take n
    if (tree.at? above).isSome then tree else ⟨tree.nodes ++ [(above, .dir)]⟩) tree

/-- **Adding a node** at a place, together with the directories that lead there. What stood there
gives way, unless a directory is added where there is one. -/
def add (tree : FileTree) (place : Place) (node : Node) : FileTree :=
  let tree := tree.addParents place
  -- a directory keeps what is in it
  if node.isDir && (tree.at? place).isSome then tree
  else ⟨tree.nodes.filter (fun (other, _) => other != place) ++ [(place, node)]⟩

end FileTree

/-- **A console**: what programs have written to the two standard streams. -/
structure Console where
  /-- The standard output. -/
  stdout : Bytes := []
  /-- The standard error output. -/
  stderr : Bytes := []
deriving Repr, DecidableEq

/-- **A host**: a file tree seen from a working directory, with the directories in which programs
are looked for, and the console that programs write to unless their output is captured. -/
structure Host where
  /-- The files. -/
  tree : FileTree
  /-- The working directory. -/
  cwd : Place
  /-- The search path for programs. -/
  searchPath : List Path
  /-- The console. -/
  console : Console := {}
deriving Repr, DecidableEq

namespace Host

/-- The working directory as a path. -/
def cwdPath (host : Host) : Path := FileTree.pathOf host.cwd

/-- Something exists at a path. -/
def holds (host : Host) (path : Path) : Bool := host.tree.holds host.cwd path

/-- A path denotes a file. -/
def isFile (host : Host) (path : Path) : Bool := host.tree.isFile host.cwd path

/-- A path denotes a directory. -/
def isDir (host : Host) (path : Path) : Bool := host.tree.isDir host.cwd path

/-- A path denotes a file that may be run. -/
def isExecutable (host : Host) (path : Path) : Bool := host.tree.isExecutable host.cwd path

/-- The canonical path of what a path denotes. -/
def canonicalize? (host : Host) (path : Path) : Option Path :=
  host.tree.canonicalize? host.cwd path

end Host

end Blurb
