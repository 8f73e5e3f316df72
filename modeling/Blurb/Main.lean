import Blurb.Scripted

/-! # The command line

The outermost layer: it takes a picture of the files below the working directory, runs the program
on it, and prints what the program prints. Changes of files stay in the picture. -/

namespace Blurb.Main

/-- The place of a path. -/
def placeOfPath (path : Path) : Place := (Path.segments path).filter fun segment => !segment.isEmpty

/-- A file as a node: one that names its interpreter may be run. -/
def nodeOf (content : Bytes) : Node := .file content (Shell.interpreter? content).isSome

/-- Reads the environment variables that the program looks at. -/
def readEnvironment : IO Program.Environment := do
  let values ← ["PATH", "CI", "HOME", "NO_COLOR"].mapM fun name => do
    return (← IO.getEnv name).map fun value => (name.toList, value.toList)
  return values.filterMap id

/-- Adds the entries of a directory to a tree, with everything below them down to a depth. Files
that cannot be read are left out. -/
def readEntries : Nat → Place → Array IO.FS.DirEntry → FileTree → IO FileTree
  | 0, _, _, tree => return tree
  | depth + 1, directory, entries, tree =>
    entries.foldlM (fun tree entry => do
      let place := directory ++ [entry.fileName.toList]
      if ← entry.path.isDir then
        readEntries depth place (← entry.path.readDir) (tree.add place .dir)
      else
        try
          return tree.add place (nodeOf (← IO.FS.readBinFile entry.path).toList)
        catch _ => return tree) tree

/-- Takes a picture of the working directory. -/
def readHost : IO Host := do
  let here ← IO.currentDir
  let place := placeOfPath here.toString.toList
  let tree ← readEntries 32 place (← here.readDir) (FileTree.add {} place .dir)
  return { tree := tree, cwd := place, searchPath := [] }

/-- Writes bytes to a stream. -/
def writeBytes (stream : IO.FS.Stream) (bytes : Bytes) : IO Unit := do
  stream.write ⟨bytes.toArray⟩
  stream.flush

end Blurb.Main

open Blurb Blurb.Main in
/-- **The program** with the words of its command line. -/
def main (words : List String) : IO UInt32 := do
  let terminal ← (← IO.getStdout).isTty
  let ending := Program.executeScripted (← readEnvironment) (← readHost)
    (words.map String.toList) terminal
  writeBytes (← IO.getStderr) ending.stderr
  writeBytes (← IO.getStdout) ending.stdout
  return ending.code.toUInt32
