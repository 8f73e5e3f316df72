import Blurb.Files.Tree

/-! # Looking programs up

Where a program is that is named by a path or by a bare name. -/

namespace Blurb.Host

/-- The path of a program that is named by several components, seen from the working directory. -/
def absolutePath (host : Host) (path : Path) : Path :=
  if Path.isAbsolute path then path
  else
    (path.components.dropWhile (· == .current)).foldl
      (fun left component => Path.join left component.text) host.cwdPath

/-- **Looking a program up**: a path of several components is taken from the working directory, a
bare name is searched in the search path, and only files that may be run count. -/
def which? (host : Host) (name : Path) : Option Path :=
  let candidates :=
    if 1 < name.components.length then [host.absolutePath name]
    else if name.isEmpty then []
    else host.searchPath.map fun directory => Path.join directory name
  candidates.find? host.isExecutable

end Blurb.Host
