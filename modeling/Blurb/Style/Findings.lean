import Blurb.Files.Tree
import Blurb.Style.Offense

/-! # Findings

The offenses of a run, grouped by file. Files are in the order of their paths and told apart by
their components; a file without offenses has no entry. -/

namespace Blurb

/-- The offenses of one file. -/
abbrev FileOffenses := Path × List Offense

/-- **The offenses of a run by file.** -/
structure Findings where
  /-- The files with offenses, in the order of their paths. -/
  files : List FileOffenses
deriving Repr, DecidableEq

namespace Findings

/-- Adds offenses to the file of a path, which keeps the spelling it was first given. -/
def insertInto (path : Path) (offenses : List Offense) : List FileOffenses → List FileOffenses
  | [] => [(path, offenses)]
  | (other, stored) :: rest =>
    match Path.compare path other with
    | .lt => (path, offenses) :: (other, stored) :: rest
    | .eq => (other, stored ++ offenses) :: rest
    | .gt => (other, stored) :: insertInto path offenses rest

/-- No findings. -/
def empty : Findings := ⟨[]⟩

/-- **Adding the offenses of a file**; an empty list changes nothing. -/
def insert (findings : Findings) (path : Path) (offenses : List Offense) : Findings :=
  if offenses.isEmpty then findings else ⟨insertInto path offenses findings.files⟩

/-- **Findings after findings**: the offenses of a file in both are put one after the other. -/
def merge (findings other : Findings) : Findings :=
  other.files.foldl (fun all (path, offenses) => all.insert path offenses) findings

/-- The offenses of a path, if it has an entry. -/
def get? (findings : Findings) (path : Path) : Option (List Offense) :=
  (findings.files.find? fun file => Path.same path file.1).map (·.2)

/-- A path has an entry. -/
def contains (findings : Findings) (path : Path) : Bool := (findings.get? path).isSome

/-- **The offenses of a file**: those of its path, else those of its canonical path. -/
def lookup (findings : Findings) (canonicalize? : Path → Option Path) (path : Path) :
    List Offense :=
  match findings.get? path with
  | some offenses => offenses
  | none => ((canonicalize? path).bind findings.get?).getD []

/-- The number of files with offenses. -/
def size (findings : Findings) : Nat := findings.files.length

/-- The number of offenses. -/
def total (findings : Findings) : Nat := (findings.files.flatMap fun file => file.2).length

/-- The number of offenses that were corrected. -/
def corrected (findings : Findings) : Nat :=
  (findings.files.flatMap fun file => file.2).countP Offense.corrected

@[simp] theorem insert_nil (findings : Findings) (path : Path) :
    findings.insert path [] = findings :=
  rfl

@[simp] theorem merge_empty (findings : Findings) : findings.merge empty = findings := rfl

end Findings

end Blurb
