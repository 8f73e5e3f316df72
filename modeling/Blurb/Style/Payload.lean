import Blurb.Json.Document
import Blurb.Style.Findings

/-! # Payloads

The two JSON reports that are understood: the linter's, with offenses grouped by file, and the
checker's, a flat list of comments. Both become findings under absolute paths. -/

namespace Blurb

/-! ## The reports -/

/-- **A file in the linter's report.** -/
structure ReportedFile where
  /-- The path as the linter writes it. -/
  path : Path
  /-- The offenses of the file. -/
  offenses : List Offense
deriving Repr, DecidableEq

/-- **A comment of the checker.** -/
structure Comment where
  /-- The path as the checker writes it. -/
  file : Path
  /-- The line. -/
  line : Nat
  /-- The line in which the commented part ends. -/
  endLine : Option Nat
  /-- The column. -/
  column : Nat
  /-- The column behind the commented part. -/
  endColumn : Option Nat
  /-- The level of the comment. -/
  level : Text
  /-- The number of the rule. -/
  code : Nat
  /-- What is wrong. -/
  message : Text
  /-- The checker knows a fix. -/
  hasFix : Bool
deriving Repr, DecidableEq

namespace Comment

/-- The linter's word for a level of the checker. -/
def severity (comment : Comment) : Text :=
  if comment.level == "style".toList then "refactor".toList
  else if comment.level == "info".toList then "convention".toList
  else comment.level

/-- The number of characters a comment covers, zero if it does not end on its line. -/
def length (comment : Comment) : Nat :=
  match comment.endLine, comment.endColumn with
  | some endLine, some endColumn =>
    if endLine = comment.line then endColumn - comment.column else 0
  | _, _ => 0

/-- **A comment as an offense.** -/
def toOffense (comment : Comment) : Offense where
  severity := comment.severity
  message := comment.message
  rule := 'S' :: 'C' :: Text.ofNat comment.code
  corrected := false
  correctable := comment.hasFix
  location := ⟨comment.line, comment.column, comment.length⟩

end Comment

/-! ## Reading the reports -/

open Json

/-- A natural number of 64 bits. -/
def word? : Document → Option Nat := Document.nat? wordBound

/-- A list of the linter's or the checker's report. -/
def listOf? {α : Type} (read : Document → Option α) : Document → Option (List α) :=
  Document.format.list? read

/-- A location in the linter's report. -/
def Location.ofDocument? (document : Document) : Option Location := do
  let record ← Document.record? ["line".toList, "column".toList, "length".toList] document
  some ⟨← record.required? "line" word?, ← record.required? "column" word?,
    ← record.withDefault? "length" 0 word?⟩

/-- An offense in the linter's report. -/
def Offense.ofDocument? (document : Document) : Option Offense := do
  let record ← Document.record? ["severity".toList, "message".toList, "cop_name".toList,
    "corrected".toList, "correctable".toList, "location".toList] document
  some {
    severity := ← record.required? "severity" Document.text?
    message := ← record.required? "message" Document.text?
    rule := ← record.required? "cop_name" Document.text?
    corrected := ← record.withDefault? "corrected" false Document.bool?
    correctable := ← record.withDefault? "correctable" false Document.bool?
    location := ← record.required? "location" Location.ofDocument? }

/-- A file in the linter's report. -/
def ReportedFile.ofDocument? (document : Document) : Option ReportedFile := do
  let record ← Document.record? ["path".toList, "offenses".toList] document
  some ⟨← record.required? "path" Document.text?,
    ← record.withDefault? "offenses" [] (listOf? Offense.ofDocument?)⟩

/-- **Reading the linter's report.** -/
def linterReport? (payload : Text) : Option (List ReportedFile) := do
  let record ← Document.record? ["files".toList] (← Document.parse? payload)
  record.withDefault? "files" [] (listOf? ReportedFile.ofDocument?)

/-- The deepest value that a fix may be: the comment and the list of comments hold it already. -/
def maxFixDepth : Nat := 125

/-- Whether a fix is given: any value but null that can be held. -/
def fix? (document : Document) : Option Bool :=
  match document with
  | .null => some false
  | document =>
    if document.isSound && document.depth ≤ maxFixDepth then some true else none

/-- A comment in the checker's report. -/
def Comment.ofDocument? (document : Document) : Option Comment := do
  let record ← Document.record? ["file".toList, "line".toList, "endLine".toList, "column".toList,
    "endColumn".toList, "level".toList, "code".toList, "message".toList, "fix".toList] document
  some {
    file := ← record.required? "file" Document.text?
    line := ← record.required? "line" word?
    endLine := ← record.optional? "endLine" (Document.format.optional? word?)
    column := ← record.required? "column" word?
    endColumn := ← record.optional? "endColumn"
      (Document.format.optional? word?)
    level := ← record.required? "level" Document.text?
    code := ← record.required? "code" (Document.nat? (Text.bitBound 32))
    message := ← record.required? "message" Document.text?
    hasFix := ← record.withDefault? "fix" false fix? }

/-- **Reading the checker's report.** -/
def checkerReport? (payload : Text) : Option (List Comment) := do
  listOf? Comment.ofDocument? (← Document.parse? payload)

/-! ## Findings of the reports -/

/-- **The absolute path** of a reported path: the canonical one if the file exists. -/
def absolutize (canonicalize? : Path → Option Path) (base path : Path) : Path :=
  let joined := Path.join base path
  (canonicalize? joined).getD joined

namespace Findings

/-- **The findings of the linter's report.** -/
def ofReport (canonicalize? : Path → Option Path) (base : Path) (report : List ReportedFile) :
    Findings :=
  report.foldl
    (fun findings file => findings.insert (absolutize canonicalize? base file.path) file.offenses)
    empty

/-- **The findings of the checker's comments.** -/
def ofComments (canonicalize? : Path → Option Path) (base : Path) (comments : List Comment) :
    Findings :=
  comments.foldl
    (fun findings comment =>
      findings.insert (absolutize canonicalize? base comment.file) [comment.toOffense])
    empty

end Findings

end Blurb
