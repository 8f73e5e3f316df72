import Blurb.Report.Printed
import Blurb.Style.Run

/-! # Reports on style runs

How the report on a style run is written: as JSON, or as one line for each offense under the path of
its file. -/

namespace Blurb

open Json

/-- Whether the checker ran, as JSON. -/
def Auxiliary.toJson : Auxiliary → Value
  | notRequested => .obj [member "status" (.str "not-requested".toList)]
  | skipped reason =>
    .obj [member "status" (.str "skipped".toList), member "reason" (.str reason)]
  | ran outcome =>
    .obj [member "status" (.str "ran".toList), member "outcome" (.str outcome.label)]

/-- The offenses of a file as JSON. -/
def fileJson (file : FileOffenses) : Value :=
  .obj [member "path" (.str file.1), member "offenses" (.arr (file.2.map Offense.toJson))]

namespace StyleReport

/-- **The report on a run as JSON**; without findings there are no files in it. -/
def toJson (report : StyleReport) : Value :=
  let findings := report.result.getD .empty
  .obj [
    member "outcome" (.str report.outcome.label),
    member "files" (.arr (findings.files.map fileJson)),
    member "auxiliary" report.auxiliary.toJson,
    member "summary" (.obj [
      member "files" (.nat findings.size),
      member "offenses" (.nat findings.total),
      member "corrected" (.nat findings.corrected)])]

/-- The lines for a file: its path as seen from the working directory, and its offenses. -/
def fileLines (cwd : Path) (showRule : Bool) (file : FileOffenses) : List Text :=
  Path.display cwd file.1 ::
    file.2.map fun offense => ' ' :: ' ' :: offense.render showRule

/-- The line with the totals. -/
def summaryLine (findings : Findings) : Text :=
  "— Summary — files=".toList ++ Text.ofNat findings.size ++
    " offenses=".toList ++ Text.ofNat findings.total ++
    " corrected=".toList ++ Text.ofNat findings.corrected

/-- **Printing the report on a run** in a format. Where the programs have printed themselves, there
is nothing more to print. -/
def print (report : StyleReport) (cwd : Path) (format : Text) (showRule : Bool) : Printed :=
  match report.result with
  | none => {}
  | some findings =>
    if isJsonFormat format then .out report.toJson.document
    else .out (Printed.lines
      (findings.files.flatMap (fileLines cwd showRule) ++ [summaryLine findings]))

end StyleReport

end Blurb
