import Blurb.Description.Batch
import Blurb.Json.Value
import Blurb.Report.Printed

/-! # Reports on audits and corrections

How the report on a batch of descriptions and the outcome of a single correction are written. -/

namespace Blurb

open Json

/-- A span as JSON. -/
def Span.toJson (span : Span) : Value :=
  .obj [member "start" (.nat span.start), member "end" (.nat span.stop)]

/-- A problem as JSON; the offending part and the span are left out where there are none. -/
def Problem.toJson (problem : Problem) : Value :=
  .obj <|
    [member "rule" (.str problem.rule.label), member "message" (.str problem.message)] ++
    (problem.matched.map fun text => member "matched" (.str text)).toList ++
    [member "severity" (.str Problem.severity)] ++
    (problem.span.map fun span => member "span" span.toJson).toList

/-- The result for an entry as JSON; the correction is left out where there is none. -/
def EntryResult.toJson (result : EntryResult) : Value :=
  .obj <|
    [member "kind" (.str result.entry.kind.label), member "name" (.str result.entry.name),
      member "desc" (.ofText? result.entry.desc),
      member "problems" (.arr (result.problems.map Problem.toJson))] ++
    (result.correction.map fun text => member "correction" (.str text)).toList

/-- **The report on a batch as JSON.** -/
def BatchReport.toJson (report : BatchReport) : Value :=
  .obj [
    member "results" (.arr (report.results.map EntryResult.toJson)),
    member "summary" (.obj [
      member "entries" (.nat report.summary.entries),
      member "flagged" (.nat report.summary.flagged),
      member "problems" (.nat report.summary.problems),
      member "corrected" (.nat report.summary.corrected)])]

/-- One line for each problem of an entry, and one for its correction. -/
def EntryResult.lines (result : EntryResult) : List Text :=
  (result.problems.map fun problem =>
    "▲ ⟦convention⟧ ".toList ++ result.entry.name ++ " (".toList ++ result.entry.kind.label ++
      ") ❲".toList ++ problem.rule.label ++ "❳ — ".toList ++ problem.message) ++
  (result.correction.map fun text => "  ↳ corrected: ".toList ++ text).toList

/-- The line with the totals. -/
def BatchSummary.line (summary : BatchSummary) : Text :=
  "— Summary — entries=".toList ++ Text.ofNat summary.entries ++
    " flagged=".toList ++ Text.ofNat summary.flagged ++
    " problems=".toList ++ Text.ofNat summary.problems ++
    " corrected=".toList ++ Text.ofNat summary.corrected

/-- **Printing the report on a batch** in a format. -/
def BatchReport.print (report : BatchReport) (format : Text) : Printed :=
  if isJsonFormat format then .out report.toJson.document
  else .out (Printed.lines (report.results.flatMap EntryResult.lines ++ [report.summary.line]))

/-- **Printing the outcome of a correction** in a format: the corrected token, or the token as it
was together with a note. -/
def printCorrection (source : Text) (corrected : Option Text) (format : Text) : Printed :=
  if isJsonFormat format then
    .out <| Value.document <| .obj [
      member "original" (.str source),
      member "corrected" (.ofText? corrected),
      member "changed" (.bool corrected.isSome)]
  else
    match corrected with
    | some text => .out (text ++ ['\n'])
    -- the note goes to the other stream, so that the token can be piped on
    | none => ⟨source ++ ['\n'], "note: no correction needed or possible\n".toList⟩

end Blurb
