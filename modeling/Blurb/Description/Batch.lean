import Blurb.Description.Correction

/-! # Batches

The audit of many items at once, with a correction for each where one is asked for, and the totals
over all of them. -/

namespace Blurb

/-- **An entry**: an item and its description. -/
structure Entry where
  /-- The kind of the item. -/
  kind : Kind
  /-- The name of the item. -/
  name : Text
  /-- The description, if there is one. -/
  desc : Option Text
deriving Repr, DecidableEq

/-- **The result for one entry.** -/
structure EntryResult where
  /-- The entry. -/
  entry : Entry
  /-- The problems of its description. -/
  problems : List Problem
  /-- The corrected token, if one was asked for and found. -/
  correction : Option Text
deriving Repr, DecidableEq

/-- **The totals of a batch.** -/
structure BatchSummary where
  /-- The number of entries. -/
  entries : Nat
  /-- The number of entries with a problem. -/
  flagged : Nat
  /-- The number of problems. -/
  problems : Nat
  /-- The number of corrections. -/
  corrected : Nat
deriving Repr, DecidableEq

/-- **The report on a batch.** -/
structure BatchReport where
  /-- The results in the order of the entries. -/
  results : List EntryResult
  /-- The totals over the results. -/
  summary : BatchSummary
deriving Repr, DecidableEq

/-- Some entry has a problem. -/
def BatchReport.hasProblems (report : BatchReport) : Bool := 0 < report.summary.problems

namespace Rulebook

/-- **The result for one entry**: its audit and, if `fix` asks for it and there are problems, its
correction. -/
def auditEntry (book : Rulebook) (fix : Bool) (entry : Entry) : EntryResult :=
  let token := entry.desc.map Token.quoted
  let problems := book.audit entry.kind entry.name token
  let correction :=
    match token with
    | none => none
    | some token =>
      if fix && !problems.isEmpty then (book.correct? entry.name token).map (·.text) else none
  ⟨entry, problems, correction⟩

/-- The totals over a list of results. -/
def summarize (results : List EntryResult) : BatchSummary where
  entries := results.length
  flagged := results.countP fun result => !result.problems.isEmpty
  problems := (results.flatMap fun result => result.problems).length
  corrected := results.countP fun result => result.correction.isSome

/-- **The audit of a batch of entries.** -/
def auditBatch (book : Rulebook) (fix : Bool) (entries : List Entry) : BatchReport :=
  let results := entries.map (book.auditEntry fix)
  ⟨results, summarize results⟩

end Rulebook

end Blurb
