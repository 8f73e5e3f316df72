import Blurb.Proofs.OffenseLedger
import Blurb.Report.Style

/-! # Where reported offenses end up

The offenses of the linter's report and of the checker's comments are filed under absolute paths,
canonical where there is something at the path, and a file is looked up under its path or else its
canonical path. As long as the canonical path hangs on the components of a path alone and is its own
canonical path, a file is found with all that either payload reports about it, and with nothing
else.

* `IsCanonical` — what is asked of canonical paths.
* `fileAt?_ofPayloads` — the findings of both payloads hold what is reported under each path.
* `lookup_eq_fileAt?` — looking a path up finds the entry of its absolute path.
* `lookup_payloads` — nothing is lost, doubled or filed under another path. -/

namespace Blurb

/-- **What is asked of canonical paths**: they hang on the components of a path alone, and a
canonical path is its own canonical path, up to spelling in both cases. -/
structure IsCanonical (canonicalize? : Path → Option Path) : Prop where
  /-- The same paths have the same canonical path. -/
  congr : ∀ a b, Path.same a b = true →
    (canonicalize? a).map Path.components = (canonicalize? b).map Path.components
  /-- A canonical path is its own canonical path. -/
  idem : ∀ path canonical, canonicalize? path = some canonical →
    (canonicalize? canonical).map Path.components = some (Path.components canonical)

namespace Findings

/-! ## What the payloads add -/

section Payloads

variable (canonicalize? : Path → Option Path) (base : Path) (report : List ReportedFile)
  (comments : List Comment)

/-- The offenses of both payloads with the paths they are filed under, in order. -/
def payloadLedger : Ledger :=
  (report.map fun file => (absolutize canonicalize? base file.path, file.offenses)) ++
    comments.map fun comment => (absolutize canonicalize? base comment.file, [comment.toOffense])

/-- **The offenses that are reported under a path**: those of the linter's report in its order, then
those of the checker's comments in theirs. -/
def reportedUnder (path : Path) : List Offense :=
  ((report.filter fun file => Path.same path (absolutize canonicalize? base file.path)).flatMap
    fun file => file.offenses) ++
  (comments.filter fun comment => Path.same path (absolutize canonicalize? base comment.file)).map
    Comment.toOffense

/-- The findings of both payloads. -/
def ofPayloads : Findings :=
  (ofReport canonicalize? base report).merge (ofComments canonicalize? base comments)

theorem ofReport_eq_insertAll : ofReport canonicalize? base report =
    empty.insertAll (report.map fun file => (absolutize canonicalize? base file.path,
      file.offenses)) := by
  rw [insertAll, List.foldl_map, ofReport]

theorem ofComments_eq_insertAll : ofComments canonicalize? base comments =
    empty.insertAll (comments.map fun comment => (absolutize canonicalize? base comment.file,
      [comment.toOffense])) := by
  rw [insertAll, List.foldl_map, ofComments]

theorem isKept_ofReport : (ofReport canonicalize? base report).IsKept := by
  rw [ofReport_eq_insertAll]
  exact isKept_empty.insertAll _

theorem isKept_ofComments : (ofComments canonicalize? base comments).IsKept := by
  rw [ofComments_eq_insertAll]
  exact isKept_empty.insertAll _

theorem isKept_ofPayloads : (ofPayloads canonicalize? base report comments).IsKept :=
  (isKept_ofReport canonicalize? base report).merge _

/-- **The findings of both payloads tell what their ledger does.** -/
theorem fileAt?_ofPayloads (path : Path) :
    (ofPayloads canonicalize? base report comments).fileAt? path =
      (payloadLedger canonicalize? base report comments).fileAt? path := by
  rw [ofPayloads, (isKept_ofReport canonicalize? base report).fileAt?_merge
    (isKept_ofComments canonicalize? base comments), ofReport_eq_insertAll,
    ofComments_eq_insertAll, isKept_empty.fileAt?_insertAll, isKept_empty.fileAt?_insertAll,
    payloadLedger, Ledger.fileAt?_append]
  rfl

theorem filed_payloadLedger (path : Path) :
    (payloadLedger canonicalize? base report comments).filed path =
      reportedUnder canonicalize? base report comments path := by
  rw [payloadLedger, Ledger.filed_append, reportedUnder,
    List.map_eq_flatMap (f := Comment.toOffense)]
  simp only [Ledger.filed, List.filter_map, List.flatMap_map]
  rfl

/-- **The offenses of an entry** are those reported under its path; without any there is none. -/
theorem offenses_ofPayloads (path : Path) :
    (((ofPayloads canonicalize? base report comments).fileAt? path).map
      fun file => file.2).getD [] =
      reportedUnder canonicalize? base report comments path := by
  rw [fileAt?_ofPayloads, ← filed_payloadLedger]
  cases h : (payloadLedger canonicalize? base report comments).fileAt? path with
  | none => exact (Ledger.fileAt?_eq_none_iff.1 h).symm
  | some file =>
    obtain ⟨first, -, rfl⟩ := Option.map_eq_some_iff.1 h
    rfl

theorem contains_ofPayloads (path : Path) :
    (ofPayloads canonicalize? base report comments).contains path = true ↔
      (∃ file ∈ report, Path.same path (absolutize canonicalize? base file.path) = true ∧
        file.offenses ≠ []) ∨
      ∃ comment ∈ comments, Path.same path (absolutize canonicalize? base comment.file) = true := by
  rw [contains, get?_eq_map_fileAt?, Option.isSome_map, fileAt?_ofPayloads,
    Option.isSome_iff_ne_none, ne_eq, Ledger.fileAt?_eq_none_iff, filed_payloadLedger,
    reportedUnder]
  simp only [List.append_eq_nil_iff, List.flatMap_eq_nil_iff, List.mem_filter, List.map_eq_nil_iff,
    List.filter_eq_nil_iff]
  grind

/-- The offenses of both payloads, as the findings hold them in all. -/
theorem perm_ofPayloads :
    ((ofPayloads canonicalize? base report comments).files.flatMap fun file => file.2).Perm
      ((report.flatMap fun file => file.offenses) ++ comments.map Comment.toOffense) := by
  refine (perm_merge _ _).trans (List.Perm.append ?_ ?_)
  · rw [ofReport_eq_insertAll]
    refine (perm_insertAll empty _).trans ?_
    rw [empty, List.nil_append, List.flatMap_map]
  · rw [ofComments_eq_insertAll]
    refine (perm_insertAll empty _).trans ?_
    rw [empty, List.nil_append, List.flatMap_map, ← List.map_eq_flatMap]

end Payloads

/-! ## Looking a file up -/

section Lookup

variable {canonicalize? : Path → Option Path} {base : Path} {findings : Findings}

/-- An absolute path is its own canonical path if it has one. -/
theorem same_of_canonicalize?_absolutize (hcanon : IsCanonical canonicalize?)
    {path canonical : Path}
    (h : canonicalize? (absolutize canonicalize? base path) = some canonical) :
    Path.same canonical (absolutize canonicalize? base path) = true := by
  rw [absolutize] at h ⊢
  cases hjoined : canonicalize? (Path.join base path) with
  | none =>
    rw [hjoined, Option.getD_none, hjoined] at h
    simp at h
  | some absolute =>
    rw [hjoined, Option.getD_some] at h
    have := hcanon.idem _ _ hjoined
    rw [h, Option.map_some, Option.some.injEq] at this
    rw [Option.getD_some, Path.same_iff, this]

/-- **Looking a path up** finds the entry of its canonical path if it has one, else its own, where
the findings hold nothing but absolute paths. -/
theorem lookup_eq_fileAt? (hcanon : IsCanonical canonicalize?)
    (hfiles : ∀ file ∈ findings.files, ∃ path, file.1 = absolutize canonicalize? base path)
    (path : Path) :
    findings.lookup canonicalize? path =
      ((findings.fileAt? ((canonicalize? path).getD path)).map fun file => file.2).getD [] := by
  rw [lookup, get?_eq_map_fileAt?]
  cases hcanonical : canonicalize? path with
  | none =>
    rw [Option.getD_none]
    cases findings.fileAt? path <;> rfl
  | some canonical =>
    cases hentry : findings.fileAt? path with
    | none => rfl
    | some file =>
      -- the path of the entry is its own canonical path, and so that of the path looked up
      have hsame := same_of_fileAt? hentry
      obtain ⟨reported, hreported⟩ := hfiles file (mem_of_fileAt? hentry)
      have hcongr := hcanon.congr _ _ hsame
      rw [hcanonical, Option.map_some] at hcongr
      obtain ⟨own, hown, hcomponents⟩ := Option.map_eq_some_iff.1 hcongr.symm
      rw [hreported] at hown
      have hfixed := same_of_canonicalize?_absolutize hcanon hown
      have hpath : Path.same canonical path = true := by
        rw [Path.same_iff, ← hcomponents, Path.same_iff.1 hfixed, ← hreported,
          Path.same_iff.1 hsame]
      rw [Option.getD_some, fileAt?_congr hpath, hentry]
      rfl

theorem mem_files_ofPayloads {report : List ReportedFile} {comments : List Comment}
    {file : FileOffenses} (h : file ∈ (ofPayloads canonicalize? base report comments).files) :
    ∃ path, file.1 = absolutize canonicalize? base path := by
  rw [(isKept_ofPayloads canonicalize? base report comments).mem_iff, fileAt?_ofPayloads,
    Ledger.fileAt?, Option.map_eq_some_iff] at h
  obtain ⟨first, hfirst, hfile⟩ := h
  have hmem := List.mem_of_find?_eq_some hfirst
  rw [← hfile]
  rw [payloadLedger, List.mem_append, List.mem_map, List.mem_map] at hmem
  rcases hmem with ⟨reported, -, rfl⟩ | ⟨comment, -, rfl⟩
  · exact ⟨reported.path, rfl⟩
  · exact ⟨comment.file, rfl⟩

end Lookup

/-! ## Nothing is lost -/

/-- The checker corrects nothing. -/
theorem countP_corrected_comments (comments : List Comment) :
    (comments.map Comment.toOffense).countP Offense.corrected = 0 := by
  rw [List.countP_eq_zero]
  intro offense hoffense
  obtain ⟨comment, -, rfl⟩ := List.mem_map.1 hoffense
  simp [Comment.toOffense]

/-- **No offense is lost, doubled or filed under another path.** Merging the findings of the
linter's report and of the checker's comments, a path is looked up with all offenses of the report,
in order, and then all comments, in order, whose absolute path is that of the path; there are as
many offenses as in both payloads; a path has an entry only if a payload has an offense for it; and
the report as JSON lists these files, each with its path and with all that is told about each of its
offenses, and counts them. -/
theorem lookup_payloads {canonicalize? : Path → Option Path} (hcanon : IsCanonical canonicalize?)
    (base : Path) (report : List ReportedFile) (comments : List Comment) :
    let findings := ofPayloads canonicalize? base report comments
    (∀ path, findings.lookup canonicalize? (Path.join base path) =
      reportedUnder canonicalize? base report comments (absolutize canonicalize? base path)) ∧
    findings.total = (report.map fun file => file.offenses.length).sum + comments.length ∧
    (∀ path, findings.contains path = true ↔
      (∃ file ∈ report, Path.same path (absolutize canonicalize? base file.path) = true ∧
        file.offenses ≠ []) ∨
      ∃ comment ∈ comments,
        Path.same path (absolutize canonicalize? base comment.file) = true) ∧
    (∀ file ∈ findings.files,
      file.2 = reportedUnder canonicalize? base report comments file.1) ∧
    ∀ outcome auxiliary, StyleReport.toJson ⟨outcome, Settings.mergeResults
        (some (ofReport canonicalize? base report)) (some (ofComments canonicalize? base comments)),
        auxiliary⟩ = .obj [
      Json.member "outcome" (.str outcome.label),
      Json.member "files" (.arr (findings.files.map fun file => .obj [
        Json.member "path" (.str file.1),
        Json.member "offenses" (.arr
          ((reportedUnder canonicalize? base report comments file.1).map fun offense => .obj [
            Json.member "severity" (.str offense.severity),
            Json.member "message" (.str offense.message),
            Json.member "rule_id" (.str offense.rule),
            Json.member "corrected" (.bool offense.corrected),
            Json.member "correctable" (.bool offense.correctable),
            Json.member "location" (.obj [
              Json.member "line" (.nat offense.location.line),
              Json.member "column" (.nat offense.location.column),
              Json.member "length" (.nat offense.location.length)])]))])),
      Json.member "auxiliary" auxiliary.toJson,
      Json.member "summary" (.obj [
        Json.member "files" (.nat findings.files.length),
        Json.member "offenses"
          (.nat ((report.map fun file => file.offenses.length).sum + comments.length)),
        Json.member "corrected"
          (.nat ((report.flatMap fun file => file.offenses).countP Offense.corrected))])] := by
  intro findings
  have hperm : (findings.files.flatMap fun file => file.2).Perm _ :=
    perm_ofPayloads canonicalize? base report comments
  have htotal : findings.total = (report.map fun file => file.offenses.length).sum +
      comments.length := by
    rw [total, hperm.length_eq, List.length_append, List.length_flatMap, List.length_map]
  have hcorrected : findings.corrected =
      (report.flatMap fun file => file.offenses).countP Offense.corrected := by
    rw [corrected, hperm.countP_eq, List.countP_append, countP_corrected_comments, Nat.add_zero]
  have hoffenses : ∀ file ∈ findings.files,
      file.2 = reportedUnder canonicalize? base report comments file.1 := by
    intro file hfile
    rw [← offenses_ofPayloads,
      (isKept_ofPayloads canonicalize? base report comments).mem_iff.1 hfile]
    rfl
  refine ⟨fun path => ?_, htotal, contains_ofPayloads canonicalize? base report comments,
    hoffenses, ?_⟩
  · have hfiles : ∀ file ∈ findings.files, ∃ path, file.1 = absolutize canonicalize? base path :=
      fun _ => mem_files_ofPayloads
    have hlookup := lookup_eq_fileAt? hcanon hfiles (Path.join base path)
    exact hlookup.trans (offenses_ofPayloads canonicalize? base report comments _)
  · intro outcome auxiliary
    have hmerge : Settings.mergeResults (some (ofReport canonicalize? base report))
        (some (ofComments canonicalize? base comments)) = some findings := rfl
    rw [StyleReport.toJson, hmerge, Option.getD_some, size, htotal, hcorrected]
    -- file by file, the offenses that are written are those that are reported under its path
    rw [List.map_congr_left fun file hfile => by rw [fileJson, hoffenses file hfile]]
    rfl

/-- Canonical paths where `/r/l.rb` is a link to `/r/a.rb` and there is nothing else. -/
def oneLink (path : Path) : Option Path :=
  if path.components = Path.components "/r/a.rb".toList ∨
      path.components = Path.components "/r/l.rb".toList then some "/r/a.rb".toList
  else none

theorem isCanonical_oneLink : IsCanonical oneLink where
  congr a b h := by rw [oneLink, oneLink, Path.same_iff.1 h]
  idem path canonical h := by
    rw [oneLink] at h
    split at h
    · rw [← Option.some.inj h]
      rfl
    · simp at h

/-- The link and what it leads to are one file, whichever payload names which. -/
theorem lookup_payloads_link :
    let offense : Offense := ⟨"warning".toList, ['m'], "Lint/X".toList, false, true, ⟨1, 2, 3⟩⟩
    let comment : Comment :=
      ⟨".//l.rb".toList, 4, none, 5, none, "info".toList, 2086, ['q'], false⟩
    let report : List ReportedFile :=
      [⟨"l.rb".toList, [offense]⟩, ⟨"b.rb".toList, []⟩, ⟨"a.rb".toList, [offense, offense]⟩]
    IsCanonical oneLink ∧
    (ofPayloads oneLink "/r".toList report [comment]).lookup oneLink
        (Path.join "/r".toList "l.rb".toList) =
      [offense, offense, offense, comment.toOffense] := by
  intro offense comment report
  refine ⟨isCanonical_oneLink, ?_⟩
  rw [(lookup_payloads isCanonical_oneLink "/r".toList report [comment]).1 "l.rb".toList]
  decide

end Findings

end Blurb
