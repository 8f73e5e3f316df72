import Blurb.Proofs.PrintedJson
import Blurb.Proofs.RecordFields
import Blurb.Proofs.ReportedOffenses
import Mathlib

/-! # Comments of the checker as a report of the linter

The checker has its own report, a flat list of comments. It is shown here to be no more than another
spelling of the linter's: for any list of comments there is one report of the linter that says the
same, a file for each comment with one offense in it, and reading either leads to the same findings.

* `linterReport?_reportDocument` — a report in the linter's format is read back.
* `Comment.IsReadFrom`, `checkerReport?_eq_some` — what is known of a comment that was read.
* `Comment.Becomes` — the offense that a comment stands for, field by field.
* `Comment.forall₂_restates_iff` — the only report that restates given comments.
* `Settings.readComments_eq_readReport` — both are read with the same findings. -/

namespace Blurb

/-! ## Numbers that are read back -/

namespace Text

/-- **The digits of a number are read back** as the number. -/
theorem decimal_ofNat (n : Nat) : decimal (ofNat n) = n := by
  let step := fun (value : Option Nat) (c : Char) => do some ((← value) * 10 + (← digit? 10 c))
  have hdigit : ∀ d < 10, digit? 10 (Nat.digitChar d) = some d := by decide
  have hfold : (ofNat n).foldl step (some 0) = some n := by
    induction n using Nat.strongRecOn with
    | ind n ih =>
      by_cases hsmall : n < 10
      · rw [ofNat, Nat.toDigits_of_lt_base hsmall]
        simp [step, hdigit n hsmall]
      · have hless : n / 10 < n := by omega
        have hlast : digit? 10 (Nat.digitChar (n % 10)) = some (n % 10) :=
          hdigit _ (Nat.mod_lt n (by decide))
        rw [ofNat, Nat.toDigits_of_base_le (by decide) (by omega), List.foldl_append]
        have ih := ih _ hless
        rw [ofNat] at ih
        rw [ih]
        simp [step, hlast]
        omega
  obtain ⟨c, rest, hdigits⟩ : ∃ c rest, ofNat n = c :: rest :=
    List.exists_cons_of_ne_nil Nat.toDigits_ne_nil
  rw [hdigits] at hfold
  rw [decimal, hdigits, number?]
  · exact congrArg (Option.getD · 0) hfold
  · simp

end Text

namespace Json

/-! ## Printed objects that are read back -/

/-- A number is read back where it is below the bound. -/
theorem nat?_toDocument {bound n : Nat} (h : n < bound) :
    Document.nat? bound (Value.nat n).toDocument = some n := by
  simp [Value.toDocument, Document.nat?, Numeral.toNat?, Text.decimal_ofNat, h]

@[simp] theorem text?_toDocument (t : Text) :
    Document.text? (Value.str t).toDocument = some t := rfl

@[simp] theorem bool?_toDocument (b : Bool) :
    Document.bool? (Value.bool b).toDocument = some b := rfl

/-- The members of an object as a record of what they are read as. -/
def recordOf (members : List (Text × Value)) : Record Document where
  fields := members.map fun field => (field.1, field.2.toDocument)

theorem itemDocuments_eq_map (items : List Value) :
    itemDocuments items = items.map Value.toDocument := by
  induction items with
  | nil => rfl
  | cons item items ih => rw [itemDocuments, ih, List.map_cons]

theorem members?_memberDocuments {names : List Text} {members : List (Text × Value)}
    (hnames : ∀ field ∈ members, field.1 ∈ names) (hnodup : (members.map Prod.fst).Nodup) :
    Document.members? names (memberDocuments members) = some (recordOf members).fields := by
  induction members with
  | nil => rfl
  | cons field members ih =>
    rw [List.forall_mem_cons] at hnames
    rw [List.map_cons, List.nodup_cons] at hnodup
    have hknown : names.contains field.1 = true := List.contains_iff_mem.2 hnames.1
    -- the name is not among the later ones, so it does not stand twice
    have hnew : ((recordOf members).fields.any fun other => other.1 == field.1) = false := by
      rw [recordOf, List.any_map, List.any_eq_false]
      intro other hother hsame
      exact hnodup.1 (beq_iff_eq.1 hsame ▸ List.mem_map_of_mem hother)
    rw [memberDocuments, Document.members?, ih hnames.2 hnodup.2]
    simp only [Option.bind_eq_bind, Option.bind_some, hknown, hnew, if_true, Bool.false_eq_true,
      if_false]
    rfl

/-- **A printed object is a record** of its members, where these are the fields of the record. -/
theorem record?_toDocument {names : List Text} {members : List (Text × Value)}
    (hnames : members.map Prod.fst = names) (hnodup : names.Nodup) :
    Document.record? names (Value.obj members).toDocument = some (recordOf members) := by
  subst hnames
  have hknown : ∀ field ∈ members, field.1 ∈ members.map Prod.fst :=
    fun field hfield => List.mem_map_of_mem hfield
  rw [Value.toDocument, Document.record?, members?_memberDocuments hknown hnodup]
  rfl

/-- A field of a printed object. -/
@[simp] theorem get?_recordOf_cons (name other : String) (value : Value)
    (members : List (Text × Value)) :
    (recordOf (member other value :: members)).get? name =
      if name = other then some value.toDocument else (recordOf members).get? name := by
  rw [Record.get?, recordOf, List.map_cons, List.lookup_cons, member, Record.get?, recordOf]
  by_cases hname : name = other
  · simp [hname]
  · have hne : (name.toList == other.toList) = false :=
      beq_eq_false_iff_ne.2 fun hsame => hname (String.toList_injective hsame)
    rw [hne, if_neg hname]

/-- **A printed list is read back** where each of its items is. -/
theorem listOf?_toDocument {α : Type} {read : Document → Option α} {print : α → Value}
    {items : List α} (h : ∀ item ∈ items, read (print item).toDocument = some item) :
    listOf? read (Value.arr (items.map print)).toDocument = some items := by
  have hitems : (items.map fun item => (print item).toDocument).mapM read = some items := by
    induction items with
    | nil => rfl
    | cons item items ih =>
      rw [List.forall_mem_cons] at h
      rw [List.map_cons, List.mapM_cons, h.1, ih h.2]
      rfl
  rw [Value.toDocument, itemDocuments_eq_map, List.map_map]
  exact hitems

end Json

/-! ## The linter's report, printed and read -/

open Json

/-- The numbers of a location have 64 bits. -/
structure Location.IsHeld (location : Location) : Prop where
  /-- The line is held. -/
  line : location.line < wordBound
  /-- The column is held. -/
  column : location.column < wordBound
  /-- The number of characters is held. -/
  length : location.length < wordBound

/-- A location as the linter reports it. -/
def Location.reported (location : Location) : Value :=
  .obj [
    member "line" (.nat location.line),
    member "column" (.nat location.column),
    member "length" (.nat location.length)]

/-- An offense as the linter reports it. -/
def Offense.reported (offense : Offense) : Value :=
  .obj [
    member "severity" (.str offense.severity),
    member "message" (.str offense.message),
    member "cop_name" (.str offense.rule),
    member "corrected" (.bool offense.corrected),
    member "correctable" (.bool offense.correctable),
    member "location" offense.location.reported]

/-- A file as the linter reports it. -/
def ReportedFile.reported (file : ReportedFile) : Value :=
  .obj [
    member "path" (.str file.path),
    member "offenses" (.arr (file.offenses.map Offense.reported))]

/-- **The linter's report as a document.** -/
def reportDocument (report : List ReportedFile) : Text :=
  (Value.obj [member "files" (.arr (report.map ReportedFile.reported))]).document

theorem Location.ofDocument?_reported {location : Location} (h : location.IsHeld) :
    Location.ofDocument? location.reported.toDocument = some location := by
  rw [ofDocument?, reported, record?_toDocument (by rfl) (by decide)]
  simp [Record.required?, Record.withDefault?, word?, nat?_toDocument h.line,
    nat?_toDocument h.column, nat?_toDocument h.length]

theorem Offense.ofDocument?_reported {offense : Offense} (h : offense.location.IsHeld) :
    Offense.ofDocument? offense.reported.toDocument = some offense := by
  rw [ofDocument?, reported, record?_toDocument (by rfl) (by decide)]
  simp [Record.required?, Record.withDefault?, Location.ofDocument?_reported h]

theorem ReportedFile.ofDocument?_reported {file : ReportedFile}
    (h : ∀ offense ∈ file.offenses, offense.location.IsHeld) :
    ReportedFile.ofDocument? file.reported.toDocument = some file := by
  have hoffenses : listOf? Offense.ofDocument?
      (Value.arr (file.offenses.map Offense.reported)).toDocument = some file.offenses :=
    listOf?_toDocument fun offense hoffense => Offense.ofDocument?_reported (h offense hoffense)
  rw [ofDocument?, reported, record?_toDocument (by rfl) (by decide)]
  simp [Record.required?, Record.withDefault?, hoffenses]

/-- **The linter's report is read back** where its numbers have 64 bits. -/
theorem linterReport?_reportDocument {report : List ReportedFile}
    (h : ∀ file ∈ report, ∀ offense ∈ file.offenses, offense.location.IsHeld) :
    linterReport? (reportDocument report) = some report := by
  have hfiles : listOf? ReportedFile.ofDocument?
      (Value.arr (report.map ReportedFile.reported)).toDocument = some report :=
    listOf?_toDocument fun file hfile => ReportedFile.ofDocument?_reported (h file hfile)
  rw [linterReport?, reportDocument, Value.parse?_document]
  simp only [Option.bind_eq_bind, Option.bind_some]
  rw [record?_toDocument (by rfl) (by decide)]
  simp [Record.withDefault?, hfiles]

/-! ## Comments that are read -/

namespace Comment

/-- The fields of a comment. -/
def names : List Text :=
  ["file".toList, "line".toList, "endLine".toList, "column".toList, "endColumn".toList,
    "level".toList, "code".toList, "message".toList, "fix".toList]

/-- The document of a comment gives a fix: any value but null. -/
def GivesFix (document : Document) : Prop :=
  ∃ record fix, Document.record? names document = some record ∧ record.get? "fix" = some fix ∧
    fix ≠ .null

/-- **A comment that is read from a document**: its positions have 64 bits, and it has a fix exactly
if the document gives one. -/
structure IsReadFrom (document : Document) (comment : Comment) : Prop where
  /-- The line is held. -/
  line : comment.line < wordBound
  /-- The column is held. -/
  column : comment.column < wordBound
  /-- The column behind the part is held. -/
  endColumn : ∀ endColumn, comment.endColumn = some endColumn → endColumn < wordBound
  /-- The fix is given. -/
  hasFix : comment.hasFix = true ↔ GivesFix document

end Comment

theorem word?_lt {document : Document} {n : Nat} (h : word? document = some n) : n < wordBound := by
  cases document with
  | number numeral =>
    obtain ⟨value, -, hvalue⟩ := Option.bind_eq_some_iff.1 h
    split at hvalue
    · next hless => exact Option.some.inj hvalue ▸ hless
    · cases hvalue
  | _ => cases h

theorem optionalWord?_lt {record : Record Document} {name : String} {number : Option Nat}
    (h : record.optional? name (Document.format.optional? word?) = some number) :
    ∀ n, number = some n → n < wordBound := by
  rintro n rfl
  unfold Record.optional? at h
  split at h
  · -- the field is given, so it is null or a number
    unfold Format.optional? at h
    split at h
    · cases h
    · cases h
    · obtain ⟨value, hvalue, hsome⟩ := Option.map_eq_some_iff.1 h
      cases hsome
      exact word?_lt hvalue
  · split at h <;> cases h

theorem fix?_eq_some {document : Document} {given : Bool} (h : fix? document = some given) :
    given = true ↔ document ≠ .null := by
  unfold fix? at h
  split at h
  · simp [← Option.some.inj h]
  · next hnull =>
    split at h
    · rw [← Option.some.inj h]
      exact iff_of_true rfl hnull
    · cases h

theorem Comment.isReadFrom_of_ofDocument? {document : Document} {comment : Comment}
    (h : Comment.ofDocument? document = some comment) : Comment.IsReadFrom document comment := by
  simp only [ofDocument?, Option.bind_eq_bind, Option.bind_eq_some_iff] at h
  obtain ⟨record, hrecord, file, -, line, hline, endLine, -, column, hcolumn, endColumn,
    hendColumn, level, -, code, -, message, -, given, hfix, hcomment⟩ := h
  obtain rfl := Option.some.inj hcomment
  obtain ⟨lineDocument, -, hline⟩ := Option.bind_eq_some_iff.1 hline
  obtain ⟨columnDocument, -, hcolumn⟩ := Option.bind_eq_some_iff.1 hcolumn
  have hrecord : Document.record? names document = some record := hrecord
  have hgiven : given = true ↔ GivesFix document := by
    cases hget : record.get? "fix" with
    | none =>
      rw [Record.withDefault?, hget] at hfix
      cases hfix
      simp [GivesFix, hrecord, hget]
    | some fix =>
      rw [Record.withDefault?, hget] at hfix
      simp [GivesFix, hrecord, hget, fix?_eq_some hfix]
  exact ⟨word?_lt hline, word?_lt hcolumn, optionalWord?_lt hendColumn, hgiven⟩

/-- **The comments of a payload** are read one by one from the items of its list. -/
theorem checkerReport?_eq_some {payload : Text} {comments : List Comment}
    (h : checkerReport? payload = some comments) :
    ∃ documents, Document.parse? payload = some (.array documents) ∧
      List.Forall₂ Comment.IsReadFrom documents comments := by
  obtain ⟨document, hdocument, hlist⟩ := Option.bind_eq_some_iff.1 h
  obtain ⟨documents, hitems, hcomments⟩ := Option.bind_eq_some_iff.1 hlist
  have harray : document = .array documents := by
    cases document with
    | array items => exact congrArg Document.array (Option.some.inj hitems)
    | _ => cases hitems
  exact ⟨documents, harray ▸ hdocument, (mapM_eq_some_iff.1 hcomments).imp fun _ _ hcomment =>
    Comment.isReadFrom_of_ofDocument? hcomment⟩

/-! ## Comments as offenses -/

namespace Comment

/-- **The offense that a comment stands for**, field by field. -/
structure Becomes (comment : Comment) (offense : Offense) : Prop where
  /-- The message stays. -/
  message : offense.message = comment.message
  /-- The line stays. -/
  line : offense.location.line = comment.line
  /-- The column stays. -/
  column : offense.location.column = comment.column
  /-- The rule is named after its number. -/
  rule : offense.rule = "SC".toList ++ Text.ofNat comment.code
  /-- The checker corrects nothing. -/
  corrected : offense.corrected = false
  /-- What has a fix can be corrected. -/
  correctable : offense.correctable = true ↔ comment.hasFix = true
  /-- Matters of style. -/
  style : comment.level = "style".toList → offense.severity = "refactor".toList
  /-- Hints. -/
  info : comment.level = "info".toList → offense.severity = "convention".toList
  /-- Any other level stays. -/
  level : comment.level ≠ "style".toList → comment.level ≠ "info".toList →
    offense.severity = comment.level
  /-- A part that ends on its line, and not before it starts, is covered. -/
  covered : ∀ endColumn, comment.endLine = some comment.line →
    comment.endColumn = some endColumn → comment.column ≤ endColumn →
      comment.column + offense.location.length = endColumn
  /-- Of any other part nothing is covered. -/
  uncovered : (¬ ∃ endColumn, comment.endLine = some comment.line ∧
    comment.endColumn = some endColumn ∧ comment.column ≤ endColumn) → offense.location.length = 0

theorem length_of_le {comment : Comment} {endColumn : Nat}
    (hline : comment.endLine = some comment.line) (hcolumn : comment.endColumn = some endColumn)
    (h : comment.column ≤ endColumn) : comment.column + comment.length = endColumn := by
  rw [length, hline, hcolumn]
  simp
  omega

theorem length_eq_zero {comment : Comment}
    (h : ¬ ∃ endColumn, comment.endLine = some comment.line ∧
      comment.endColumn = some endColumn ∧ comment.column ≤ endColumn) : comment.length = 0 := by
  rw [length]
  split
  · next endLine endColumn hendLine hendColumn =>
    split
    · next hline =>
      have hless : ¬ comment.column ≤ endColumn := fun hle =>
        h ⟨endColumn, hline ▸ hendLine, hendColumn, hle⟩
      omega
    · rfl
  · rfl

theorem becomes_toOffense (comment : Comment) : comment.Becomes comment.toOffense where
  message := rfl
  line := rfl
  column := rfl
  rule := rfl
  corrected := rfl
  correctable := .rfl
  style h := if_pos (beq_iff_eq.2 h)
  info h := by
    simp only [toOffense, severity, h]
    rfl
  level hstyle hinfo := by
    rw [toOffense, severity, if_neg (mt eq_of_beq hstyle), if_neg (mt eq_of_beq hinfo)]
  covered _ := length_of_le
  uncovered := length_eq_zero

/-- **A comment stands for one offense only.** -/
theorem Becomes.eq_toOffense {comment : Comment} {offense : Offense}
    (h : comment.Becomes offense) : offense = comment.toOffense := by
  have hown := becomes_toOffense comment
  have hseverity : offense.severity = comment.toOffense.severity := by
    by_cases hstyle : comment.level = "style".toList
    · rw [h.style hstyle, hown.style hstyle]
    · by_cases hinfo : comment.level = "info".toList
      · rw [h.info hinfo, hown.info hinfo]
      · rw [h.level hstyle hinfo, hown.level hstyle hinfo]
  have hlength : offense.location.length = comment.toOffense.location.length := by
    by_cases hcovered : ∃ endColumn, comment.endLine = some comment.line ∧
        comment.endColumn = some endColumn ∧ comment.column ≤ endColumn
    · obtain ⟨endColumn, hline, hcolumn, hle⟩ := hcovered
      have hoffense := h.covered endColumn hline hcolumn hle
      have htoOffense := hown.covered endColumn hline hcolumn hle
      omega
    · rw [h.uncovered hcovered, hown.uncovered hcovered]
  have hcorrectable : offense.correctable = comment.hasFix := Bool.eq_iff_iff.2 h.correctable
  obtain ⟨severity, message, rule, corrected, correctable, line, column, length⟩ := offense
  simp only [toOffense, Offense.mk.injEq, Location.mk.injEq]
  exact ⟨hseverity, h.message, h.rule, h.corrected, hcorrectable, h.line, h.column, hlength⟩

/-- What is covered lies before a column of 64 bits, so its length has 64 bits too. -/
theorem Becomes.isHeld {document : Document} {comment : Comment} {offense : Offense}
    (h : comment.Becomes offense) (hread : IsReadFrom document comment) :
    offense.location.IsHeld where
  line := h.line ▸ hread.line
  column := h.column ▸ hread.column
  length := by
    by_cases hcovered : ∃ endColumn, comment.endLine = some comment.line ∧
        comment.endColumn = some endColumn ∧ comment.column ≤ endColumn
    · obtain ⟨endColumn, hline, hcolumn, hle⟩ := hcovered
      have hend := hread.endColumn endColumn hcolumn
      have hlength := h.covered endColumn hline hcolumn hle
      omega
    · rw [h.uncovered hcovered]
      exact Nat.two_pow_pos 64

theorem isHeld_of_isReadFrom {documents : List Document} {comments : List Comment}
    (h : List.Forall₂ IsReadFrom documents comments) :
    ∀ comment ∈ comments, comment.toOffense.location.IsHeld := by
  induction h with
  | nil => simp
  | cons hread _ ih =>
    exact List.forall_mem_cons.2 ⟨(becomes_toOffense _).isHeld hread, ih⟩

/-- **A file with the one offense that a comment stands for**, under the path of the comment. -/
structure Restates (comment : Comment) (file : ReportedFile) : Prop where
  /-- The path stays. -/
  path : file.path = comment.file
  /-- There is one offense. -/
  offenses : ∃ offense, file.offenses = [offense] ∧ comment.Becomes offense

theorem restates_iff {comment : Comment} {file : ReportedFile} :
    comment.Restates file ↔ file = ⟨comment.file, [comment.toOffense]⟩ := by
  constructor
  · rintro ⟨hpath, offense, hoffenses, hbecomes⟩
    obtain ⟨path, offenses⟩ := file
    rw [ReportedFile.mk.injEq]
    exact ⟨hpath, hbecomes.eq_toOffense ▸ hoffenses⟩
  · rintro rfl
    exact ⟨rfl, _, rfl, becomes_toOffense comment⟩

theorem forall₂_restates_iff {comments : List Comment} {report : List ReportedFile} :
    List.Forall₂ Restates comments report ↔
      report = comments.map fun comment => ⟨comment.file, [comment.toOffense]⟩ := by
  induction comments generalizing report with
  | nil => simp
  | cons comment comments ih => simp [List.forall₂_cons_left_iff, restates_iff, ih]

end Comment

namespace Settings

/-- **The checker's comments are read as the linter's report** with a file for each of them, in
order, that has the one offense the comment stands for. There is just one such report, whatever the
comments are, and both have the same findings. Of comments that are read from a payload, the
positions have 64 bits and so have the lengths; the report can then be written down, and wherever it
is written, it is read with the same findings as the payload. -/
theorem readComments_eq_readReport (canonicalize? : Path → Option Path) (base : Path)
    (comments : List Comment) :
    (∃! report, List.Forall₂ Comment.Restates comments report) ∧
    ∀ report, List.Forall₂ Comment.Restates comments report →
      Findings.ofComments canonicalize? base comments =
        Findings.ofReport canonicalize? base report ∧
      ∀ payload, checkerReport? payload = some comments →
        (∃ documents, Document.parse? payload = some (.array documents) ∧
          List.Forall₂ Comment.IsReadFrom documents comments) ∧
        (∀ file ∈ report, ∀ offense ∈ file.offenses, offense.location.IsHeld) ∧
        linterReport? (reportDocument report) = some report ∧
        ∀ written, linterReport? written = some report →
          readComments canonicalize? base payload = readReport canonicalize? base written := by
  refine ⟨?_, ?_⟩
  · simp only [Comment.forall₂_restates_iff]
    exact existsUnique_eq
  intro report hreport
  have hfindings : Findings.ofComments canonicalize? base comments =
      Findings.ofReport canonicalize? base report := by
    rw [Comment.forall₂_restates_iff.1 hreport, Findings.ofReport, List.foldl_map]
    rfl
  refine ⟨hfindings, fun payload hpayload => ?_⟩
  obtain ⟨documents, hparse, hdocuments⟩ := checkerReport?_eq_some hpayload
  have hheld : ∀ file ∈ report, ∀ offense ∈ file.offenses, offense.location.IsHeld := by
    rw [Comment.forall₂_restates_iff.1 hreport, List.forall_mem_map]
    intro comment hcomment
    rw [List.forall_mem_singleton]
    exact Comment.isHeld_of_isReadFrom hdocuments comment hcomment
  refine ⟨⟨documents, hparse, hdocuments⟩, hheld, linterReport?_reportDocument hheld, ?_⟩
  intro written hwritten
  rw [readComments, readReport, hpayload, hwritten, Option.map_some, Option.map_some, hfindings]

end Settings

end Blurb
