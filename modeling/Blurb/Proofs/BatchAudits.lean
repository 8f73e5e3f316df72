import Blurb.Description.Batch
import Blurb.Proofs.Repairs

/-! # Audits of batches

The entries of a batch are audited each for itself, so batches can be cut and put together, and
asking for corrections changes nothing else. A correction that is taken over leaves nothing for a
second round to correct.

* `BatchSummary.add`, `Rulebook.auditBatch_append` — the report on two batches together.
* `Rulebook.hasProblems_auditBatch_iff`, `Rulebook.auditEntry_fix` — what the totals and the
  corrections depend on.
* `EntryResult.adopted` — an entry with its correction taken over;
  `Rulebook.correction_auditEntry_adopted` — it is not corrected again.
* `Rulebook.IsOutOfReach` — the rules that can still fire on it.
* `Rulebook.auditBatch_rounds` — all of it together. -/

namespace Blurb

/-! ## Batches put together -/

namespace BatchSummary

/-- **The totals of two batches together.** -/
def add (a b : BatchSummary) : BatchSummary where
  entries := a.entries + b.entries
  flagged := a.flagged + b.flagged
  problems := a.problems + b.problems
  corrected := a.corrected + b.corrected

instance : Add BatchSummary := ⟨add⟩

theorem add_def (a b : BatchSummary) : a + b = ⟨a.entries + b.entries, a.flagged + b.flagged,
    a.problems + b.problems, a.corrected + b.corrected⟩ := rfl

end BatchSummary

namespace Rulebook

variable {book : Rulebook} {fix : Bool} {entry : Entry}

/-- **Every total is a sum over the results.** -/
theorem summarize_append (xs ys : List EntryResult) :
    summarize (xs ++ ys) = summarize xs + summarize ys := by
  simp [summarize, BatchSummary.add_def, List.countP_append]

/-- Without their corrections, results differ in the number of corrections alone. -/
theorem summarize_map_correction_none (results : List EntryResult) :
    summarize (results.map fun result => { result with correction := none }) =
      { summarize results with corrected := 0 } := by
  simp [summarize, List.countP_map, List.flatMap_map, Function.comp_def]

/-- The report on two batches together. -/
theorem auditBatch_append (book : Rulebook) (fix : Bool) (xs ys : List Entry) :
    book.auditBatch fix (xs ++ ys) =
      ⟨(book.auditBatch fix xs).results ++ (book.auditBatch fix ys).results,
        (book.auditBatch fix xs).summary + (book.auditBatch fix ys).summary⟩ := by
  simp only [auditBatch, List.map_append, summarize_append]

/-! ## Problems and corrections -/

@[simp] theorem entry_auditEntry (book : Rulebook) (fix : Bool) (entry : Entry) :
    (book.auditEntry fix entry).entry = entry := rfl

@[simp] theorem problems_auditEntry (book : Rulebook) (fix : Bool) (entry : Entry) :
    (book.auditEntry fix entry).problems =
      book.audit entry.kind entry.name (entry.desc.map Token.quoted) := rfl

/-- **A batch has problems** exactly if one of its entries has. -/
theorem hasProblems_auditBatch_iff {entries : List Entry} :
    (book.auditBatch fix entries).hasProblems = true ↔
      ∃ entry ∈ entries, book.audit entry.kind entry.name (entry.desc.map Token.quoted) ≠ [] := by
  rw [BatchReport.hasProblems, decide_eq_true_iff, auditBatch, summarize, List.length_pos_iff]
  simp only [ne_eq, List.flatMap_eq_nil_iff, List.forall_mem_map, problems_auditEntry, not_forall,
    exists_prop]

/-- **Where a correction comes from**: it was asked for, the description has problems, and the
corrector has found it. -/
theorem correction_auditEntry_eq_some_iff {text : Text} :
    (book.auditEntry fix entry).correction = some text ↔
      fix = true ∧ (book.auditEntry fix entry).problems ≠ [] ∧
        ∃ desc, entry.desc = some desc ∧
          ∃ replacement, book.correct? entry.name (Token.quoted desc) = some replacement ∧
            replacement.text = text := by
  cases hdesc : entry.desc with
  | none => simp [auditEntry, hdesc]
  | some desc =>
    cases fix with
    | false => simp [auditEntry, hdesc]
    | true =>
      by_cases hproblems : book.audit entry.kind entry.name (some (Token.quoted desc)) = [] <;>
        simp [auditEntry, hdesc, hproblems]

/-- Asking for corrections changes nothing else about an entry. -/
theorem auditEntry_fix (book : Rulebook) (entry : Entry) :
    { book.auditEntry true entry with correction := none } = book.auditEntry false entry := by
  have hnone : (book.auditEntry false entry).correction = none := by
    rw [Option.eq_none_iff_forall_ne_some]
    intro text h
    exact absurd (correction_auditEntry_eq_some_iff.1 h).1 (by simp)
  rw [← hnone]
  rfl

/-! ## A second round -/

end Rulebook

/-- **An entry with its correction taken over** as its description, without the quotes. -/
def EntryResult.adopted (result : EntryResult) : Entry :=
  match result.correction with
  | none => result.entry
  | some text => { result.entry with desc := some (stringContent text) }

namespace Rulebook

variable {book : Rulebook} {entry : Entry}

/-- The literal between the quotes of a quoted text is the text. -/
theorem literal_of_quoted {desc literal : Text} {quote : Char}
    (h : lineLiteral? (Token.quoted desc).source = some (quote, literal)) : literal = desc := by
  obtain ⟨hsource, hquote, -⟩ := lineLiteral?_eq_some_iff.1 h
  calc literal = stringContent (Token.quoted desc).source := by
        rw [hsource, stringContent_quoted hquote]
    _ = desc := Token.content_quoted desc

/-- **What an entry is corrected to**: the revision of its description, which is not blank. -/
theorem adopted_of_correction {text : Text}
    (h : (book.auditEntry true entry).correction = some text) :
    ∃ desc, Text.trim (book.revise entry.name desc) ≠ [] ∧
      (book.auditEntry true entry).adopted =
        { entry with desc := some (book.revise entry.name desc) } := by
  obtain ⟨-, -, desc, -, replacement, hcorrect, rfl⟩ := correction_auditEntry_eq_some_iff.1 h
  obtain ⟨quote, literal, hliteral, -, -, hblank, rfl⟩ := correct?_eq_some_iff.1 hcorrect
  obtain ⟨-, hquote, -⟩ := lineLiteral?_eq_some_iff.1 hliteral
  refine ⟨literal, hblank, ?_⟩
  rw [EntryResult.adopted, h]
  simp only [entry_auditEntry, stringContent_quoted hquote]

/-- Nothing is corrected in a revised description. -/
theorem correct?_quoted_revise (book : Rulebook) (name desc : Text) :
    book.correct? name (Token.quoted (book.revise name desc)) = none := by
  rw [Option.eq_none_iff_forall_ne_some]
  intro replacement h
  obtain ⟨quote, literal, hliteral, -, hchanged, -, -⟩ := correct?_eq_some_iff.1 h
  obtain rfl := literal_of_quoted hliteral
  exact hchanged (revise_of_isSettled (isSettled_revise book name desc))

/-- **One round is enough**: an entry is not corrected again. -/
theorem correction_auditEntry_adopted (book : Rulebook) (entry : Entry) :
    (book.auditEntry true (book.auditEntry true entry).adopted).correction = none := by
  cases h : (book.auditEntry true entry).correction with
  | none =>
    -- the entry has stayed as it was, and so has its result
    have hsame : (book.auditEntry true entry).adopted = entry := by rw [EntryResult.adopted, h]; rfl
    rw [hsame, h]
  | some text =>
    obtain ⟨desc, -, hadopted⟩ := adopted_of_correction h
    rw [hadopted, Option.eq_none_iff_forall_ne_some]
    intro again hagain
    obtain ⟨-, -, _, ⟨⟩, replacement, hcorrect, -⟩ := correction_auditEntry_eq_some_iff.1 hagain
    rw [correct?_quoted_revise] at hcorrect
    cases hcorrect

/-! ## What a second round reports -/

/-- The second round audits a text that has come to rest and is not empty. -/
theorem problems_auditEntry_adopted (h : (book.auditEntry true entry).correction.isSome = true) :
    ∃ text, Step.IsSettled book entry.name text ∧ text ≠ [] ∧
      (book.auditEntry true (book.auditEntry true entry).adopted).problems =
        book.audit entry.kind entry.name (some (Token.quoted text)) := by
  obtain ⟨text, htext⟩ := Option.isSome_iff_exists.1 h
  obtain ⟨desc, hblank, hadopted⟩ := adopted_of_correction htext
  refine ⟨_, isSettled_revise book entry.name desc, ?_, by rw [hadopted]; rfl⟩
  -- a text that is not blank is not empty
  intro hnil
  rw [hnil] at hblank
  exact hblank rfl

/-- **Every rule runs the check of some rule**, its own or that of another. -/
def UsesDefaultChecks (book : Rulebook) : Prop :=
  ∀ rule ∈ book.rules, ∃ id : RuleId, rule.check = id.check?

theorem UsesOwnChecks.usesDefaultChecks (h : book.UsesOwnChecks) : book.UsesDefaultChecks :=
  fun rule hrule => ⟨rule.id, h rule hrule⟩

/-- **What a check finds is out of reach** of corrections: no step shortens a text, and a step that
repairs a rule is left out if the rulebook has no rule of that name. -/
def IsOutOfReach (book : Rulebook) (id : RuleId) : Prop :=
  id = .maxLength ∨ ∃ step, id.repair? = some step ∧ step.isEnabled book = false

/-- A check that finds something in a settled text that is not empty is out of reach. -/
theorem isOutOfReach_of_isSettled {name text : Text} {id : RuleId} {finding : Finding}
    (h : Step.IsSettled book name text) (htext : text ≠ [])
    (hfinding : id.inspect? book.toPolicy name text = some finding) : book.IsOutOfReach id := by
  cases hrepair : id.repair? with
  | none =>
    cases id with
    | maxLength => exact .inl rfl
    | presence => simp [RuleId.inspect?] at hfinding
    | nonEmpty => simp [RuleId.inspect?, htext] at hfinding
    | _ => simp [RuleId.repair?] at hrepair
  | some step =>
    refine .inr ⟨step, hrepair, ?_⟩
    by_contra henabled
    have happly : step.apply book.toPolicy name text = text := by
      rw [← Step.run_of_isEnabled (by simpa using henabled)]
      exact h step
    rw [RuleId.inspect?_of_apply hrepair happly] at hfinding
    cases hfinding

/-- **What is left of the problems of a corrected entry** was found by checks that are out of reach
of corrections. -/
theorem exists_isOutOfReach (hbook : book.UsesDefaultChecks)
    (h : (book.auditEntry true entry).correction.isSome = true) {problem : Problem}
    (hproblem : problem ∈ (book.auditEntry true (book.auditEntry true entry).adopted).problems) :
    ∃ rule ∈ book.rules, problem.rule = rule.id ∧
      ∃ id : RuleId, rule.check = id.check? ∧ book.IsOutOfReach id := by
  obtain ⟨text, hsettled, htext, hproblems⟩ := problems_auditEntry_adopted h
  rw [hproblems] at hproblem
  obtain ⟨rule, hrule, hreport⟩ := exists_rule_of_mem_audit hproblem
  obtain ⟨finding, hfinding, rfl⟩ := Option.map_eq_some_iff.1 hreport
  obtain ⟨id, hid⟩ := hbook rule hrule
  rw [hid, RuleId.check?_some, Token.content_quoted] at hfinding
  exact ⟨rule, hrule, rfl, id, hid, isOutOfReach_of_isSettled hsettled htext hfinding⟩

/-- Where rules run their own checks, all that can be left is that the description is too long. -/
theorem UsesOwnChecks.rule_of_mem_adopted (hbook : book.UsesOwnChecks)
    (h : (book.auditEntry true entry).correction.isSome = true) {problem : Problem}
    (hproblem : problem ∈ (book.auditEntry true (book.auditEntry true entry).adopted).problems) :
    problem.rule = .maxLength := by
  obtain ⟨text, hsettled, htext, hproblems⟩ := problems_auditEntry_adopted h
  rw [hproblems] at hproblem
  rw [← Token.content_quoted text] at hsettled
  rcases hbook.problem_of_isSettled hsettled hproblem with ⟨-, hnil⟩ | hlength
  · exact absurd ((Token.content_quoted text).symm.trans hnil) htext
  · exact hlength

/-! ## Batches and rounds -/

/-- **Batches and rounds.** The results of two batches together are those of one followed by those
of the other, and their totals add up. A batch has problems if an entry has. Asking for corrections
adds these and their number, and nothing is corrected that has no problem. If the corrections are
taken over, a second round corrects nothing, and what it still reports on a corrected entry was
found by checks that are out of reach: where every rule runs its own check, the description is too
long. -/
theorem auditBatch_rounds (book : Rulebook) (fix : Bool) (xs ys : List Entry) :
    (book.auditBatch fix (xs ++ ys)).results =
      (book.auditBatch fix xs).results ++ (book.auditBatch fix ys).results ∧
    (book.auditBatch fix (xs ++ ys)).summary =
      (book.auditBatch fix xs).summary + (book.auditBatch fix ys).summary ∧
    ((book.auditBatch fix xs).hasProblems = true ↔
      ∃ entry ∈ xs, book.audit entry.kind entry.name (entry.desc.map Token.quoted) ≠ []) ∧
    (book.auditBatch true xs).results.map (fun result => { result with correction := none }) =
      (book.auditBatch false xs).results ∧
    { (book.auditBatch true xs).summary with corrected := 0 } =
      (book.auditBatch false xs).summary ∧
    (∀ result ∈ (book.auditBatch fix xs).results,
      result.correction.isSome = true → result.problems ≠ []) ∧
    let first := book.auditBatch true xs
    let second := book.auditBatch true (first.results.map EntryResult.adopted)
    (∀ result ∈ second.results, result.correction = none) ∧
    second.summary.corrected = 0 ∧
    second.results = first.results.map (fun result => book.auditEntry true result.adopted) ∧
    ∀ result ∈ first.results, result.correction.isSome = true →
      ∀ problem ∈ (book.auditEntry true result.adopted).problems,
        (book.UsesDefaultChecks → ∃ rule ∈ book.rules, problem.rule = rule.id ∧
          ∃ id : RuleId, rule.check = id.check? ∧ book.IsOutOfReach id) ∧
        (book.UsesOwnChecks → problem.rule = .maxLength) := by
  have hsecond : ∀ result ∈ (book.auditBatch true
      ((book.auditBatch true xs).results.map EntryResult.adopted)).results,
      result.correction = none := by
    simp only [auditBatch, List.map_map, List.forall_mem_map]
    exact fun entry _ => book.correction_auditEntry_adopted entry
  have hcorrections : (book.auditBatch true xs).results.map
      (fun result => { result with correction := none }) = (book.auditBatch false xs).results := by
    simp only [auditBatch, List.map_map, Function.comp_def, auditEntry_fix]
  have happend := book.auditBatch_append fix xs ys
  refine ⟨by rw [happend], by rw [happend], hasProblems_auditBatch_iff, hcorrections, ?_, ?_,
    hsecond, ?_, ?_, ?_⟩
  · calc { (book.auditBatch true xs).summary with corrected := 0 }
        = summarize ((book.auditBatch true xs).results.map
            fun result => { result with correction := none }) :=
          (summarize_map_correction_none _).symm
      _ = (book.auditBatch false xs).summary := by rw [hcorrections]; rfl
  · simp only [auditBatch, List.forall_mem_map]
    intro entry _ h
    obtain ⟨text, htext⟩ := Option.isSome_iff_exists.1 h
    exact (correction_auditEntry_eq_some_iff.1 htext).2.1
  · refine List.countP_eq_zero.2 fun result hresult => ?_
    rw [hsecond result hresult]
    simp
  · simp only [auditBatch, List.map_map, Function.comp_def]
  · simp only [auditBatch, List.forall_mem_map]
    exact fun entry _ h problem hproblem =>
      ⟨fun hbook => exists_isOutOfReach hbook h hproblem,
        fun hbook => hbook.rule_of_mem_adopted h hproblem⟩

/-- **The checks of other rules make a difference.** In this rulebook the name of one rule stands
for the check of another, which the rulebook lacks: blanks are stripped, the full stop stays, and
the second round reports it. -/
theorem not_forall_rule_of_mem_adopted :
    ¬ ∀ (book : Rulebook) (entries : List Entry), book.UsesDefaultChecks →
      ∀ result ∈ (book.auditBatch true entries).results, result.correction.isSome = true →
        ∀ problem ∈ (book.auditEntry true result.adopted).problems, problem.rule = .maxLength := by
  intro h
  let book : Rulebook := { default with
    rules := [⟨.nonEmpty, RuleId.fullStop.check?, true, RuleId.nonEmpty.template⟩] }
  let entry : Entry := ⟨.formula, "foo".toList, some " Tool.".toList⟩
  have hbook : book.UsesDefaultChecks := fun rule hrule =>
    ⟨.fullStop, by rw [List.mem_singleton.1 hrule]⟩
  have hcorrection : (book.auditEntry true entry).correction = some "\"Tool.\"".toList := by
    decide +kernel
  have hproblem : ⟨.nonEmpty, RuleId.nonEmpty.template, none, some ⟨0, 7⟩⟩ ∈
      (book.auditEntry true (book.auditEntry true entry).adopted).problems := by decide +kernel
  have hrule := h book [entry] hbook _ List.mem_cons_self (by rw [hcorrection]; rfl) _ hproblem
  cases hrule

end Rulebook

end Blurb
