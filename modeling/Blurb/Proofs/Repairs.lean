import Blurb.Proofs.AuditReports
import Blurb.Proofs.Convergence
import Blurb.Proofs.QuotedLiterals

/-! # Rules and the steps that repair them

The rules and the steps are written apart from each other, with searches of their own. A rule that
fires on a text has a step that changes the text, so no rule fires on a text that has come to rest,
save for those that no step repairs.

* `inspect?_of_apply` — a rule is silent on a text that its step leaves alone.
* `inspect?_of_isSettled`, `problem_of_isSettled` — what can be wrong with a settled text.
* `rule_of_mem_audit_correction`, `correct?_of_mem_audit` — a correction audits clean, and whatever
  can be corrected is. -/

namespace Blurb

open Text Phrase

namespace RuleId

/-- **The step that repairs a rule**, for the rules that can be repaired. -/
def repair? : RuleId → Option Step
  | presence | nonEmpty | maxLength => none
  | leadingSpace | trailingSpace => some .stripWhitespace
  | commandLine => some .hyphenateCommandLine
  | indefiniteArticle => some .stripArticle
  | capitalization => some .capitalize
  | selfReference => some .removeName
  | fullStop => some .stripFullStop

/-- A rulebook that has a rule wants the step that repairs it. -/
theorem isEnabled_of_repair? {id : RuleId} {step : Step} {book : Rulebook}
    (hstep : id.repair? = some step) (hbook : book.has id = true) :
    step.isEnabled book = true := by
  cases id <;> simp only [repair?, Option.some.injEq, reduceCtorEq] at hstep <;> subst hstep
  case leadingSpace | trailingSpace => rfl
  case commandLine | indefiniteArticle | capitalization | selfReference | fullStop => exact hbook

variable {policy : Policy} {name content : Text}

/-- A description that the upper-casing leaves alone starts with no small letter, unless its first
word may. -/
theorem inspect?_capitalization (h : Step.capitalize.apply policy name content = content) :
    inspect? policy name content capitalization = none := by
  rw [inspect?]
  refine if_neg fun hfires => ?_
  rw [Bool.and_eq_true, Bool.not_eq_true'] at hfires
  obtain ⟨hallowed, hsmall⟩ := hfires
  have hword : (firstWord content).isEmpty = false := by simpa using firstWord_ne_nil hsmall
  cases content with
  | nil => simp [startsSmall] at hsmall
  | cons c rest =>
    -- the first word starts with the small letter, so the step does put it in upper case
    simp only [Step.apply, hword, hallowed, Bool.or_self, Bool.false_eq_true, if_false,
      capitalize] at h
    refine upper_ne_of_isSmallLetter hsmall ((List.append_left_inj rest).1 ?_)
    rw [h]
    rfl

/-- A description that the removal of the name leaves alone does not start with the name. -/
theorem inspect?_selfReference (h : removeName name content = content) :
    inspect? policy name content selfReference = none := by
  rw [inspect?]
  by_cases hname : name = []
  · rw [hname]
    rfl
  · rw [if_neg (by simpa using hname), Option.map_eq_none_iff, leadingName?]
    split
    · next found rest hs =>
      -- the space behind the name closes the occurrence
      have hclosed : stripClosedName? name content = some ([' '], rest) := by
        rw [stripClosedName?, hs]
        exact if_pos (by decide)
      have hless := footholds_removeName_lt hname hclosed
      rw [h] at hless
      exact absurd hless (Nat.lt_irrefl _)
    · rfl

/-- **A rule is silent on a text that its step leaves alone.** -/
theorem inspect?_of_apply {id : RuleId} {step : Step} (hstep : id.repair? = some step)
    (h : step.apply policy name content = content) : id.inspect? policy name content = none := by
  cases id <;> simp only [repair?, Option.some.injEq, reduceCtorEq] at hstep <;> subst hstep
  case leadingSpace => simp [inspect?, (trim_eq_self_iff.1 h).1]
  case trailingSpace => simp [inspect?, (trim_eq_self_iff.1 h).2]
  case commandLine =>
    rw [inspect?, Option.map_eq_none_iff, ← h]
    exact findCommandLine?_hyphenate content
  case indefiniteArticle => rw [inspect?, dropArticle_eq_self_iff.1 h, Option.map_none]
  case capitalization => exact inspect?_capitalization h
  case selfReference => exact inspect?_selfReference h
  case fullStop => simp [inspect?, dropFullStop_eq_self_iff.1 h]

end RuleId

namespace Rulebook

variable {book : Rulebook} {name : Text}

/-- **The rules that can fire on a settled text**: of those that the rulebook has, the ones that ask
for a text at all and for one that is not too long. -/
theorem inspect?_of_isSettled {text : Text} {id : RuleId} (h : Step.IsSettled book name text)
    (hbook : book.has id = true) (hempty : id ≠ .nonEmpty) (hlength : id ≠ .maxLength) :
    id.inspect? book.toPolicy name text = none := by
  cases hrepair : id.repair? with
  | none =>
    cases id with
    | presence => rfl
    | nonEmpty => exact absurd rfl hempty
    | maxLength => exact absurd rfl hlength
    | _ => simp [RuleId.repair?] at hrepair
  | some step =>
    refine RuleId.inspect?_of_apply hrepair ?_
    rw [← Step.run_of_isEnabled (RuleId.isEnabled_of_repair? hrepair hbook)]
    exact h step

/-- **The problems of a settled description**: it is empty, or it is too long. -/
theorem UsesOwnChecks.problem_of_isSettled {token : Token} {kind : Kind} {problem : Problem}
    (hchecks : book.UsesOwnChecks) (h : Step.IsSettled book name token.content)
    (hproblem : problem ∈ book.audit kind name (some token)) :
    problem.rule = .nonEmpty ∧ token.content = [] ∨ problem.rule = .maxLength := by
  obtain ⟨hbook, finding, hfinding⟩ := hchecks.exists_finding hproblem
  by_cases hlength : problem.rule = .maxLength
  · exact Or.inr hlength
  by_cases hempty : problem.rule = .nonEmpty
  · left
    rw [hempty, RuleId.inspect?] at hfinding
    split at hfinding
    · next hnil => exact ⟨hempty, List.isEmpty_iff.1 hnil⟩
    · simp at hfinding
  · rw [inspect?_of_isSettled h hbook hempty hlength] at hfinding
    simp at hfinding

/-- **What a correction is**: the revised literal of the token between the same quotes, which is
neither the literal itself nor blank. -/
theorem correct?_eq_some_iff {token : Token} {replacement : Replacement} :
    book.correct? name token = some replacement ↔
      ∃ quote literal, lineLiteral? token.source = some (quote, literal) ∧
        book.passes name token = false ∧ book.revise name literal ≠ literal ∧
        trim (book.revise name literal) ≠ [] ∧
        replacement = ⟨token.span, quote :: book.revise name literal ++ [quote]⟩ := by
  rw [correct?]
  cases hliteral : lineLiteral? token.source with
  | none => simp
  | some parts =>
    obtain ⟨quote, literal⟩ := parts
    cases hpasses : book.passes name token with
    | true => simp
    | false =>
      simp only [Bool.false_eq_true, if_false, Option.some.injEq, Prod.mk.injEq, true_and]
      constructor
      · intro h
        split at h
        · simp at h
        · next hnot =>
          rw [not_or, List.isEmpty_iff] at hnot
          exact ⟨quote, literal, ⟨rfl, rfl⟩, hnot.1, hnot.2, (Option.some.inj h).symm⟩
      · rintro ⟨_, _, ⟨rfl, rfl⟩, hchanged, hblank, rfl⟩
        refine if_neg ?_
        rw [not_or, List.isEmpty_iff]
        exact ⟨hchanged, hblank⟩

/-- **A correction audits clean.** Under a rulebook whose rules run their own checks, the audit of a
token made from a correction has no problem but that the description is too long. -/
theorem rule_of_mem_audit_correction {token : Token} {replacement : Replacement}
    (hchecks : book.UsesOwnChecks) (hcorrect : book.correct? name token = some replacement)
    (kind : Kind) :
    ∀ problem ∈ book.audit kind name (some (Token.ofSource replacement.text)),
      problem.rule = .maxLength := by
  intro problem hproblem
  obtain ⟨quote, literal, hliteral, -, -, hblank, rfl⟩ := correct?_eq_some_iff.1 hcorrect
  obtain ⟨-, hquote, -⟩ := lineLiteral?_eq_some_iff.1 hliteral
  have hcontent : (Token.ofSource (quote :: book.revise name literal ++ [quote])).content =
      book.revise name literal := stringContent_quoted hquote _
  have hsettled := isSettled_revise book name literal
  rw [← hcontent] at hsettled
  rcases hchecks.problem_of_isSettled hsettled hproblem with ⟨-, hnil⟩ | hlength
  · -- a text that is not blank is not empty
    rw [hcontent] at hnil
    rw [hnil] at hblank
    exact absurd rfl hblank
  · exact hlength

/-- Here the corrected text is too long, and nothing else is wrong with it. -/
theorem rule_of_mem_audit_correction_tool :
    default.correct? "foo".toList (Token.quoted ("a foo command line tool to convert text " ++
        "between many encodings and kinds of line endings.").toList) =
      some ⟨⟨0, 91⟩, ("\"Command-line tool to convert text between " ++
        "many encodings and kinds of line endings\"").toList⟩ ∧
    default.audit .formula "foo".toList (some (Token.ofSource
        ("\"Command-line tool to convert text between " ++
          "many encodings and kinds of line endings\"").toList)) ≠ [] ∧
    ∀ problem ∈ default.audit .formula "foo".toList (some (Token.ofSource
        ("\"Command-line tool to convert text between " ++
          "many encodings and kinds of line endings\"").toList)), problem.rule = .maxLength := by
  have h : default.correct? "foo".toList (Token.quoted ("a foo command line tool to convert " ++
        "text between many encodings and kinds of line endings.").toList) =
      some ⟨⟨0, 91⟩, ("\"Command-line tool to convert text between " ++
        "many encodings and kinds of line endings\"").toList⟩ ∧
      default.audit .formula "foo".toList (some (Token.ofSource
        ("\"Command-line tool to convert text between " ++
          "many encodings and kinds of line endings\"").toList)) ≠ [] := by decide +kernel
  exact ⟨h.1, h.2, rule_of_mem_audit_correction usesOwnChecks_default h.1 .formula⟩

/-- **Whatever can be corrected is.** If the audit of a quoted literal on one line has a problem
that a step repairs, the literal is replaced by its revision, unless that is blank. -/
theorem correct?_of_mem_audit {quote : Char} {literal : Text} {span : Span} {kind : Kind}
    {problem : Problem} (hchecks : book.UsesOwnChecks) (hquote : isQuote quote = true)
    (hline : '\n' ∉ literal)
    (hproblem : problem ∈ book.audit kind name (some ⟨quote :: literal ++ [quote], span⟩))
    (hempty : problem.rule ≠ .nonEmpty) (hlength : problem.rule ≠ .maxLength)
    (hblank : trim (book.revise name literal) ≠ []) :
    book.correct? name ⟨quote :: literal ++ [quote], span⟩ =
      some ⟨span, quote :: book.revise name literal ++ [quote]⟩ := by
  have hcontent : Token.content ⟨quote :: literal ++ [quote], span⟩ = literal :=
    stringContent_quoted hquote literal
  have hchanged : book.revise name literal ≠ literal := by
    intro hsame
    -- a literal that comes back is settled, and then the rule would not have fired
    have hsettled : Step.IsSettled book name literal := hsame ▸ isSettled_revise book name literal
    rw [← hcontent] at hsettled
    rcases hchecks.problem_of_isSettled hsettled hproblem with ⟨hrule, -⟩ | hrule
    · exact hempty hrule
    · exact hlength hrule
  exact correct?_eq_some_iff.2 ⟨quote, literal, lineLiteral?_eq_some_iff.2 ⟨rfl, hquote, hline⟩,
    passes_eq_false_of_mem_audit hproblem, hchanged, hblank, rfl⟩

/-- The full stop is a problem, and the literal is not blank without it. -/
theorem correct?_of_mem_audit_tool :
    ⟨.fullStop, "Description shouldn't end with a full stop.".toList, none, some ⟨3, 10⟩⟩ ∈
      default.audit .cask "foo".toList (some ⟨"'Tool.'".toList, ⟨3, 10⟩⟩) ∧
    trim (default.revise "foo".toList "Tool.".toList) ≠ [] ∧
    default.correct? "foo".toList ⟨"'Tool.'".toList, ⟨3, 10⟩⟩ =
      some ⟨⟨3, 10⟩, '\'' :: default.revise "foo".toList "Tool.".toList ++ ['\'']⟩ := by
  have h : ⟨.fullStop, "Description shouldn't end with a full stop.".toList, none, some ⟨3, 10⟩⟩ ∈
        default.audit .cask "foo".toList (some ⟨"'Tool.'".toList, ⟨3, 10⟩⟩) ∧
      trim (default.revise "foo".toList "Tool.".toList) ≠ [] := by decide +kernel
  exact ⟨h.1, h.2, correct?_of_mem_audit usesOwnChecks_default (by decide) (by decide) h.1
    (by decide) (by decide) h.2⟩

end Rulebook

end Blurb
