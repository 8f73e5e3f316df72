import Blurb.Description.Audit

/-! # What an audit reports

Every problem of an audit is the report of a rule that fired. Under a rulebook whose rules run the
checks of their own names, the name of a problem says which check that was.

* `auditRules_append`, `auditRules_eq_filterMap` — without a fatal report, all rules that fire are
  reported.
* `auditRules_eq_map` — two audits by the same rules.
* `exists_rule_of_mem_audit` — where a problem comes from.
* `UsesOwnChecks` — the rules run the checks of their own names; disabling rules keeps that.
* `UsesOwnChecks.exists_finding` — a problem under such a rulebook is a finding of its own rule. -/

namespace Blurb.Rulebook

variable {book : Rulebook} {kind : Kind} {name : Text} {token : Option Token} {problem : Problem}

/-- A rulebook has the rule of each of its entries. -/
theorem has_of_mem {rule : Rule} (h : rule ∈ book.rules) : book.has rule.id = true :=
  List.any_eq_true.2 ⟨rule, h, beq_self_eq_true _⟩

theorem auditRules_cons_of_none {rule : Rule} (rules : List Rule)
    (h : book.problem? kind name token rule = none) :
    book.auditRules kind name token (rule :: rules) = book.auditRules kind name token rules := by
  rw [auditRules, h]

theorem auditRules_cons_of_some {rule : Rule} (rules : List Rule)
    (h : book.problem? kind name token rule = some problem) :
    book.auditRules kind name token (rule :: rules) =
      if rule.fatal then [problem] else problem :: book.auditRules kind name token rules := by
  rw [auditRules, h]

/-- Rules among which no fatal one fires report all that fire, and the audit goes on behind them. -/
theorem auditRules_append {before : List Rule} (rest : List Rule)
    (h : ∀ rule ∈ before, rule.fatal = true → book.problem? kind name token rule = none) :
    book.auditRules kind name token (before ++ rest) =
      before.filterMap (book.problem? kind name token) ++
        book.auditRules kind name token rest := by
  induction before with
  | nil => rfl
  | cons rule before ih =>
    rw [List.forall_mem_cons] at h
    rw [List.cons_append]
    cases hreport : book.problem? kind name token rule with
    | none =>
      rw [auditRules_cons_of_none _ hreport, List.filterMap_cons_none hreport, ih h.2]
    | some report =>
      have hfatal : ¬ rule.fatal = true := fun hfatal => by simp [h.1 hfatal] at hreport
      rw [auditRules_cons_of_some _ hreport, if_neg hfatal, ih h.2,
        List.filterMap_cons_some hreport, List.cons_append]

/-- Where no fatal rule fires, every rule that fires is reported. -/
theorem auditRules_eq_filterMap {rules : List Rule}
    (h : ∀ rule ∈ rules, rule.fatal = true → book.problem? kind name token rule = none) :
    book.auditRules kind name token rules =
      rules.filterMap (book.problem? kind name token) := by
  have happend := auditRules_append [] h
  rwa [List.append_nil, auditRules, List.append_nil] at happend

/-- **Two audits by the same rules** differ as the reports of the single rules do. -/
theorem auditRules_eq_map {other : Text} {otherToken : Option Token} {rules : List Rule}
    (f : Problem → Problem)
    (h : ∀ rule ∈ rules, book.problem? kind other otherToken rule =
      (book.problem? kind name token rule).map f) :
    book.auditRules kind other otherToken rules =
      (book.auditRules kind name token rules).map f := by
  induction rules with
  | nil => rfl
  | cons rule rules ih =>
    obtain ⟨hrule, hrules⟩ := List.forall_mem_cons.1 h
    cases hreport : book.problem? kind name token rule with
    | none =>
      rw [hreport, Option.map_none] at hrule
      rw [auditRules_cons_of_none rules hrule, auditRules_cons_of_none rules hreport, ih hrules]
    | some problem =>
      rw [hreport, Option.map_some] at hrule
      rw [auditRules_cons_of_some rules hrule, auditRules_cons_of_some rules hreport, ih hrules]
      -- the rule is fatal in both audits or in neither
      split <;> rfl

/-- The problems of a list of rules are reports of these rules, whether a fatal one ends it or
not. -/
theorem exists_rule_of_mem_auditRules {rules : List Rule}
    (h : problem ∈ book.auditRules kind name token rules) :
    ∃ rule ∈ rules, book.problem? kind name token rule = some problem := by
  induction rules with
  | nil => simp [auditRules] at h
  | cons rule rules ih =>
    have hlater : problem ∈ book.auditRules kind name token rules →
        ∃ other ∈ rule :: rules, book.problem? kind name token other = some problem := by
      intro hmem
      obtain ⟨other, hother, hproblem⟩ := ih hmem
      exact ⟨other, List.mem_cons_of_mem rule hother, hproblem⟩
    cases hreport : book.problem? kind name token rule with
    | none =>
      rw [auditRules_cons_of_none rules hreport] at h
      exact hlater h
    | some report =>
      rw [auditRules_cons_of_some rules hreport] at h
      by_cases hfatal : rule.fatal = true
      · rw [if_pos hfatal, List.mem_singleton] at h
        exact ⟨rule, List.mem_cons_self, h ▸ hreport⟩
      · rw [if_neg hfatal, List.mem_cons] at h
        rcases h with rfl | h
        · exact ⟨rule, List.mem_cons_self, hreport⟩
        · exact hlater h

/-- **Where a problem comes from**: a rule of the rulebook reported it. -/
theorem exists_rule_of_mem_audit (h : problem ∈ book.audit kind name token) :
    ∃ rule ∈ book.rules, book.problem? kind name token rule = some problem :=
  exists_rule_of_mem_auditRules h

/-- A description with a problem does not pass. -/
theorem passes_eq_false_of_mem_audit {token : Token}
    (h : problem ∈ book.audit kind name (some token)) : book.passes name token = false := by
  obtain ⟨rule, hrule, hproblem⟩ := exists_rule_of_mem_audit h
  obtain ⟨finding, hfinding, -⟩ := Option.map_eq_some_iff.1 hproblem
  rw [passes, List.all_eq_false]
  refine ⟨rule, hrule, ?_⟩
  rw [hfinding]
  simp

/-- **Every rule runs the check of its own name.** Which rules there are, in which order, how often
and which of them are fatal is open. -/
def UsesOwnChecks (book : Rulebook) : Prop := ∀ rule ∈ book.rules, rule.check = rule.id.check?

theorem usesOwnChecks_default : default.UsesOwnChecks := by
  intro rule hrule
  obtain ⟨id, -, rfl⟩ := List.mem_map.1 hrule
  rfl

/-- The default rulebook with another limit. -/
def withMaxLength (limit : Nat) : Rulebook := { default with maxLength := limit }

theorem usesOwnChecks_withMaxLength (limit : Nat) : (withMaxLength limit).UsesOwnChecks :=
  fun rule hrule => usesOwnChecks_default rule hrule

theorem UsesOwnChecks.without (h : book.UsesOwnChecks) (disabled : List RuleId) :
    (book.without disabled).UsesOwnChecks := by
  intro rule hrule
  rw [rules_without] at hrule
  exact h rule (List.mem_filter.1 hrule).1

/-- **A problem with a description is a finding of its own rule**, which the rulebook has. -/
theorem UsesOwnChecks.exists_finding (h : book.UsesOwnChecks) {token : Token}
    (hproblem : problem ∈ book.audit kind name (some token)) :
    book.has problem.rule = true ∧
      ∃ finding, problem.rule.inspect? book.toPolicy name token.content = some finding := by
  obtain ⟨rule, hrule, hreport⟩ := exists_rule_of_mem_audit hproblem
  obtain ⟨finding, hfinding, rfl⟩ := Option.map_eq_some_iff.1 hreport
  refine ⟨has_of_mem hrule, finding, ?_⟩
  rwa [h rule hrule, RuleId.check?_some] at hfinding

end Blurb.Rulebook
