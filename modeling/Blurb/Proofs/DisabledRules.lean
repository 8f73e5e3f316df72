import Blurb.Config
import Blurb.Proofs.DocumentedRules

/-! # Disabled rules

An audit hears the rules of its rulebook one after the other, up to the first fatal rule that fires.
Disabling rules takes away their own reports and leaves those of the others as they are. More is
reported only where the rule that stopped the audit is disabled itself: the audit then goes on
behind it.

* `Rulebook.Hears` — how far an audit gets; `Rulebook.Hears.audit_eq` — what it reports.
* `Rulebook.Hears.audit_without`, `Rulebook.Hears.audit_without_of_lifted` — the audit under the
  rulebook without some rules.
* `DescSection.rulebook_eq_ok_iff` — a configuration disables rules of the default rulebook.
* `Rulebook.audit_of_disabling` — all of it together. -/

namespace Blurb

namespace Rulebook

variable {book : Rulebook} {kind : Kind} {name : Text} {token : Option Token} {rule : Rule}
  {disabled : List RuleId}

/-! ## How far an audit gets -/

/-- The rule fires on the description of an item. -/
def fires (book : Rulebook) (name : Text) (token : Option Token) (rule : Rule) : Bool :=
  (rule.check book.toPolicy name token).isSome

/-- **An audit stops at a rule** that is fatal and fires. -/
def stopsAt (book : Rulebook) (name : Text) (token : Option Token) (rule : Rule) : Bool :=
  rule.fatal && book.fires name token rule

/-- **The rules that an audit hears**, and those that it does not hear any more. -/
inductive Hears (book : Rulebook) (name : Text) (token : Option Token) :
    List Rule → List Rule → Prop where
  /-- It hears all rules, as it stops at none of them. -/
  | all (goesOn : ∀ rule ∈ book.rules, book.stopsAt name token rule = false) :
    Hears book name token book.rules []
  /-- It hears the rules up to and including the first that it stops at. -/
  | upTo {before after : List Rule} {rule : Rule} (rules_eq : book.rules = before ++ rule :: after)
    (goesOn : ∀ earlier ∈ before, book.stopsAt name token earlier = false)
    (stops : book.stopsAt name token rule = true) : Hears book name token (before ++ [rule]) after

theorem exists_hears (book : Rulebook) (name : Text) (token : Option Token) :
    ∃ heard unheard, book.Hears name token heard unheard := by
  cases hstop : book.rules.find? (book.stopsAt name token) with
  | none =>
    refine ⟨_, _, .all fun rule hrule => ?_⟩
    simpa using List.find?_eq_none.1 hstop rule hrule
  | some rule =>
    obtain ⟨hrule, before, after, hrules, hbefore⟩ := List.find?_eq_some_iff_append.1 hstop
    exact ⟨_, _, .upTo hrules (by simpa using hbefore) hrule⟩

/-! ## What an audit reports -/

variable (kind) in
theorem problem?_eq_none_iff :
    book.problem? kind name token rule = none ↔ book.fires name token rule = false := by
  rw [problem?, Option.map_eq_none_iff, fires, Option.isSome_eq_false_iff,
    Option.isNone_iff_eq_none]

/-- A problem is reported under the name of its rule. -/
theorem rule_of_problem? {problem : Problem}
    (h : book.problem? kind name token rule = some problem) : problem.rule = rule.id := by
  obtain ⟨finding, -, rfl⟩ := Option.map_eq_some_iff.1 h
  rfl

variable (kind) in
/-- A fatal rule that an audit does not stop at reports nothing. -/
theorem problem?_of_stopsAt (h : book.stopsAt name token rule = false)
    (hfatal : rule.fatal = true) :
    book.problem? kind name token rule = none := by
  rw [stopsAt, hfatal, Bool.true_and] at h
  exact (problem?_eq_none_iff kind).2 h

variable (kind) in
/-- A rule that an audit stops at has its report, and nothing is reported behind it. -/
theorem auditRules_of_stopsAt (h : book.stopsAt name token rule = true) (after : List Rule) :
    ∃ problem, book.problem? kind name token rule = some problem ∧
      book.auditRules kind name token (rule :: after) = [problem] := by
  rw [stopsAt, Bool.and_eq_true] at h
  obtain ⟨finding, hfinding⟩ := Option.isSome_iff_exists.1 h.2
  have hproblem : book.problem? kind name token rule = some ⟨rule.id,
      renderMessage book.toPolicy kind finding rule.template, finding.matched,
      token.map (·.span)⟩ := by rw [problem?, hfinding, Option.map_some]
  exact ⟨_, hproblem, by rw [auditRules_cons_of_some after hproblem, if_pos h.1]⟩

/-- **An audit reports one problem for each rule that fires**, among the rules that it hears. -/
theorem Hears.audit_eq {heard unheard : List Rule} (h : book.Hears name token heard unheard)
    (kind : Kind) :
    book.audit kind name token = heard.filterMap (book.problem? kind name token) := by
  cases h with
  | all goesOn =>
    exact auditRules_eq_filterMap fun rule hrule => problem?_of_stopsAt kind (goesOn rule hrule)
  | @upTo before after rule rules_eq goesOn stops =>
    obtain ⟨problem, hproblem, hlast⟩ := auditRules_of_stopsAt kind stops unheard
    rw [audit, rules_eq,
      auditRules_append _ fun rule hrule => problem?_of_stopsAt kind (goesOn rule hrule), hlast,
      List.filterMap_append, List.filterMap_cons_some hproblem, List.filterMap_nil]

variable (kind) in
/-- A description passes exactly if its audit has no problem: the two interpret the rulebook
alike. -/
theorem passes_iff_audit_eq_nil {token : Token} :
    book.passes name token = true ↔ book.audit kind name (some token) = [] := by
  have hquiet : book.passes name token = true ↔
      ∀ rule ∈ book.rules, book.fires name (some token) rule = false := by
    simp only [passes, List.all_eq_true, fires, Option.isSome_eq_false_iff]
  rw [hquiet]
  constructor
  · intro h
    have hgoesOn : ∀ rule ∈ book.rules, book.stopsAt name (some token) rule = false :=
      fun rule hrule => by rw [stopsAt, h rule hrule, Bool.and_false]
    rw [(Hears.all hgoesOn).audit_eq kind, List.filterMap_eq_nil_iff]
    exact fun rule hrule => (problem?_eq_none_iff kind).2 (h rule hrule)
  · intro h
    obtain ⟨heard, unheard, hheard⟩ := book.exists_hears name (some token)
    rw [hheard.audit_eq kind, List.filterMap_eq_nil_iff] at h
    -- an audit without problems has heard all rules, as the rule that stops it reports
    cases hheard with
    | all => exact fun rule hrule => (problem?_eq_none_iff kind).1 (h rule hrule)
    | @upTo before after rule _ _ stops =>
      have hnone := h rule (by simp)
      obtain ⟨problem, hproblem, -⟩ := auditRules_of_stopsAt kind stops []
      rw [hproblem] at hnone
      cases hnone

/-- The kind of the item shows in the messages alone. -/
theorem map_erase_message_audit (kind other : Kind) :
    (book.audit kind name token).map (fun problem => { problem with message := [] }) =
      (book.audit other name token).map (fun problem => { problem with message := [] }) := by
  obtain ⟨heard, unheard, hheard⟩ := book.exists_hears name token
  have hproblem (kind : Kind) (rule : Rule) :
      (book.problem? kind name token rule).map (fun problem => { problem with message := [] }) =
        (rule.check book.toPolicy name token).map fun finding =>
          ⟨rule.id, [], finding.matched, token.map (·.span)⟩ := by
    rw [problem?, Option.map_map]
    rfl
  simp only [hheard.audit_eq, List.map_filterMap, hproblem]

/-! ## The audit without some rules -/

/-- The problems that remain of an audit when those of some rules are taken away. -/
def remaining (disabled : List RuleId) (problems : List Problem) : List Problem :=
  problems.filter fun problem => !disabled.contains problem.rule

/-- The rules that remain of a list. -/
def enabled (disabled : List RuleId) (rules : List Rule) : List Rule :=
  rules.filter fun rule => !disabled.contains rule.id

/-- Taking problems away is disabling the rules that report them. -/
theorem remaining_filterMap (kind : Kind) (disabled : List RuleId) (rules : List Rule) :
    remaining disabled (rules.filterMap (book.problem? kind name token)) =
      (enabled disabled rules).filterMap (book.problem? kind name token) := by
  rw [remaining, enabled, List.filter_filterMap, List.filterMap_filter]
  refine List.filterMap_congr fun rule _ => ?_
  cases hproblem : book.problem? kind name token rule with
  | none => simp
  | some problem => rw [Option.filter_some, rule_of_problem? hproblem]

/-- **A stop is lifted**: the last problem of the audit comes from a fatal rule that is
disabled. -/
def IsLifted (book : Rulebook) (kind : Kind) (name : Text) (token : Option Token)
    (disabled : List RuleId) : Prop :=
  ∃ rule ∈ book.rules, rule.fatal = true ∧ rule.id ∈ disabled ∧
    ∃ problem, (book.audit kind name token).getLast? = some problem ∧
      book.problem? kind name token rule = some problem

theorem enabled_append (disabled : List RuleId) (before after : List Rule) :
    enabled disabled (before ++ after) = enabled disabled before ++ enabled disabled after :=
  List.filter_append ..

theorem enabled_cons_of_mem (h : rule.id ∈ disabled) (rules : List Rule) :
    enabled disabled (rule :: rules) = enabled disabled rules :=
  List.filter_cons_of_neg (by simpa using h)

theorem enabled_cons_of_not_mem (h : rule.id ∉ disabled) (rules : List Rule) :
    enabled disabled (rule :: rules) = rule :: enabled disabled rules :=
  List.filter_cons_of_pos (by simpa using h)

/-- An audit that stops at no rule has no stop to be lifted. -/
theorem not_isLifted_of_goesOn
    (goesOn : ∀ rule ∈ book.rules, book.stopsAt name token rule = false) :
    ¬ book.IsLifted kind name token disabled := by
  rintro ⟨rule, hrule, hfatal, -, problem, -, hproblem⟩
  rw [problem?_of_stopsAt kind (goesOn rule hrule) hfatal] at hproblem
  cases hproblem

/-- The stop of an audit is lifted exactly if the rule that it stops at is disabled. -/
theorem isLifted_iff_of_stopsAt {before after : List Rule}
    (rules_eq : book.rules = before ++ rule :: after)
    (goesOn : ∀ earlier ∈ before, book.stopsAt name token earlier = false)
    (stops : book.stopsAt name token rule = true) :
    book.IsLifted kind name token disabled ↔ rule.id ∈ disabled := by
  obtain ⟨problem, hproblem, -⟩ := auditRules_of_stopsAt kind stops []
  have hlast : (book.audit kind name token).getLast? = some problem := by
    rw [(Hears.upTo rules_eq goesOn stops).audit_eq kind, List.filterMap_append,
      List.filterMap_cons_some hproblem, List.filterMap_nil, List.getLast?_concat]
  constructor
  · rintro ⟨other, -, -, hdisabled, last, hmem, hother⟩
    -- both rules report the last problem, so they have the same name
    obtain rfl : problem = last := Option.some.inj (hlast.symm.trans hmem)
    rwa [← rule_of_problem? hproblem, rule_of_problem? hother]
  · intro hdisabled
    rw [stopsAt, Bool.and_eq_true] at stops
    exact ⟨rule, by simp [rules_eq], stops.1, hdisabled, problem, hlast, hproblem⟩

/-- **An audit stops at the same rule** under the rulebook without some others. -/
theorem Hears.without {heard unheard : List Rule} (h : book.Hears name token heard unheard)
    (hstop : ¬ book.IsLifted kind name token disabled) :
    (book.without disabled).Hears name token (enabled disabled heard)
      (enabled disabled unheard) := by
  cases h with
  | all goesOn => exact .all fun rule hrule => goesOn rule (List.mem_filter.1 hrule).1
  | @upTo before after rule rules_eq goesOn stops =>
    have hkept := mt (isLifted_iff_of_stopsAt rules_eq goesOn stops).2 hstop
    have hheard : enabled disabled (before ++ [rule]) = enabled disabled before ++ [rule] := by
      rw [enabled_append, enabled_cons_of_not_mem hkept]
      rfl
    rw [hheard]
    refine .upTo ?_ (fun earlier hmem => goesOn earlier (List.mem_filter.1 hmem).1) stops
    rw [← enabled_cons_of_not_mem hkept, ← enabled_append, ← rules_eq]
    rfl

/-- **Without some rules, their problems are missing and the others are reported as before**, unless
a stop is lifted. -/
theorem audit_without_of_not_lifted (hstop : ¬ book.IsLifted kind name token disabled) :
    (book.without disabled).audit kind name token =
      remaining disabled (book.audit kind name token) := by
  obtain ⟨heard, unheard, hheard⟩ := book.exists_hears name token
  rw [(hheard.without hstop).audit_eq kind, hheard.audit_eq kind, remaining_filterMap]
  rfl

/-- **Where a stop is lifted, the audit goes on behind it.** -/
theorem Hears.audit_without_of_lifted {heard unheard : List Rule}
    (h : book.Hears name token heard unheard)
    (hstop : book.IsLifted kind name token disabled) :
    (book.without disabled).audit kind name token =
      remaining disabled (book.audit kind name token) ++
        (book.without disabled).auditRules kind name token (enabled disabled unheard) := by
  rw [h.audit_eq kind, remaining_filterMap]
  cases h with
  | all goesOn => exact absurd hstop (not_isLifted_of_goesOn goesOn)
  | @upTo before after rule rules_eq goesOn stops =>
    have hdisabled := (isLifted_iff_of_stopsAt rules_eq goesOn stops).1 hstop
    have hrules : (book.without disabled).rules =
        enabled disabled before ++ enabled disabled unheard := by
      rw [rules_without, rules_eq, ← enabled, enabled_append, enabled_cons_of_mem hdisabled]
    have hquiet : ∀ earlier ∈ enabled disabled before, earlier.fatal = true →
        (book.without disabled).problem? kind name token earlier = none := fun earlier hmem =>
      problem?_of_stopsAt kind (goesOn earlier (List.mem_filter.1 hmem).1)
    rw [audit, hrules, auditRules_append _ hquiet, enabled_append, enabled_cons_of_mem hdisabled,
      enabled, enabled, enabled, List.filter_nil, List.append_nil]
    rfl

end Rulebook

/-! ## Disabling rules in a configuration -/

namespace RuleId

theorem ofLabel?_eq_some_iff {label : Text} {id : RuleId} :
    ofLabel? label = some id ↔ label = id.label := by
  constructor
  · intro h
    exact (beq_iff_eq.1 (List.find?_some (p := fun id : RuleId => id.label == label) h)).symm
  · rintro rfl
    cases id <;> decide

theorem ofLabel?_eq_none_iff {label : Text} :
    ofLabel? label = none ↔ ∀ id : RuleId, label ≠ id.label := by
  rw [Option.eq_none_iff_forall_ne_some]
  exact forall_congr' fun id => not_congr ofLabel?_eq_some_iff

end RuleId

/-- The names that a configuration gives are read as those of rules. -/
theorem ruleIds_eq_ok_iff {names : List Text} {ids : List RuleId} :
    ruleIds names = .ok ids ↔ names = ids.map RuleId.label := by
  induction names generalizing ids with
  | nil => cases ids <;> simp [ruleIds]
  | cons name names ih =>
    rw [ruleIds]
    cases ids with
    | nil => cases RuleId.ofLabel? name <;> cases ruleIds names <;> simp
    | cons id ids =>
      rw [List.map_cons, List.cons.injEq, ← ih, ← RuleId.ofLabel?_eq_some_iff]
      cases RuleId.ofLabel? name <;> cases ruleIds names <;> simp

namespace DescSection

/-- What a configuration tunes the checks by. -/
def policy (section_ : DescSection) : Policy where
  lowercaseWords := section_.lowercaseWords.getD Rulebook.defaultLowercaseWords
  maxLength := section_.maxLength.getD Rulebook.defaultMaxLength

/-- **A configuration disables rules of the default rulebook**, those that it names. -/
theorem rulebook_eq_ok_iff {section_ : DescSection} {book : Rulebook} :
    section_.rulebook = .ok book ↔ ∃ disabled : List RuleId,
      section_.disable = disabled.map RuleId.label ∧
        book = (Rulebook.ofPolicy section_.policy).without disabled := by
  rw [rulebook]
  cases hids : ruleIds section_.disable with
  | error fault =>
    simp only [reduceCtorEq, false_iff]
    rintro ⟨disabled, hnames, -⟩
    rw [ruleIds_eq_ok_iff.2 hnames] at hids
    cases hids
  | ok disabled =>
    simp only [Except.ok.injEq]
    constructor
    · rintro rfl
      exact ⟨disabled, ruleIds_eq_ok_iff.1 hids, rfl⟩
    · rintro ⟨others, hnames, rfl⟩
      rw [ruleIds_eq_ok_iff.2 hnames] at hids
      obtain rfl := Except.ok.inj hids
      rfl

end DescSection

/-! ## Audits and what disabling rules does to them -/

namespace Rulebook

/-- **An audit, and what disabling rules does to it.** An audit has one problem for each rule that
fires among those that it hears: all of them, or those up to and including the first fatal one that
fires. A description passes exactly if its audit has no problem, and the kind of the item shows in
the messages alone. Without some rules, the problems of the others come first and as before, and
they are all there is, unless a stop is lifted: then come those of the rules behind the stop. A
configuration does nothing else to the default rules. -/
theorem audit_of_disabling (book : Rulebook) (name : Text) (token : Option Token)
    (disabled : List RuleId) :
    (∃ heard unheard, book.Hears name token heard unheard ∧
      ∀ kind,
        (book.audit kind name token = heard.filterMap fun rule =>
          (rule.check book.toPolicy name token).map fun finding =>
            { rule := rule.id
              message := renderMessage book.toPolicy kind finding rule.template
              matched := finding.matched
              span := token.map (·.span) }) ∧
        (book.IsLifted kind name token disabled →
          (book.without disabled).audit kind name token =
            remaining disabled (book.audit kind name token) ++
              (book.without disabled).auditRules kind name token (enabled disabled unheard))) ∧
    (∀ (kind : Kind) (given : Token),
      book.passes name given = true ↔ book.audit kind name (some given) = []) ∧
    (∀ kind other : Kind,
      (book.audit kind name token).map (fun problem => { problem with message := [] }) =
        (book.audit other name token).map (fun problem => { problem with message := [] })) ∧
    (∀ kind : Kind,
      remaining disabled (book.audit kind name token) <+:
          (book.without disabled).audit kind name token ∧
        (¬ book.IsLifted kind name token disabled →
          remaining disabled (book.audit kind name token) =
            (book.without disabled).audit kind name token)) ∧
    (∀ (section_ : DescSection) (configured : Rulebook),
      section_.rulebook = .ok configured ↔ ∃ disabled : List RuleId,
        section_.disable = disabled.map RuleId.label ∧
          configured = (ofPolicy section_.policy).without disabled) := by
  obtain ⟨heard, unheard, hheard⟩ := book.exists_hears name token
  refine ⟨⟨heard, unheard, hheard, fun kind =>
      ⟨hheard.audit_eq kind, hheard.audit_without_of_lifted⟩⟩,
    fun kind _ => passes_iff_audit_eq_nil kind, map_erase_message_audit, fun kind => ⟨?_, ?_⟩,
    fun _ _ => DescSection.rulebook_eq_ok_iff⟩
  · by_cases hstop : book.IsLifted kind name token disabled
    · rw [hheard.audit_without_of_lifted hstop]
      exact List.prefix_append ..
    · rw [audit_without_of_not_lifted hstop]
  · exact fun hstop => (audit_without_of_not_lifted hstop).symm

end Rulebook

end Blurb
