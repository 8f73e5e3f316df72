import Blurb.Proofs.BatchAudits
import Blurb.Proofs.DisabledRules

/-! # The case of the item's name

The name of an item is only ever compared with a description up to case, so two spellings of it that
agree character by character up to case are never told apart: not by a rule, and not by a step of a
correction, however often it changes the text that the name is looked for in.

* `Text.SameUpToCase` — texts that differ in case alone.
* `Text.SameUpToCase.removeName_eq`, `Text.SameUpToCase.inspect?_eq` — the two places where a name
  is looked for.
* `Text.SameUpToCase.revise_eq` — the whole of a revision.
* `Rulebook.results_eq_of_sameUpToCase` — audits, passes, revisions and corrections. -/

namespace Blurb

open Text Phrase

namespace Text

/-- **Texts that differ in case alone**: as many characters in both, and each folds like its
counterpart. -/
def SameUpToCase (a b : Text) : Prop := List.Forall₂ (fun c d => fold c = fold d) a b

instance (a b : Text) : Decidable (SameUpToCase a b) :=
  inferInstanceAs (Decidable (List.Forall₂ (fun c d => fold c = fold d) a b))

namespace SameUpToCase

variable {name other : Text}

/-- Neither of them is empty without the other. -/
theorem isEmpty_eq (h : SameUpToCase name other) : name.isEmpty = other.isEmpty := by
  cases h with
  | nil => rfl
  | cons _ _ => rfl

/-! ## Looking for a name -/

/-- **A start is taken off alike**: the part that is found has the spelling of the text, whatever
the spelling of the name is. -/
theorem stripFolded?_eq (h : SameUpToCase name other) (t : Text) :
    stripFolded? name t = stripFolded? other t := by
  induction h generalizing t with
  | nil => rfl
  | @cons c d name other hfold _ ih =>
    cases t with
    | nil => rfl
    | cons x rest => rw [stripFolded?, stripFolded?, hfold, ih rest]

theorem leadingName?_eq (h : SameUpToCase name other) (t : Text) :
    leadingName? name t = leadingName? other t := by
  rw [leadingName?, leadingName?, h.stripFolded?_eq t]

theorem stripClosedName?_eq (h : SameUpToCase name other) (t : Text) :
    stripClosedName? name t = stripClosedName? other t := by
  rw [stripClosedName?, stripClosedName?, h.stripFolded?_eq t]

/-- Where the removal takes an occurrence of the one name it takes one of the other. -/
theorem removeInnerNames_eq (h : SameUpToCase name other) (t : Text) :
    removeInnerNames name t = removeInnerNames other t := by
  induction t using removeInnerNames.induct name with
  | case1 => rw [removeInnerNames_nil, removeInnerNames_nil]
  | case2 c rest hc close after hs ih =>
    have hother : stripClosedName? other rest = some (close, after) := by
      rw [← h.stripClosedName?_eq rest, hs]
    rw [removeInnerNames_of_some hc hs, removeInnerNames_of_some hc hother, ih]
  | case3 c rest hc hs ih =>
    have hother : stripClosedName? other rest = none := by
      rw [← h.stripClosedName?_eq rest, hs]
    rw [removeInnerNames_of_none fun _ => hs, removeInnerNames_of_none fun _ => hother, ih]
  | case4 c rest hc ih =>
    rw [removeInnerNames_of_none fun hd => absurd hd hc,
      removeInnerNames_of_none fun hd => absurd hd hc, ih]

/-- **The same words are removed.** -/
theorem removeName_eq (h : SameUpToCase name other) (t : Text) :
    removeName name t = removeName other t := by
  rw [removeName, removeName, h.isEmpty_eq, h.stripClosedName?_eq t]
  split
  · rfl
  · split
    · next close after _ => rw [h.removeInnerNames_eq after]
    · exact h.removeInnerNames_eq t

/-! ## Rules and steps -/

/-- **No check tells the names apart**: only the one for a description that starts with the name
looks at it. -/
theorem inspect?_eq (h : SameUpToCase name other) (policy : Policy) (content : Text) (id : RuleId) :
    id.inspect? policy name content = id.inspect? policy other content := by
  cases id with
  | selfReference => rw [RuleId.inspect?, RuleId.inspect?, h.isEmpty_eq, h.leadingName?_eq content]
  | presence | nonEmpty | leadingSpace | trailingSpace | commandLine => rfl
  | indefiniteArticle | capitalization | fullStop | maxLength => rfl

theorem check?_eq (h : SameUpToCase name other) (policy : Policy) (token : Option Token)
    (id : RuleId) : id.check? policy name token = id.check? policy other token := by
  cases token with
  | none => cases id <;> rfl
  | some token => rw [RuleId.check?_some, RuleId.check?_some, h.inspect?_eq]

/-- **No step tells the names apart.** -/
theorem apply_eq (h : SameUpToCase name other) (policy : Policy) (text : Text) (step : Step) :
    step.apply policy name text = step.apply policy other text := by
  cases step with
  | removeName => exact h.removeName_eq text
  | stripWhitespace | stripArticle | capitalize | hyphenateCommandLine | stripFullStop => rfl

/-! ## Revisions -/

/-- A pass takes both names to the same text. -/
theorem reviseOnce_eq (h : SameUpToCase name other) (book : Rulebook) (text : Text) :
    book.reviseOnce name text = book.reviseOnce other text := by
  have hstep : (fun text step => Step.apply book.toPolicy name text step) =
      fun text step => Step.apply book.toPolicy other text step := by
    funext text step
    exact h.apply_eq book.toPolicy text step
  rw [Rulebook.reviseOnce, Rulebook.reviseOnce, hstep]

/-- So do any number of passes: with the same text after each of them, they end together. -/
theorem reviseWithin_eq (h : SameUpToCase name other) (book : Rulebook) (passes : Nat)
    (text : Text) : book.reviseWithin name passes text = book.reviseWithin other passes text := by
  induction passes generalizing text with
  | zero => rfl
  | succ passes ih =>
    rw [Rulebook.reviseWithin, Rulebook.reviseWithin, h.reviseOnce_eq book text]
    exact if_congr Iff.rfl rfl (ih _)

/-- **A literal is revised alike** under both names. -/
theorem revise_eq (h : SameUpToCase name other) (book : Rulebook) (literal : Text) :
    book.revise name literal = book.revise other literal :=
  h.reviseWithin_eq book _ literal

end SameUpToCase

end Text

/-! ## Audits and corrections -/

namespace Rulebook

variable {book : Rulebook} {name other : Text}

/-- The rules of a rulebook tell the names apart as little as the checks that they run. -/
theorem UsesDefaultChecks.check_eq (hbook : book.UsesDefaultChecks) (h : SameUpToCase name other)
    {rule : Rule} (hrule : rule ∈ book.rules) (token : Option Token) :
    rule.check book.toPolicy name token = rule.check book.toPolicy other token := by
  obtain ⟨id, hid⟩ := hbook rule hrule
  rw [hid]
  exact h.check?_eq book.toPolicy token id

/-- Audits tell the names apart as little as the rules do. -/
theorem UsesDefaultChecks.audit_eq (hbook : book.UsesDefaultChecks) (h : SameUpToCase name other)
    (kind : Kind) (token : Option Token) :
    book.audit kind name token = book.audit kind other token := by
  have haudit : book.audit kind name token = (book.audit kind other token).map id :=
    auditRules_eq_map id fun rule hrule => by
      rw [problem?, problem?, hbook.check_eq h hrule token, Option.map_id]
      rfl
  rwa [List.map_id] at haudit

/-- A description passes exactly if its audit has no problem, under one name as under the other. -/
theorem UsesDefaultChecks.passes_eq (hbook : book.UsesDefaultChecks) (h : SameUpToCase name other)
    (token : Token) : book.passes name token = book.passes other token := by
  rw [Bool.eq_iff_iff, passes_iff_audit_eq_nil .formula, passes_iff_audit_eq_nil .formula,
    hbook.audit_eq h]

/-- **The case of the name does not matter.** Two names that agree character by character up to case
have the same audits, pass on the same tokens, and lead to the same revisions and corrections. -/
theorem results_eq_of_sameUpToCase (hbook : book.UsesDefaultChecks) (h : SameUpToCase name other) :
    (∀ kind token, book.audit kind name token = book.audit kind other token) ∧
    (∀ token, book.passes name token = book.passes other token) ∧
    (∀ literal, book.revise name literal = book.revise other literal) ∧
    ∀ token, book.correct? name token = book.correct? other token := by
  refine ⟨hbook.audit_eq h, hbook.passes_eq h, h.revise_eq book, fun token => ?_⟩
  rw [correct?, correct?]
  split
  · rfl
  · next quote literal _ => rw [hbook.passes_eq h token, h.revise_eq book literal]

/-- The long s and the Kelvin sign are letters of a name like any other: under both spellings the
description starts with the name of its item. -/
theorem results_eq_of_sameUpToCase_kelvin :
    SameUpToCase ['K', 'ſ'] ['k', 'S'] ∧
    default.passes ['K', 'ſ'] (Token.quoted "Ks tool".toList) = false ∧
    default.correct? ['K', 'ſ'] (Token.quoted "Ks tool".toList) =
      default.correct? ['k', 'S'] (Token.quoted "Ks tool".toList) := by
  have hname : SameUpToCase ['K', 'ſ'] ['k', 'S'] := by decide
  have hbook : default.UsesDefaultChecks := usesOwnChecks_default.usesDefaultChecks
  have hfails : default.passes ['k', 'S'] (Token.quoted "Ks tool".toList) = false := by decide
  obtain ⟨-, hpasses, -, hcorrect⟩ := results_eq_of_sameUpToCase hbook hname
  exact ⟨hname, (hpasses _).trans hfails, hcorrect _⟩

end Rulebook

end Blurb
