import Blurb.Proofs.DisabledRules
import Blurb.Proofs.Repairs

/-! # Descriptions that are only too long

No step shortens a description because it is too long. If that is all that an audit has to say, the
steps find nothing to do, for a step acts where its rule fires; but three of them look further than
the rules. Blanks are stripped under any rulebook, every character with an upper case is put in
upper case, and the name goes from the middle of a text, too. Where these three have nothing further
to find, a description that is too long is left alone.

* `StandsAlone` — the name as a word of its own; `removeName_eq_self` — without it nothing goes.
* `Rulebook.StepsKeepToRules` — what the three steps have to leave to the rules.
* `Rulebook.isSettled_of_silent` — where the rules are silent, the steps leave the text alone.
* `Rulebook.LengthHidesNothing` — what a rule on the length that ends the audit may not hide.
* `Rulebook.correct?_of_overlong` — the description is not corrected. -/

namespace Blurb

open Text Phrase

namespace Phrase

/-! ## The name as a word of its own -/

/-- **The name stands in a text as a word of its own**, up to case: at either side of it stands a
delimiter or nothing. -/
def StandsAlone (name t : Text) : Prop :=
  name ≠ [] ∧ ∃ before found after, t = before ++ found ++ after ∧
    found.map fold = name.map fold ∧ (∀ c ∈ before.getLast?, isDelimiter c = true) ∧
    ∀ c ∈ after.head?, isDelimiter c = true

/-- An occurrence that is closed has a delimiter behind it or nothing. -/
theorem exists_closed_of_stripClosedName? {name t close after : Text}
    (h : stripClosedName? name t = some (close, after)) :
    ∃ found, t = found ++ (close ++ after) ∧ found.map fold = name.map fold ∧
      ∀ c ∈ (close ++ after).head?, isDelimiter c = true := by
  obtain ⟨found, ht, hfound, hclose⟩ := stripClosedName?_eq_some_iff.1 h
  refine ⟨found, ht, hfound, ?_⟩
  rcases hclose with ⟨rfl, rfl⟩ | ⟨d, rfl, hd⟩
  · simp
  · simpa using hd

theorem removeInnerNames_eq_self {name t : Text}
    (h : ∀ before c found after, t = before ++ c :: (found ++ after) → isDelimiter c = true →
      found.map fold = name.map fold → ¬ ∀ d ∈ after.head?, isDelimiter d = true) :
    removeInnerNames name t = t := by
  induction t using removeInnerNames_induction name with
  | nil => exact removeInnerNames_nil name
  | removed c rest close after hc hs heq ih =>
    obtain ⟨found, rfl, hfound, hclosed⟩ := exists_closed_of_stripClosedName? hs
    exact absurd hclosed (h [] c found _ rfl hc hfound)
  | kept c rest heq ih =>
    have hrest := ih fun before d found after ht => h (c :: before) d found after (by rw [ht]; rfl)
    rw [heq, hrest]

/-- **Where the name does not stand alone, nothing is removed.** -/
theorem removeName_eq_self {name t : Text} (h : ¬ StandsAlone name t) : removeName name t = t := by
  rw [removeName]
  split
  · rfl
  · next hname =>
    rw [List.isEmpty_iff] at hname
    have hnot : ∀ before found after, t = before ++ found ++ after →
        found.map fold = name.map fold → (∀ c ∈ before.getLast?, isDelimiter c = true) →
        ¬ ∀ c ∈ after.head?, isDelimiter c = true :=
      fun before found after ht hfound hopen hclosed =>
        h ⟨hname, before, found, after, ht, hfound, hopen, hclosed⟩
    split
    · next close after hs =>
      obtain ⟨found, ht, hfound, hclosed⟩ := exists_closed_of_stripClosedName? hs
      exact absurd hclosed (hnot [] found _ ht hfound (by simp))
    · refine removeInnerNames_eq_self fun before c found after ht hc hfound => ?_
      exact hnot (before ++ [c]) found after (by simp [ht]) hfound (by simpa using hc)

end Phrase

namespace Rulebook

variable {book : Rulebook} {name literal : Text}

/-! ## Silent rules -/

/-- **The steps that look further than their rules find nothing more**: blanks only where the
rulebook has the rule on them, no first character with an upper case but a to z, and the name
nowhere as a word of its own. -/
structure StepsKeepToRules (book : Rulebook) (name literal : Text) : Prop where
  /-- Blanks at the start are a matter of a rule. -/
  leading : leadingBlanks literal = [] ∨ book.has .leadingSpace = true
  /-- Blanks at the end are a matter of a rule. -/
  trailing : trailingBlanks literal = [] ∨ book.has .trailingSpace = true
  /-- A first word in small letters is a matter of a rule. -/
  capital : book.has .capitalization = true → book.toPolicy.allows (firstWord literal) = true ∨
    ∀ c ∈ literal.head?, isSmallLetter c = true ∨ upper c = [c]
  /-- The name does not stand in the text. -/
  nameless : book.has .selfReference = true → ¬ StandsAlone name literal

/-- The upper-casing leaves a text alone that starts with no small letter. -/
theorem apply_capitalize_eq_self (hfirst : book.toPolicy.allows (firstWord literal) = true ∨
      ∀ c ∈ literal.head?, isSmallLetter c = true ∨ upper c = [c])
    (hsilent : RuleId.capitalization.inspect? book.toPolicy name literal = none) :
    Step.capitalize.apply book.toPolicy name literal = literal := by
  rw [Step.apply]
  split
  · rfl
  · next hword =>
    rw [Bool.or_eq_true, not_or, Bool.not_eq_true, Bool.not_eq_true] at hword
    cases literal with
    | nil => rfl
    | cons c rest =>
      have hsmall : isSmallLetter c = false := by
        rw [RuleId.inspect?] at hsilent
        rw [Bool.eq_false_iff]
        intro hc
        simp [hword.2, startsSmall, hc] at hsilent
      have hupper : upper c = [c] := by
        rcases hfirst with hallowed | hfirst
        · rw [hword.2] at hallowed
          exact absurd hallowed (by decide)
        · rcases hfirst c rfl with hc | hc
          · rw [hsmall] at hc
            exact absurd hc (by decide)
          · exact hc
      rw [Phrase.capitalize, hupper, List.singleton_append]

/-- **Where the rules are silent, the steps leave a text alone**, if they do not look further. -/
theorem isSettled_of_silent (hkeep : book.StepsKeepToRules name literal)
    (hsilent : ∀ id, book.has id = true → id ≠ .maxLength →
      id.inspect? book.toPolicy name literal = none) : Step.IsSettled book name literal := by
  intro step
  by_cases henabled : step.isEnabled book = true
  · rw [Step.run_of_isEnabled henabled]
    cases step with
    | stripWhitespace =>
      refine trim_eq_self_iff.2 ⟨?_, ?_⟩
      · refine hkeep.leading.elim id fun hbook => ?_
        simpa [RuleId.inspect?] using hsilent .leadingSpace hbook (by decide)
      · refine hkeep.trailing.elim id fun hbook => ?_
        simpa [RuleId.inspect?] using hsilent .trailingSpace hbook (by decide)
    | stripArticle =>
      refine dropArticle_eq_self_iff.2 ?_
      simpa [RuleId.inspect?] using hsilent .indefiniteArticle henabled (by decide)
    | capitalize =>
      exact apply_capitalize_eq_self (hkeep.capital henabled)
        (hsilent .capitalization henabled (by decide))
    | hyphenateCommandLine =>
      refine hyphenate_eq_self ?_
      simpa [RuleId.inspect?] using hsilent .commandLine henabled (by decide)
    | removeName => exact removeName_eq_self (hkeep.nameless henabled)
    | stripFullStop =>
      refine dropFullStop_eq_self_iff.2 ?_
      simpa [RuleId.inspect?] using hsilent .fullStop henabled (by decide)
  · exact if_neg henabled

/-! ## What the audit hides -/

/-- **The rules behind the length**: those behind the first rule on the length that ends an audit
when it fires. -/
def behindLength (book : Rulebook) : List Rule :=
  (book.rules.dropWhile fun rule => !(rule.id == .maxLength && rule.fatal)).tail

/-- **The length hides nothing**: where a rule on the length ends the audit, no other rule behind it
would fire. -/
def LengthHidesNothing (book : Rulebook) (name : Text) (token : Token) : Prop :=
  ∀ rule ∈ book.behindLength, book.fires name (some token) rule = true → rule.id = .maxLength

instance (book : Rulebook) (name : Text) (token : Token) :
    Decidable (book.LengthHidesNothing name token) :=
  inferInstanceAs (Decidable (∀ rule ∈ book.behindLength, _ → _))

/-- What stands behind any fatal rule on the length stands behind the first one. -/
theorem mem_behindLength {before after : List Rule} {last rule : Rule}
    (hrules : book.rules = before ++ last :: after) (hlast : last.id = .maxLength)
    (hfatal : last.fatal = true) (hrule : rule ∈ after) : rule ∈ book.behindLength := by
  have hfirst : (!(last.id == .maxLength && last.fatal)) = false := by rw [hlast, hfatal]; rfl
  rw [behindLength, hrules, List.dropWhile_append]
  split
  · rw [List.dropWhile_cons_of_neg (by rw [hfirst]; decide), List.tail_cons]
    exact hrule
  · next hbefore =>
    rw [List.isEmpty_iff] at hbefore
    rw [List.tail_append_of_ne_nil hbefore]
    exact List.mem_append_right _ (List.mem_cons_of_mem _ hrule)

/-- Where an audit reports nothing but that a description is too long, and hides nothing with that,
every other rule is silent. -/
theorem UsesOwnChecks.silent_of_audit {token : Token} {kind : Kind} (hchecks : book.UsesOwnChecks)
    (hhidden : book.LengthHidesNothing name token)
    (haudit : ∀ problem ∈ book.audit kind name (some token), problem.rule = .maxLength)
    {id : RuleId} (hbook : book.has id = true) (hid : id ≠ .maxLength) :
    id.inspect? book.toPolicy name token.content = none := by
  obtain ⟨rule, hrule, hname⟩ := List.any_eq_true.1 hbook
  rw [beq_iff_eq] at hname
  subst hname
  obtain ⟨heard, unheard, hhears⟩ := exists_hears book name (some token)
  rw [hhears.audit_eq kind] at haudit
  have hreported : ∀ rule ∈ heard, book.fires name (some token) rule = true →
      rule.id = .maxLength := by
    intro rule hheard hfires
    cases hproblem : book.problem? kind name (some token) rule with
    | none =>
      rw [(problem?_eq_none_iff kind).1 hproblem] at hfires
      exact absurd hfires (by decide)
    | some problem =>
      rw [← rule_of_problem? hproblem]
      exact haudit problem (List.mem_filterMap.2 ⟨rule, hheard, hproblem⟩)
  have hsilent : book.fires name (some token) rule = false := by
    rw [Bool.eq_false_iff]
    intro hfires
    cases hhears with
    | all => exact hid (hreported rule hrule hfires)
    | @upTo before after last hrules _ hstops =>
      -- the rule that ends the audit fires, so it is on the length; the others stand behind it
      rw [stopsAt, Bool.and_eq_true] at hstops
      have hlast := hreported last (by simp) hstops.2
      rw [hrules, ← List.singleton_append, ← List.append_assoc, List.mem_append] at hrule
      rcases hrule with hheard | hunheard
      · exact hid (hreported rule hheard hfires)
      · exact hid (hhidden rule (mem_behindLength hrules hlast hstops.1 hunheard) hfires)
  rw [fires, hchecks rule hrule, RuleId.check?_some, Option.isSome_eq_false_iff,
    Option.isNone_iff_eq_none] at hsilent
  exact hsilent

/-- **A description that is only too long is left alone.** If the audit of a quoted literal reports
at most that it is too long, and hides nothing behind such a report, the literal is not corrected,
unless one of the steps that look further than the rules finds something in it. -/
theorem correct?_of_overlong {quote : Char} {span : Span} {kind : Kind}
    (hchecks : book.UsesOwnChecks)
    (hhidden : book.LengthHidesNothing name ⟨quote :: literal ++ [quote], span⟩)
    (hquote : isQuote quote = true)
    (haudit : ∀ problem ∈ book.audit kind name (some ⟨quote :: literal ++ [quote], span⟩),
      problem.rule = .maxLength)
    (hkeep : book.StepsKeepToRules name literal) :
    book.correct? name ⟨quote :: literal ++ [quote], span⟩ = none := by
  have hcontent : Token.content ⟨quote :: literal ++ [quote], span⟩ = literal :=
    stringContent_quoted hquote literal
  have hsettled : Step.IsSettled book name literal :=
    isSettled_of_silent hkeep fun id hbook hid =>
      hcontent ▸ hchecks.silent_of_audit hhidden haudit hbook hid
  rw [Option.eq_none_iff_forall_ne_some]
  intro replacement hcorrect
  obtain ⟨other, inner, hliteral, -, hchanged, -⟩ := correct?_eq_some_iff.1 hcorrect
  obtain ⟨hsource, -, -⟩ := lineLiteral?_eq_some_iff.1 hliteral
  rw [List.cons_append, List.cons_append, List.cons.injEq] at hsource
  rw [← (List.append_inj' hsource.2 rfl).1] at hchanged
  exact hchanged (revise_of_isSettled hsettled)

/-- The name does not stand in the text, as the text has no letter f. -/
theorem not_standsAlone_list : ¬ StandsAlone "foo".toList "Short tool list".toList := by
  rintro ⟨-, before, found, after, ht, hfound, -, -⟩
  have hmem : 'f' ∈ ("Short tool list".toList : Text).map fold := by
    rw [ht, List.map_append, List.map_append, hfound]
    simp [show fold 'f' = 'f' by decide]
  revert hmem
  decide

/-- The default rules with a limit of ten characters, each of which ends an audit. -/
def firstProblemOnly : Rulebook :=
  { withMaxLength 10 with rules := RuleId.all.map fun id => { id.toRule with fatal := true } }

theorem usesOwnChecks_firstProblemOnly : firstProblemOnly.UsesOwnChecks := by
  intro rule hrule
  obtain ⟨id, -, rfl⟩ := List.mem_map.1 hrule
  rfl

/-- The rule on the length ends the audit, but it is the last one. -/
theorem correct?_of_overlong_list :
    firstProblemOnly.LengthHidesNothing "foo".toList
      ⟨'"' :: "Short tool list".toList ++ ['"'], ⟨0, 17⟩⟩ ∧
    firstProblemOnly.audit .formula "foo".toList
        (some ⟨'"' :: "Short tool list".toList ++ ['"'], ⟨0, 17⟩⟩) ≠ [] ∧
    (∀ problem ∈ firstProblemOnly.audit .formula "foo".toList
        (some ⟨'"' :: "Short tool list".toList ++ ['"'], ⟨0, 17⟩⟩), problem.rule = .maxLength) ∧
    firstProblemOnly.StepsKeepToRules "foo".toList "Short tool list".toList ∧
    firstProblemOnly.correct? "foo".toList
      ⟨'"' :: "Short tool list".toList ++ ['"'], ⟨0, 17⟩⟩ = none := by
  have hhidden : firstProblemOnly.LengthHidesNothing "foo".toList
      ⟨'"' :: "Short tool list".toList ++ ['"'], ⟨0, 17⟩⟩ := by decide
  have haudit : ∀ problem ∈ firstProblemOnly.audit .formula "foo".toList
      (some ⟨'"' :: "Short tool list".toList ++ ['"'], ⟨0, 17⟩⟩), problem.rule = .maxLength := by
    decide
  have hkeep : firstProblemOnly.StepsKeepToRules "foo".toList "Short tool list".toList :=
    { leading := Or.inl (by decide)
      trailing := Or.inl (by decide)
      capital := fun _ => Or.inr fun c hc => by
        obtain rfl : 'S' = c := Option.some.inj hc
        exact Or.inr (by decide)
      nameless := fun _ => not_standsAlone_list }
  exact ⟨hhidden, by decide, haudit, hkeep,
    correct?_of_overlong usesOwnChecks_firstProblemOnly hhidden (by decide) haudit hkeep⟩

/-- **An audit that finds a description too long and nothing else** keeps it from being
corrected. -/
def LeavesOverlong (book : Rulebook) (name literal : Text) : Prop :=
  (∀ problem ∈ book.audit .formula name (some (Token.quoted literal)), problem.rule = .maxLength) →
    book.correct? name (Token.quoted literal) = none

instance (book : Rulebook) (name literal : Text) : Decidable (book.LeavesOverlong name literal) :=
  inferInstanceAs (Decidable (_ → _))

/-- A rulebook with two rules, the first of which ends an audit. -/
def lengthThenFullStop : Rulebook :=
  { withMaxLength 10 with
    rules := [{ RuleId.maxLength.toRule with fatal := true }, RuleId.fullStop.toRule] }

theorem usesOwnChecks_lengthThenFullStop : lengthThenFullStop.UsesOwnChecks := by
  intro rule hrule
  rw [lengthThenFullStop, List.mem_cons, List.mem_singleton] at hrule
  rcases hrule with rfl | rfl <;> rfl

/-- **What keeps a description that is too long from being left alone**: blanks that no rule is on,
a rule on the length that ends the audit, the name in the middle, and a small letter beyond a to
z. -/
theorem not_leavesOverlong :
    ((withMaxLength 10).UsesOwnChecks ∧ lengthThenFullStop.UsesOwnChecks ∧
      ((withMaxLength 10).without [.trailingSpace]).UsesOwnChecks) ∧
    ¬ ((withMaxLength 10).without [.trailingSpace]).LeavesOverlong "foo".toList
      "Short tool list ".toList ∧
    ¬ lengthThenFullStop.LeavesOverlong "foo".toList "Short tool list.".toList ∧
    ¬ (withMaxLength 10).LeavesOverlong "foo".toList "Tool for foo lists".toList ∧
    ¬ (withMaxLength 10).LeavesOverlong "foo".toList "élan tool list".toList := by
  have hchecks := usesOwnChecks_withMaxLength 10
  exact ⟨⟨hchecks, usesOwnChecks_lengthThenFullStop, hchecks.without _⟩, by decide +kernel⟩

end Rulebook

end Blurb
