import Blurb.Proofs.RepeatedSteps
import Blurb.Proofs.Repairs

/-! # Checks and steps side by side

A rule and the step that repairs it look for the same thing, each in its own way. On every text the
two agree: a rule fires only where its step changes the text, the rules on blanks, articles, full
stops and "command line" also wherever it does, and what the findings quote is what the steps take
out or write anew. The other two steps look further than their rules, so they may change a text on
which these are silent.

* `exists_hyphenate_eq` — the expected spelling goes in the place of the match.
* `leadingBlanks_append_trim` — the blanks that are reported are those that are stripped.
* `checksMatchSteps` — the agreement on all rules. -/

namespace Blurb

open Text Phrase

/-! ## Spellings -/

/-- **Hyphenation writes the hyphenated spelling in the place of the leftmost part that wants one**,
leaves alone what stands before it and goes on behind it. -/
theorem Phrase.exists_hyphenate_eq {t found : Text} (h : findCommandLine? t = some found) :
    ∃ before after, t = before ++ found ++ after ∧
      hyphenate t = before ++ hyphenatedSpelling found ++ hyphenate after := by
  induction t using hyphenate_induction with
  | nil => cases h
  | found c rest part after hs heq ih =>
    rw [findCommandLine?, hs, Option.some.injEq] at h
    subst h
    obtain ⟨ht, hpart⟩ := stripCommandLine?_eq_some_iff.1 hs
    obtain ⟨d, tail, rfl, -, -⟩ := hpart.eq_cons
    obtain ⟨rfl, -⟩ := List.cons.inj ht
    exact ⟨[], after, ht, heq⟩
  | other c rest hs heq ih =>
    rw [findCommandLine?, hs] at h
    obtain ⟨before, after, ht, hhyphenate⟩ := ih h
    exact ⟨c :: before, after, by rw [ht]; rfl, by rw [heq, hhyphenate]; rfl⟩

/-! ## Blanks -/

/-- **A text that is not blank is made up of its blanks at the ends and what is left between
them.** -/
theorem Text.leadingBlanks_append_trim {t : Text} (h : ∃ c ∈ t, isBlank c = false) :
    leadingBlanks t ++ trim t ++ trailingBlanks t = t := by
  obtain ⟨c, hmem, hc⟩ := h
  have happ := leadingBlanks_append_trimStart t
  have hrest : c ∈ trimStart t := by
    rw [← happ, List.mem_append] at hmem
    refine hmem.resolve_left fun hlead => ?_
    rw [isBlank_of_mem_leadingBlanks hlead] at hc
    cases hc
  -- the blanks at the end lie behind that character, so those at the start make no difference
  have htrailing : trailingBlanks (trimStart t) = trailingBlanks t := by
    have hstops : ((trimStart t).reverse.takeWhile isBlank).length ≠
        (trimStart t).reverse.length := by
      intro hlength
      have hall := (List.takeWhile_prefix isBlank).eq_of_length hlength
      rw [List.takeWhile_eq_self_iff.1 hall c (List.mem_reverse.2 hrest)] at hc
      cases hc
    calc trailingBlanks (trimStart t)
        = (((trimStart t).reverse ++ (leadingBlanks t).reverse).takeWhile isBlank).reverse := by
          rw [List.takeWhile_append, if_neg hstops, trailingBlanks]
      _ = trailingBlanks t := by
          rw [← List.reverse_append, happ, trailingBlanks]
  rw [trim, List.append_assoc, ← htrailing, trimEnd_append_trailingBlanks, happ]

/-! ## Rules that fire -/

namespace RuleId

variable {policy : Policy} {name content : Text} {id : RuleId} {step : Step}

/-- **The rule fires on a text.** -/
def FiresOn (policy : Policy) (name content : Text) (id : RuleId) : Prop :=
  id.inspect? policy name content ≠ none

/-- The part of the text that a rule quotes, empty if the rule does not fire or quotes none. -/
def quoted (policy : Policy) (name content : Text) (id : RuleId) : Text :=
  ((id.inspect? policy name content).bind (·.matched)).getD []

/-- **A rule fires only where its step changes the text.** -/
theorem FiresOn.apply_ne (hstep : id.repair? = some step) (h : id.FiresOn policy name content) :
    step.apply policy name content ≠ content := fun heq => h (inspect?_of_apply hstep heq)

/-- A rule is silent on what its step leaves, if the step does all its work at once. -/
theorem not_firesOn_apply (hstep : id.repair? = some step)
    (hdone : step.apply policy name (step.apply policy name content) =
      step.apply policy name content) :
    ¬ id.FiresOn policy name (step.apply policy name content) :=
  not_not.2 (inspect?_of_apply hstep hdone)

/-- The rules on blanks quote all blanks at their end of the text. -/
theorem quoted_leadingSpace : leadingSpace.quoted policy name content = leadingBlanks content := by
  rw [quoted, inspect?]
  cases leadingBlanks content <;> rfl

theorem quoted_trailingSpace :
    trailingSpace.quoted policy name content = trailingBlanks content := by
  rw [quoted, inspect?]
  cases trailingBlanks content <;> rfl

end RuleId

/-! ## Agreement -/

open RuleId

/-- **Rules and steps agree on a text.** -/
structure ChecksMatchSteps (policy : Policy) (name content : Text) : Prop where
  /-- Blanks are reported at one end or the other exactly if trimming changes the text. -/
  blanks : leadingSpace.FiresOn policy name content ∨ trailingSpace.FiresOn policy name content ↔
    Step.stripWhitespace.apply policy name content ≠ content
  /-- The blanks that are quoted and what trimming leaves make up the text. -/
  blankParts : (∃ c ∈ content, isBlank c = false) →
    leadingSpace.quoted policy name content ++ Step.stripWhitespace.apply policy name content ++
      trailingSpace.quoted policy name content = content
  /-- "command line" is reported exactly if hyphenation changes the text. -/
  commandLine : RuleId.commandLine.FiresOn policy name content ↔
    Step.hyphenateCommandLine.apply policy name content ≠ content
  /-- It is never reported on a hyphenated text. -/
  hyphenated : ¬ RuleId.commandLine.FiresOn policy name
    (Step.hyphenateCommandLine.apply policy name content)
  /-- The finding quotes a part of the text and suggests a spelling. Hyphenation writes the one in
  the place of the other and goes on behind it. -/
  spelling : ∀ finding, RuleId.commandLine.inspect? policy name content = some finding →
    ∃ found spelling before after, finding.matched = some found ∧
      finding.expected = some spelling ∧ content = before ++ found ++ after ∧
      Step.hyphenateCommandLine.apply policy name content =
        before ++ spelling ++ Step.hyphenateCommandLine.apply policy name after
  /-- An article is reported exactly if it is stripped. -/
  article : indefiniteArticle.FiresOn policy name content ↔
    Step.stripArticle.apply policy name content ≠ content
  /-- A full stop is reported exactly if it is stripped. -/
  fullStop : RuleId.fullStop.FiresOn policy name content ↔
    Step.stripFullStop.apply policy name content ≠ content
  /-- Where a small letter at the start is reported, upper-casing changes the text, and what it
  leaves is not reported. -/
  capital : capitalization.FiresOn policy name content →
    Step.capitalize.apply policy name content ≠ content ∧
      ¬ capitalization.FiresOn policy name (Step.capitalize.apply policy name content)
  /-- Where the name is reported at the start, its removal makes the text shorter. -/
  selfReference : RuleId.selfReference.FiresOn policy name content →
    (Step.removeName.apply policy name content).length < content.length

/-- **Rules and steps agree on every text**, under every rulebook and for every name. -/
theorem checksMatchSteps (book : Rulebook) (name content : Text) :
    ChecksMatchSteps book.toPolicy name content where
  blanks := by
    refine ⟨fun h => h.elim (FiresOn.apply_ne rfl) (FiresOn.apply_ne rfl), fun h => ?_⟩
    by_contra hsilent
    rw [not_or, FiresOn, FiresOn, not_not, not_not] at hsilent
    refine h (trim_eq_self_iff.2 ⟨?_, ?_⟩)
    · simpa [inspect?] using hsilent.1
    · simpa [inspect?] using hsilent.2
  blankParts h := by
    rw [quoted_leadingSpace, quoted_trailingSpace]
    exact leadingBlanks_append_trim h
  commandLine := by
    refine ⟨FiresOn.apply_ne rfl, fun h hsilent => h (hyphenate_eq_self ?_)⟩
    simpa [inspect?] using hsilent
  hyphenated := not_firesOn_apply rfl (hyphenate_hyphenate content)
  spelling finding h := by
    obtain ⟨found, hfound, rfl⟩ := Option.map_eq_some_iff.1 h
    obtain ⟨before, after, hcontent, hhyphenate⟩ := exists_hyphenate_eq hfound
    exact ⟨found, hyphenatedSpelling found, before, after, rfl, rfl, hcontent, hhyphenate⟩
  article := by
    refine ⟨FiresOn.apply_ne rfl, fun h hsilent => h (dropArticle_eq_self_iff.2 ?_)⟩
    simpa [inspect?] using hsilent
  fullStop := by
    refine ⟨FiresOn.apply_ne rfl, fun h hsilent => h (dropFullStop_eq_self_iff.2 ?_)⟩
    simpa [inspect?] using hsilent
  capital h := ⟨h.apply_ne rfl, not_firesOn_apply rfl (Step.apply_capitalize_apply _ name content)⟩
  selfReference h := Step.length_apply_lt (by decide) (by decide) (h.apply_ne rfl)

end Blurb
