import Blurb.Description.Correction
import Blurb.Proofs.Footholds
import Mathlib.Data.Nat.Find
import Mathlib.Logic.Function.Iterate

/-! # Corrections come to rest

The passes of a correction end at a text that every step leaves alone, and they end before their
bound is reached. A pass loses footholds unless upper-casing the first character is all it does, and
then the next pass changes nothing; the first pass leaves at most as many footholds as the literal
has characters, hyphens included.

* `reviseOnce_cases` — what one pass can do to a text that is hyphenated.
* `reviseOnce_eq_self_iff` — a pass leaves a text alone only if each of its steps does.
* `exists_first_isSettled` — a text settles before the bound on the number of passes.
* `revise_induction` — what every step keeps, a revision keeps.
* `revise_settles` — the revised text and the loop that finds it. -/

namespace Blurb

open Text Phrase

namespace Step

/-- **A step as part of a pass**: it leaves the text alone if the rulebook does not want it. -/
def run (book : Rulebook) (name : Text) (text : Text) (step : Step) : Text :=
  if step.isEnabled book then step.apply book.toPolicy name text else text

variable {book : Rulebook} {name : Text}

theorem run_of_isEnabled {step : Step} (h : step.isEnabled book = true) (text : Text) :
    step.run book name text = step.apply book.toPolicy name text := if_pos h

variable (book name) in
/-- The upper-casing leaves a text alone or puts its first character in upper case. -/
theorem capitalize_run_cases (text : Text) :
    capitalize.run book name text = text ∨
      ∃ c rest, text = c :: rest ∧ capitalize.run book name text = upper c ++ rest := by
  rw [Step.run]
  split
  · simp only [apply]
    split
    · exact Or.inl rfl
    · cases text with
      | nil => exact Or.inl rfl
      | cons c rest => exact Or.inr ⟨c, rest, rfl, rfl⟩
  · exact Or.inl rfl

/-- **A text that a correction no longer hyphenates**: it is hyphenated, or the rulebook does not
ask for it. -/
def IsHyphenated (book : Rulebook) (text : Text) : Prop :=
  hyphenateCommandLine.isEnabled book = true → findCommandLine? text = none

/-- **Every step keeps a text hyphenated.** -/
theorem IsHyphenated.run {text : Text} (h : IsHyphenated book text) (step : Step) :
    IsHyphenated book (step.run book name text) := by
  intro henabled
  have hnone := h henabled
  by_cases hstep : step.isEnabled book = true
  · cases step with
    | stripWhitespace =>
      rw [run_of_isEnabled hstep]
      exact findCommandLine?_of_isInfix (trim_isInfix text) hnone
    | stripArticle =>
      rw [run_of_isEnabled hstep]
      exact findCommandLine?_of_isInfix (dropArticle_isSuffix text).isInfix hnone
    | capitalize =>
      rcases capitalize_run_cases book name text with heq | ⟨c, rest, rfl, heq⟩
      · rwa [heq]
      · rw [heq]
        exact findCommandLine?_upper hnone
    | hyphenateCommandLine =>
      rw [run_of_isEnabled hstep]
      exact findCommandLine?_hyphenate text
    | removeName =>
      rw [run_of_isEnabled hstep]
      exact findCommandLine?_removeName hnone
    | stripFullStop =>
      rw [run_of_isEnabled hstep]
      exact findCommandLine?_of_isInfix (dropFullStop_isPrefix text).isInfix hnone
  · rwa [Step.run, if_neg hstep]

/-- What every step keeps, any steps in a row keep. -/
theorem foldl_run_induction {motive : Text → Prop} {text : Text} (start : motive text)
    (run : ∀ (step : Step) (text : Text), motive text → motive (step.run book name text))
    (steps : List Step) : motive (steps.foldl (Step.run book name) text) := by
  induction steps generalizing text with
  | nil => exact start
  | cons step steps ih => exact ih (run step text start)

theorem IsHyphenated.foldl_run {steps : List Step} {text : Text} (h : IsHyphenated book text) :
    IsHyphenated book (steps.foldl (Step.run book name) text) :=
  foldl_run_induction h (fun step _ h => h.run step) steps

/-- **Every step but the upper-casing shrinks a hyphenated text.** -/
theorem shrinks_run {step : Step} {text : Text} (h : IsHyphenated book text)
    (hstep : step ≠ capitalize) : Shrinks name text (step.run book name text) := by
  rw [Step.run]
  split
  · next henabled =>
    cases step with
    | stripWhitespace => exact shrinks_trim text
    | stripArticle => exact shrinks_dropArticle text
    | capitalize => exact absurd rfl hstep
    | hyphenateCommandLine => exact Or.inl (hyphenate_eq_self (h henabled))
    | removeName => exact shrinks_removeName text
    | stripFullStop => exact shrinks_dropFullStop text
  · exact Shrinks.refl text

variable (book name) in
/-- The upper-casing brings no footholds. -/
theorem footholds_capitalize_le (text : Text) :
    footholds name false (capitalize.run book name text) ≤ footholds name false text := by
  rcases capitalize_run_cases book name text with heq | ⟨c, rest, rfl, heq⟩
  · rw [heq]
  · rw [heq]
    exact footholds_upper_append c rest

/-- A text that the upper-casing changes starts with a foothold. -/
theorem footholds_pos_of_capitalize_ne {text : Text} (h : capitalize.run book name text ≠ text) :
    0 < footholds name false text := by
  rcases capitalize_run_cases book name text with heq | ⟨c, rest, rfl, heq⟩
  · exact absurd heq h
  · have hc : upper c ≠ [c] := by
      intro hsame
      rw [heq, hsame] at h
      exact h rfl
    rw [footholds_cons, isFoothold_of_upper_ne hc]
    exact Nat.lt_of_lt_of_le Nat.zero_lt_one (Nat.le_add_right _ _)

/-- **Upper-casing twice is upper-casing once.** -/
theorem capitalize_run_run (text : Text) :
    capitalize.run book name (capitalize.run book name text) = capitalize.run book name text := by
  rcases capitalize_run_cases book name text with heq | ⟨c, rest, rfl, heq⟩
  · rw [heq, heq]
  · obtain ⟨x, more, hu⟩ := List.exists_cons_of_ne_nil (upper_ne_nil c)
    rw [heq, hu]
    rcases capitalize_run_cases book name (x :: more ++ rest) with
      hsame | ⟨y, tail, htext, hy⟩
    · exact hsame
    · rw [List.cons_append, List.cons.injEq] at htext
      rw [hy, ← htext.1, ← htext.2, upper_of_mem_upper (hu ▸ List.mem_cons_self)]
      rfl

/-- Steps that each leave a text alone leave it alone together. -/
theorem foldl_run_eq_self {steps : List Step} {text : Text}
    (h : ∀ step ∈ steps, step.run book name text = text) :
    steps.foldl (Step.run book name) text = text := by
  induction steps with
  | nil => rfl
  | cons step steps ih =>
    rw [List.foldl_cons, h step (by simp)]
    exact ih fun other hmem => h other (List.mem_cons_of_mem step hmem)

variable (name) in
/-- **Steps without the upper-casing** shrink a hyphenated text, and if it keeps its footholds, each
of them leaves it alone. -/
theorem foldl_run_cases {steps : List Step} {text : Text} (h : IsHyphenated book text)
    (hsteps : capitalize ∉ steps) :
    footholds name false (steps.foldl (Step.run book name) text) < footholds name false text ∨
      ∀ step ∈ steps, step.run book name text = text := by
  induction steps generalizing text with
  | nil => exact Or.inr (by simp)
  | cons step steps ih =>
    rw [List.mem_cons, not_or] at hsteps
    rw [List.foldl_cons]
    have hfirst : Shrinks name text (step.run book name text) := shrinks_run h (Ne.symm hsteps.1)
    rcases hfirst with hsame | hless
    · rw [hsame]
      rcases ih h hsteps.2 with hrest | hrest
      · exact Or.inl hrest
      · exact Or.inr (List.forall_mem_cons.2 ⟨hsame, hrest⟩)
    · left
      rcases ih (h.run step) hsteps.2 with hrest | hrest
      · exact Nat.lt_trans hrest hless
      · rw [foldl_run_eq_self hrest]
        exact hless

theorem footholds_foldl_run_le {steps : List Step} {text : Text} (h : IsHyphenated book text)
    (hsteps : capitalize ∉ steps) :
    footholds name false (steps.foldl (Step.run book name) text) ≤ footholds name false text := by
  rcases foldl_run_cases name h hsteps with hless | hsame
  · exact Nat.le_of_lt hless
  · rw [foldl_run_eq_self hsame]

/-! ## A pass -/

/-- The steps of a pass before the upper-casing. -/
def beforeCapital : List Step := [stripWhitespace, stripArticle]

/-- The steps of a pass behind the upper-casing. -/
def afterCapital : List Step := [hyphenateCommandLine, removeName, stripWhitespace, stripFullStop]

/-- **A text that every step leaves alone**, if the rulebook wants the step at all. -/
def IsSettled (book : Rulebook) (name text : Text) : Prop :=
  ∀ step : Step, step.run book name text = text

/-- The article stays away when the first character is put in upper case. -/
theorem stripArticle_run_capitalize {text : Text}
    (h : stripArticle.run book name text = text) :
    stripArticle.run book name (capitalize.run book name text) =
      capitalize.run book name text := by
  by_cases henabled : stripArticle.isEnabled book = true
  · rw [run_of_isEnabled henabled] at h ⊢
    rcases capitalize_run_cases book name text with heq | ⟨c, rest, rfl, heq⟩
    · rw [heq, h]
    · rw [heq]
      exact dropArticle_eq_self_iff.2 (stripArticle?_upper (dropArticle_eq_self_iff.1 h))
  · rw [Step.run, if_neg henabled]

/-- **What settles a text**: no step before the upper-casing touches it, and none behind touches
what the upper-casing leaves. -/
theorem isSettled_capitalize {text : Text}
    (hbefore : ∀ step ∈ beforeCapital, step.run book name text = text)
    (hafter : ∀ step ∈ afterCapital,
      step.run book name (capitalize.run book name text) = capitalize.run book name text) :
    IsSettled book name (capitalize.run book name text) := by
  intro step
  cases step with
  | stripArticle => exact stripArticle_run_capitalize (hbefore stripArticle (by decide))
  | capitalize => exact capitalize_run_run text
  | stripWhitespace => exact hafter stripWhitespace (by decide)
  | hyphenateCommandLine => exact hafter hyphenateCommandLine (by decide)
  | removeName => exact hafter removeName (by decide)
  | stripFullStop => exact hafter stripFullStop (by decide)

end Step

namespace Rulebook

open Step

variable {book : Rulebook} {name : Text}

theorem reviseOnce_eq_foldl (text : Text) :
    book.reviseOnce name text = pass.foldl (Step.run book name) text :=
  List.foldl_filter

/-- A pass around its upper-casing. -/
theorem reviseOnce_eq (text : Text) :
    book.reviseOnce name text =
      afterCapital.foldl (Step.run book name)
        (capitalize.run book name (beforeCapital.foldl (Step.run book name) text)) := by
  rw [reviseOnce_eq_foldl]
  rfl

/-- A settled text comes out of a pass as it went in. -/
theorem reviseOnce_of_isSettled {text : Text} (h : IsSettled book name text) :
    book.reviseOnce name text = text := by
  rw [reviseOnce_eq_foldl]
  exact foldl_run_eq_self fun step _ => h step

variable (book name) in
/-- The hyphenation itself leaves nothing to hyphenate. -/
theorem isHyphenated_run_hyphenate (text : Text) :
    IsHyphenated book (hyphenateCommandLine.run book name text) := by
  intro henabled
  rw [run_of_isEnabled henabled]
  exact findCommandLine?_hyphenate text

variable (book name) in
/-- What comes out of a pass is hyphenated. -/
theorem isHyphenated_reviseOnce (text : Text) : IsHyphenated book (book.reviseOnce name text) := by
  rw [reviseOnce_eq, afterCapital, List.foldl_cons]
  exact (isHyphenated_run_hyphenate book name _).foldl_run

variable (name) in
/-- **What one pass does to a hyphenated text**: it takes footholds away, or its upper-casing
settles the text. -/
theorem reviseOnce_cases {text : Text} (h : IsHyphenated book text) :
    footholds name false (book.reviseOnce name text) < footholds name false text ∨
      book.reviseOnce name text = capitalize.run book name text ∧
        IsSettled book name (capitalize.run book name text) := by
  rw [reviseOnce_eq]
  rcases foldl_run_cases name h (show Step.capitalize ∉ beforeCapital by decide) with
    hless | hbefore
  · left
    have hmiddle : IsHyphenated book
        (capitalize.run book name (beforeCapital.foldl (Step.run book name) text)) :=
      h.foldl_run.run capitalize
    refine Nat.lt_of_le_of_lt ?_ hless
    exact Nat.le_trans (footholds_foldl_run_le hmiddle (by decide))
      (footholds_capitalize_le book name _)
  · rw [foldl_run_eq_self hbefore]
    have hcapital := footholds_capitalize_le book name text
    rcases foldl_run_cases name (h.run capitalize)
      (show Step.capitalize ∉ afterCapital by decide) with hless | hafter
    · exact Or.inl (Nat.lt_of_lt_of_le hless hcapital)
    · exact Or.inr ⟨foldl_run_eq_self hafter, isSettled_capitalize hbefore hafter⟩

/-- **A text that a pass leaves alone is settled**: no two steps of the pass cancel each other. -/
theorem reviseOnce_eq_self_iff {text : Text} :
    book.reviseOnce name text = text ↔ IsSettled book name text := by
  refine ⟨fun hsame => ?_, reviseOnce_of_isSettled⟩
  have h : IsHyphenated book text := hsame ▸ isHyphenated_reviseOnce book name text
  rcases reviseOnce_cases name h with hless | ⟨heq, hsettled⟩
  · rw [hsame] at hless
    exact absurd hless (Nat.lt_irrefl _)
  · rwa [← heq, hsame] at hsettled

/-! ## The number of passes -/

variable (book name) in
/-- The steps before the upper-casing leave a part of the text that stands together. -/
theorem foldl_beforeCapital_isInfix (text : Text) :
    beforeCapital.foldl (Step.run book name) text <:+: text := by
  have hstep : ∀ t, ∀ step ∈ beforeCapital, step.run book name t <:+: t := by
    intro t step hstep
    rw [Step.run]
    split
    · rw [beforeCapital, List.mem_cons, List.mem_singleton] at hstep
      rcases hstep with rfl | rfl
      · exact trim_isInfix t
      · exact (dropArticle_isSuffix t).isInfix
    · exact List.infix_refl t
  exact (hstep _ stripArticle (by decide)).trans (hstep _ stripWhitespace (by decide))

/-- Behind the upper-casing and the hyphenation a text has at most as many footholds as it had
characters. -/
theorem footholds_hyphenate_capitalize_le (text : Text) :
    footholds name false
        (hyphenateCommandLine.run book name (capitalize.run book name text)) ≤ text.length := by
  by_cases henabled : hyphenateCommandLine.isEnabled book = true
  · rw [run_of_isEnabled henabled]
    rcases capitalize_run_cases book name text with heq | ⟨c, rest, rfl, heq⟩
    · rw [heq]
      exact footholds_hyphenate_le name false text
    · rw [heq, List.length_cons, Nat.add_comm]
      exact footholds_hyphenate_upper_le c rest
  · rw [Step.run, if_neg henabled]
    exact Nat.le_trans (footholds_capitalize_le book name text) (footholds_le_length false text)

variable (book name) in
/-- **The first pass** leaves at most as many footholds as the text has characters. -/
theorem footholds_reviseOnce_le (text : Text) :
    footholds name false (book.reviseOnce name text) ≤ text.length := by
  rw [reviseOnce_eq, afterCapital, List.foldl_cons]
  calc footholds name false (List.foldl (Step.run book name) _
          [removeName, stripWhitespace, stripFullStop])
      ≤ footholds name false (hyphenateCommandLine.run book name (capitalize.run book name
          (beforeCapital.foldl (Step.run book name) text))) :=
        footholds_foldl_run_le (isHyphenated_run_hyphenate book name _) (by decide)
    _ ≤ (beforeCapital.foldl (Step.run book name) text).length :=
        footholds_hyphenate_capitalize_le _
    _ ≤ text.length := (foldl_beforeCapital_isInfix book name text).length_le

variable (name) in
/-- **A hyphenated text settles within as many passes as it has footholds.** -/
theorem exists_isSettled_iterate {text : Text} (h : IsHyphenated book text) :
    ∃ passes ≤ footholds name false text,
      IsSettled book name ((book.reviseOnce name)^[passes] text) := by
  induction hn : footholds name false text using Nat.strongRecOn generalizing text with
  | ind n ih =>
    subst hn
    rcases reviseOnce_cases name h with hless | ⟨heq, hsettled⟩
    · obtain ⟨passes, hle, hsettled⟩ := ih _ hless (isHyphenated_reviseOnce book name text) rfl
      exact ⟨passes + 1, by omega, hsettled⟩
    · by_cases hsame : capitalize.run book name text = text
      · rw [hsame] at hsettled
        exact ⟨0, Nat.zero_le _, hsettled⟩
      · -- the upper-casing has a foothold of its own for its pass
        refine ⟨1, footholds_pos_of_capitalize_ne hsame, ?_⟩
        rw [Function.iterate_one, heq]
        exact hsettled

/-- The loop finds the first text that a pass leaves alone. -/
theorem reviseWithin_eq_iterate {changes bound : Nat} {text : Text} (hbound : changes < bound)
    (hfixed : book.reviseOnce name ((book.reviseOnce name)^[changes] text) =
      (book.reviseOnce name)^[changes] text) :
    book.reviseWithin name bound text = (book.reviseOnce name)^[changes] text := by
  induction changes generalizing bound text with
  | zero =>
    obtain ⟨passes, rfl⟩ := Nat.exists_eq_succ_of_ne_zero (Nat.ne_of_gt hbound)
    rw [Function.iterate_zero_apply] at hfixed ⊢
    rw [reviseWithin]
    exact if_pos hfixed
  | succ changes ih =>
    obtain ⟨passes, rfl⟩ := Nat.exists_eq_succ_of_ne_zero (Nat.ne_of_gt (Nat.zero_lt_of_lt hbound))
    rw [reviseWithin]
    split
    · next hsame => rw [Function.iterate_fixed hsame]
    · exact ih (Nat.lt_of_succ_lt_succ hbound) hfixed

/-- **The first pass that changes nothing comes before the bound.** -/
theorem exists_first_isSettled (book : Rulebook) (name literal : Text) :
    ∃ passes < literal.length + 2,
      IsSettled book name ((book.reviseOnce name)^[passes] literal) ∧
        ∀ earlier < passes, book.reviseOnce name ((book.reviseOnce name)^[earlier] literal) ≠
          (book.reviseOnce name)^[earlier] literal := by
  obtain ⟨passes, hle, hsettled⟩ :=
    exists_isSettled_iterate name (isHyphenated_reviseOnce book name literal)
  have hfixed : book.reviseOnce name ((book.reviseOnce name)^[passes + 1] literal) =
      (book.reviseOnce name)^[passes + 1] literal := by
    rw [Function.iterate_succ_apply]
    exact reviseOnce_of_isSettled hsettled
  have hexists : ∃ passes, book.reviseOnce name ((book.reviseOnce name)^[passes] literal) =
      (book.reviseOnce name)^[passes] literal := ⟨passes + 1, hfixed⟩
  have hfirst := Nat.find_min' hexists hfixed
  have hbound := footholds_reviseOnce_le book name literal
  exact ⟨Nat.find hexists, by omega, reviseOnce_eq_self_iff.1 (Nat.find_spec hexists),
    fun earlier hearlier => Nat.find_min hexists hearlier⟩

/-- **The revised text is settled.** -/
theorem isSettled_revise (book : Rulebook) (name literal : Text) :
    IsSettled book name (book.revise name literal) := by
  obtain ⟨passes, hbound, hsettled, -⟩ := exists_first_isSettled book name literal
  rw [revise, reviseWithin_eq_iterate hbound (reviseOnce_of_isSettled hsettled)]
  exact hsettled

variable (book name) in
/-- A revision is a number of passes. -/
theorem exists_revise_eq_iterate (literal : Text) :
    ∃ passes, book.revise name literal = (book.reviseOnce name)^[passes] literal := by
  obtain ⟨passes, hbound, hsettled, -⟩ := exists_first_isSettled book name literal
  exact ⟨passes, reviseWithin_eq_iterate hbound (reviseOnce_of_isSettled hsettled)⟩

/-- What every step keeps, any number of passes keeps. -/
theorem iterate_induction {motive : Text → Prop} {text : Text} (start : motive text)
    (run : ∀ (step : Step) (text : Text), motive text → motive (step.run book name text))
    (passes : Nat) : motive ((book.reviseOnce name)^[passes] text) := by
  induction passes with
  | zero => exact start
  | succ passes ih =>
    rw [Function.iterate_succ_apply', reviseOnce_eq_foldl]
    exact foldl_run_induction ih run pass

/-- **What every step keeps, a revision keeps.** -/
theorem revise_induction {motive : Text → Prop} {literal : Text} (start : motive literal)
    (run : ∀ (step : Step) (text : Text), motive text → motive (step.run book name text)) :
    motive (book.revise name literal) := by
  obtain ⟨passes, heq⟩ := exists_revise_eq_iterate book name literal
  rw [heq]
  exact iterate_induction start run passes

/-- A settled text is its own revision. -/
theorem revise_of_isSettled {text : Text} (h : IsSettled book name text) :
    book.revise name text = text := by
  have hfixed : book.reviseOnce name ((book.reviseOnce name)^[0] text) =
      (book.reviseOnce name)^[0] text := reviseOnce_of_isSettled h
  exact reviseWithin_eq_iterate (Nat.zero_lt_succ _) hfixed

/-- **Corrections come to rest.** Every step that the rulebook wants leaves the revised text alone.
The loop ends at the first pass that changes nothing, which comes before the bound on the number of
passes, so it is never the bound that ends it. Revising the revised text changes nothing. -/
theorem revise_settles (book : Rulebook) (name literal : Text) :
    (∀ step ∈ pass, step.isEnabled book = true →
      step.apply book.toPolicy name (book.revise name literal) = book.revise name literal) ∧
    (∃ passes < literal.length + 2,
      book.revise name literal = (book.reviseOnce name)^[passes] literal ∧
      book.reviseOnce name (book.revise name literal) = book.revise name literal ∧
      ∀ earlier < passes, book.reviseOnce name ((book.reviseOnce name)^[earlier] literal) ≠
        (book.reviseOnce name)^[earlier] literal) ∧
    book.revise name (book.revise name literal) = book.revise name literal := by
  have hrevised := isSettled_revise book name literal
  refine ⟨fun step _ henabled => ?_, ?_, revise_of_isSettled hrevised⟩
  · rw [← run_of_isEnabled henabled]
    exact hrevised step
  · obtain ⟨passes, hbound, hsettled, hfirst⟩ := exists_first_isSettled book name literal
    exact ⟨passes, hbound, reviseWithin_eq_iterate hbound (reviseOnce_of_isSettled hsettled),
      reviseOnce_of_isSettled hrevised, hfirst⟩

end Rulebook

end Blurb
