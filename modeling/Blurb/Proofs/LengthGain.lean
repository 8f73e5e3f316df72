import Blurb.Proofs.Cuts
import Blurb.Proofs.DisabledRules
import Blurb.Proofs.Repairs

/-! # How long a correction can get

Two steps lengthen a text: the hyphen in "commandline", and upper-casing a character into several.
Hyphens are put in by the first pass alone. What upper-casing brings stands at the start of the
text, and as long as any of it is left, nothing else is put in upper case; so a revision is longer
than the literal by the hyphens and by what a single character brings, at most.

* `Phrase.closedSpellings`, `Text.widening`, `Rulebook.gain` — what can be gained.
* `Phrase.length_hyphenate_le` — hyphenation.
* `Step.Fits` — the limit that every step keeps once the text is hyphenated.
* `Rulebook.length_revise_le` — the length of a revision.
* `Rulebook.fires_correction` — a correction makes no other rule fire than the one on the length. -/

namespace Blurb

open Text Phrase

namespace Text

/-- **The most characters that upper-casing one character of a text adds to it.** -/
def widening : Text → Nat
  | [] => 0
  | c :: rest => max ((upper c).length - 1) (widening rest)

theorem length_upper_le_widening {c : Char} {t : Text} (h : c ∈ t) :
    (upper c).length ≤ widening t + 1 := by
  induction t with
  | nil => simp at h
  | cons d t ih =>
    rw [widening]
    rcases List.mem_cons.1 h with rfl | h
    · omega
    · have := ih h
      omega

end Text

namespace Phrase

/-! ## Closed spellings -/

/-- "commandline" stands at the start of the text, written as one word in any case. -/
def startsClosed (t : Text) : Bool := (stripFolded? (command ++ line) t).isSome

/-- **How often "commandline" stands in a text**, written as one word in any case. -/
def closedSpellings : Text → Nat
  | [] => 0
  | c :: rest => (if startsClosed (c :: rest) then 1 else 0) + closedSpellings rest

theorem startsClosed_iff {t : Text} :
    startsClosed t = true ↔ ∃ found rest, t = found ++ rest ∧ found.map fold = command ++ line := by
  have hword : (command ++ line).map fold = command ++ line := by decide
  simp only [startsClosed, Option.isSome_iff_exists, Prod.exists, stripFolded?_eq_some_iff, hword]

theorem startsClosed_append {t : Text} (h : startsClosed t = true) (u : Text) :
    startsClosed (t ++ u) = true := by
  obtain ⟨found, rest, rfl, hfound⟩ := startsClosed_iff.1 h
  exact startsClosed_iff.2 ⟨found, rest ++ u, by simp, hfound⟩

theorem closedSpellings_le_append_left (t u : Text) :
    closedSpellings t ≤ closedSpellings (t ++ u) := by
  induction t with
  | nil => exact Nat.zero_le _
  | cons c t ih =>
    rw [List.cons_append, closedSpellings, closedSpellings]
    by_cases h : startsClosed (c :: t) = true
    · have happend := startsClosed_append h u
      rw [List.cons_append] at happend
      rw [if_pos h, if_pos happend]
      omega
    · rw [if_neg h]
      omega

theorem closedSpellings_le_append_right (t u : Text) :
    closedSpellings u ≤ closedSpellings (t ++ u) := by
  induction t with
  | nil => exact Nat.le_refl _
  | cons c t ih =>
    rw [List.cons_append, closedSpellings]
    omega

/-- A part of a text holds no more closed spellings than the text. -/
theorem closedSpellings_le_of_isInfix {t u : Text} (h : t <:+: u) :
    closedSpellings t ≤ closedSpellings u := by
  obtain ⟨before, after, rfl⟩ := h
  exact (closedSpellings_le_append_right before t).trans (closedSpellings_le_append_left _ after)

/-- The first character may be spelled in either case. -/
theorem closedSpellings_cons_congr {c d : Char} (h : fold c = fold d) (rest : Text) :
    closedSpellings (c :: rest) = closedSpellings (d :: rest) := by
  have hstart : startsClosed (c :: rest) = startsClosed (d :: rest) := by
    rw [startsClosed, startsClosed, command, List.cons_append, stripFolded?, stripFolded?, h]
    split
    · rw [Option.isSome_map, Option.isSome_map]
    · rfl
  rw [closedSpellings, closedSpellings, hstart]

/-- A part that wants a hyphen is a closed spelling, or a space stands where the hyphen comes. -/
theorem IsCommandLine.length_eq {found : Text} (h : IsCommandLine found) :
    found.length = 11 ∧ found.map fold = command ++ line ∨ found.length = 12 := by
  obtain ⟨first, gap, second, rfl, hfirst, hgap, hsecond⟩ := h
  have h₁ := congrArg List.length hfirst
  have h₂ := congrArg List.length hsecond
  simp only [List.length_map, command, line, List.length_cons, List.length_nil] at h₁ h₂
  rcases hgap with rfl | rfl
  · exact Or.inl ⟨by simp [h₁, h₂], by simp [hfirst, hsecond]⟩
  · exact Or.inr (by simp [h₁, h₂])

/-- **Hyphenation adds at most a character for each closed spelling.** -/
theorem length_hyphenate_le (t : Text) : (hyphenate t).length ≤ t.length + closedSpellings t := by
  induction t using hyphenate_induction with
  | nil => simp
  | found c rest found after hs heq ih =>
    obtain ⟨ht, hfound⟩ := stripCommandLine?_eq_some_iff.1 hs
    have hspelling : (c :: hyphenated).length = 12 := rfl
    rw [heq, ht, List.length_append, List.length_append, hspelling]
    rcases hfound.length_eq with ⟨hlength, hfold⟩ | hlength
    · have hclosed : 1 + closedSpellings after ≤ closedSpellings (found ++ after) := by
        obtain ⟨d, tail, rfl, -, -⟩ := hfound.eq_cons
        have hstart : startsClosed (d :: tail ++ after) = true :=
          startsClosed_iff.2 ⟨d :: tail, after, rfl, hfold⟩
        have htail := closedSpellings_le_append_right tail after
        rw [List.cons_append] at hstart ⊢
        rw [closedSpellings, if_pos hstart]
        omega
      omega
    · have := closedSpellings_le_append_right found after
      omega
  | other c rest hs heq ih =>
    rw [heq, List.length_cons, List.length_cons, closedSpellings]
    omega

/-- Upper-casing does not lengthen any character of a hyphenated text that it would not lengthen in
the text itself. -/
theorem length_upper_of_mem_hyphenate {bound : Nat} {t : Text}
    (h : ∀ x ∈ t, (upper x).length ≤ bound + 1) :
    ∀ x ∈ hyphenate t, (upper x).length ≤ bound + 1 := by
  induction t using hyphenate_induction with
  | nil => simp
  | found c rest found after hs heq ih =>
    have hspelling : (hyphenated.all fun x => (upper x).length == 1) = true := by decide
    obtain ⟨ht, -⟩ := stripCommandLine?_eq_some_iff.1 hs
    rw [heq]
    intro x hx
    rw [List.cons_append, List.mem_cons, List.mem_append] at hx
    rcases hx with rfl | hx | hx
    · exact h x List.mem_cons_self
    · have := List.all_eq_true.1 hspelling x hx
      rw [beq_iff_eq] at this
      omega
    · exact ih (fun y hy => h y (ht ▸ List.mem_append_right found hy)) x hx
  | other c rest hs heq ih =>
    rw [List.forall_mem_cons] at h
    rw [heq, List.forall_mem_cons]
    exact ⟨h.1, ih h.2⟩

end Phrase

/-! ## Steps -/

namespace Rulebook

/-- The characters that the hyphens of a text can take, if the rulebook asks for them. -/
def hyphens (book : Rulebook) (t : Text) : Nat :=
  if book.has .commandLine then closedSpellings t else 0

theorem hyphens_of_isEnabled {book : Rulebook}
    (h : Step.hyphenateCommandLine.isEnabled book = true) (t : Text) :
    book.hyphens t = closedSpellings t := if_pos h

/-- The characters that upper-casing can bring, if the rulebook asks for it. -/
def spare (book : Rulebook) (t : Text) : Nat := if book.has .capitalization then widening t else 0

/-- **What a correction can gain**: a hyphen for every "commandline" and what the upper case of one
character has more than the character. -/
def gain (book : Rulebook) (t : Text) : Nat := book.hyphens t + book.spare t

end Rulebook

namespace Step

variable {book : Rulebook} {name : Text} {limit spare : Nat}

/-- **A text within a limit**, but for what upper-casing brought: the `head` is in upper case, and
with one character in its place the text would keep to the limit. Upper-casing a character of the
rest brings no more than is spare. -/
def Fits (book : Rulebook) (limit spare : Nat) (text : Text) : Prop :=
  ∃ head rest, text = head ++ rest ∧ (∀ x ∈ head, upper x = [x]) ∧ head.length ≤ spare + 1 ∧
    (book.has .capitalization = true → ∀ x ∈ rest, (upper x).length ≤ spare + 1) ∧
    min 1 head.length + rest.length ≤ limit

theorem Fits.length_le {text : Text} (h : Fits book limit spare text) :
    text.length ≤ limit + spare := by
  obtain ⟨head, rest, rfl, -, hhead, -, hlimit⟩ := h
  rw [List.length_append]
  omega

/-- A text of characters that need no more than is spare fits into its length. -/
theorem fits_of_length_le {text : Text} (hlength : text.length ≤ limit)
    (hrest : book.has .capitalization = true → ∀ x ∈ text, (upper x).length ≤ spare + 1) :
    Fits book limit spare text :=
  ⟨[], text, rfl, by simp, by simp, hrest, by simpa using hlength⟩

/-- Cuts keep to the limit. -/
theorem Fits.sublist {text u : Text} (h : Fits book limit spare text) (hu : u.Sublist text) :
    Fits book limit spare u := by
  obtain ⟨head, rest, rfl, hupper, hhead, hrest, hlimit⟩ := h
  obtain ⟨head', rest', rfl, hhead', hrest'⟩ := List.sublist_append_iff.1 hu
  have hlength := hhead'.length_le
  have hlength' := hrest'.length_le
  exact ⟨head', rest', rfl, fun x hx => hupper x (hhead'.subset hx), by omega,
    fun hcapital x hx => hrest hcapital x (hrest'.subset hx), by omega⟩

/-- The upper-casing changes a text only if the rulebook asks for it. -/
theorem has_of_capitalize_ne {text : Text} (h : capitalize.run book name text ≠ text) :
    book.has .capitalization = true := by
  by_contra hnot
  exact h (if_neg hnot)

/-- Upper-casing keeps to the limit: it puts the upper case of the first character in the place of
the head, and only if there is none. -/
theorem Fits.capitalize {text : Text} (h : Fits book limit spare text) :
    Fits book limit spare (capitalize.run book name text) := by
  by_cases hsame : Step.capitalize.run book name text = text
  · rwa [hsame]
  have hcapital := has_of_capitalize_ne hsame
  obtain ⟨c, tail, rfl, heq⟩ := (capitalize_run_cases book name text).resolve_left hsame
  obtain ⟨head, rest, happ, hupper, hhead, hrest, hlimit⟩ := h
  cases head with
  | cons x head =>
    rw [List.cons_append, List.cons.injEq] at happ
    rw [heq, happ.1, hupper x List.mem_cons_self, ← happ.1] at hsame
    exact absurd rfl hsame
  | nil =>
    rw [List.nil_append] at happ
    subst happ
    have hmem := hrest hcapital
    rw [List.forall_mem_cons] at hmem
    rw [List.length_nil, List.length_cons] at hlimit
    rw [heq]
    exact ⟨upper c, tail, rfl, fun x hx => upper_of_mem_upper hx, hmem.1, fun _ => hmem.2, by omega⟩

/-- **Every step keeps a hyphenated text to the limit.** -/
theorem Fits.run {text : Text} (h : Fits book limit spare text) (hhyphen : IsHyphenated book text)
    (step : Step) : Fits book limit spare (step.run book name text) := by
  by_cases hcapital : step = .capitalize
  · subst hcapital
    exact h.capitalize
  by_cases hstep : step = .hyphenateCommandLine
  · subst hstep
    rw [Step.run]
    split
    · next henabled => rwa [Step.apply, hyphenate_eq_self (hhyphen henabled)]
    · exact h
  · exact h.sublist (run_sublist book name text hcapital hstep)

/-- A text that is short enough, hyphens included, keeps to the limit when they are put in. -/
theorem fits_hyphenate {text : Text} (henabled : hyphenateCommandLine.isEnabled book = true)
    (hlength : text.length + book.hyphens text ≤ limit)
    (hrest : book.has .capitalization = true → ∀ x ∈ text, (upper x).length ≤ spare + 1) :
    Fits book limit spare (hyphenate text) := by
  rw [Rulebook.hyphens_of_isEnabled henabled] at hlength
  exact fits_of_length_le ((length_hyphenate_le text).trans hlength)
    fun hcapital => length_upper_of_mem_hyphenate (hrest hcapital)

/-- **The hyphens are put in behind the upper-casing.** A text that is short enough, hyphens
included, keeps to the limit. -/
theorem fits_hyphenate_capitalize {text : Text} (hlength : text.length + book.hyphens text ≤ limit)
    (hrest : book.has .capitalization = true → ∀ x ∈ text, (upper x).length ≤ spare + 1) :
    Fits book limit spare
      (hyphenateCommandLine.run book name (Step.capitalize.run book name text)) := by
  by_cases henabled : hyphenateCommandLine.isEnabled book = true
  · rw [run_of_isEnabled henabled]
    by_cases hsame : Step.capitalize.run book name text = text
    · rw [hsame]
      exact fits_hyphenate henabled hlength hrest
    have hcapital := has_of_capitalize_ne hsame
    obtain ⟨c, tail, rfl, heq⟩ := (capitalize_run_cases book name text).resolve_left hsame
    have hmem := hrest hcapital
    rw [List.forall_mem_cons] at hmem
    rw [heq, Step.apply]
    rw [Rulebook.hyphens_of_isEnabled henabled, List.length_cons] at hlength
    by_cases hc : ∃ x ∈ upper c, fold x = 'c'
    · -- a letter c takes no more room in upper case, and starts what it started before
      obtain ⟨x, hx, hxc⟩ := hc
      obtain ⟨hux, hfold⟩ := of_mem_upper_of_fold_c hx hxc
      rw [hux, List.singleton_append]
      refine fits_hyphenate henabled ?_ fun _ => List.forall_mem_cons.2 ⟨?_, hmem.2⟩
      · rw [Rulebook.hyphens_of_isEnabled henabled, List.length_cons,
          closedSpellings_cons_congr (hxc.trans hfold.symm)]
        exact hlength
      · rw [upper_of_mem_upper hx]
        exact Nat.le_add_left 1 spare
    · -- no other upper case starts a part that wants a hyphen
      push Not at hc
      have hhyphens := length_hyphenate_le tail
      have htail := closedSpellings_le_append_right [c] tail
      rw [List.singleton_append] at htail
      rw [hyphenate_append hc]
      exact ⟨upper c, hyphenate tail, rfl, fun x hx => upper_of_mem_upper hx, hmem.1,
        fun _ => length_upper_of_mem_hyphenate hmem.2, by omega⟩
  · rw [Step.run, if_neg henabled]
    exact (fits_of_length_le (by omega) hrest).capitalize

end Step

namespace Rulebook

variable {book : Rulebook} {name : Text}

/-! ## Passes -/

/-- What stands in a text as a part has no more hyphens to take. -/
theorem hyphens_le_of_isInfix {t u : Text} (h : t <:+: u) : book.hyphens t ≤ book.hyphens u := by
  rw [hyphens, hyphens]
  split
  · exact closedSpellings_le_of_isInfix h
  · exact Nat.le_refl 0

theorem length_upper_le_spare {text : Text} (hcapital : book.has .capitalization = true) :
    ∀ x ∈ text, (upper x).length ≤ book.spare text + 1 := by
  intro x hx
  rw [spare, if_pos hcapital]
  exact length_upper_le_widening hx

variable (book name) in
/-- **The first pass keeps to the limit** of the text with its hyphens. -/
theorem fits_reviseOnce (text : Text) :
    Step.Fits book (text.length + book.hyphens text) (book.spare text)
      (book.reviseOnce name text) := by
  have hpart := foldl_beforeCapital_isInfix book name text
  have hhyphens : book.hyphens (Step.beforeCapital.foldl (Step.run book name) text) ≤
      book.hyphens text := hyphens_le_of_isInfix hpart
  have hlength := Nat.add_le_add hpart.length_le hhyphens
  have hfirst : Step.Fits book (text.length + book.hyphens text) (book.spare text)
      (Step.hyphenateCommandLine.run book name (Step.capitalize.run book name
        (Step.beforeCapital.foldl (Step.run book name) text))) :=
    Step.fits_hyphenate_capitalize hlength
      fun hcapital x hx => length_upper_le_spare hcapital x (hpart.subset hx)
  rw [reviseOnce_eq, Step.afterCapital, List.foldl_cons]
  exact (Step.foldl_run_induction
    (motive := fun t => Step.Fits book _ _ t ∧ Step.IsHyphenated book t)
    ⟨hfirst, isHyphenated_run_hyphenate book name _⟩
    (fun step t h => ⟨h.1.run h.2 step, h.2.run step⟩) _).1

/-- **The length of a revision** is at most that of the literal and what can be gained. -/
theorem length_revise_le (book : Rulebook) (name literal : Text) :
    (book.revise name literal).length ≤ literal.length + book.gain literal := by
  obtain ⟨passes, heq⟩ := exists_revise_eq_iterate book name literal
  rw [heq, gain, ← Nat.add_assoc]
  cases passes with
  | zero =>
    rw [Function.iterate_zero_apply]
    omega
  | succ passes =>
    rw [Function.iterate_succ_apply]
    exact (iterate_induction
      (motive := fun t => Step.Fits book _ _ t ∧ Step.IsHyphenated book t)
      ⟨fits_reviseOnce book name literal, isHyphenated_reviseOnce book name literal⟩
      (fun step t h => ⟨h.1.run h.2 step, h.2.run step⟩) passes).1.length_le

/-! ## Rules -/

/-- Under a rulebook whose rules run their own checks, what a rule does shows in its name. -/
theorem UsesOwnChecks.fires_eq {token : Token} {rule : Rule} (h : book.UsesOwnChecks)
    (hrule : rule ∈ book.rules) : book.fires name (some token) rule =
      (rule.id.inspect? book.toPolicy name token.content).isSome := by
  rw [fires, h rule hrule, RuleId.check?_some]

/-- A description is too long exactly if its length is over the limit. -/
theorem isSome_inspect?_maxLength {policy : Policy} {content : Text} :
    (RuleId.maxLength.inspect? policy name content).isSome = true ↔
      policy.maxLength < content.length := by
  rw [RuleId.inspect?]
  split <;> simp [*]

/-- **A correction brings no problem** but one: a description may get too long, if it gains
something at all. -/
theorem fires_correction {token : Token} {replacement : Replacement} (hchecks : book.UsesOwnChecks)
    (hcorrect : book.correct? name token = some replacement) :
    (∀ rule ∈ book.rules,
      book.fires name (some (Token.ofSource replacement.text)) rule = true →
        rule.id = .maxLength ∧
          (book.fires name (some token) rule = true ∨ 0 < book.gain token.content)) ∧
    (Token.ofSource replacement.text).content.length ≤
      token.content.length + book.gain token.content := by
  obtain ⟨quote, literal, hliteral, -, -, hblank, rfl⟩ := correct?_eq_some_iff.1 hcorrect
  obtain ⟨hsource, hquote, -⟩ := lineLiteral?_eq_some_iff.1 hliteral
  have hcontent : token.content = literal := by
    rw [Token.content, hsource, stringContent_quoted hquote]
  have hfresh : (Token.ofSource (quote :: book.revise name literal ++ [quote])).content =
      book.revise name literal := stringContent_quoted hquote _
  have hlength := length_revise_le book name literal
  rw [hcontent, hfresh]
  refine ⟨fun rule hrule hfires => ?_, hlength⟩
  rw [hchecks.fires_eq hrule, hfresh] at hfires
  rw [hchecks.fires_eq hrule, hcontent]
  have hid : rule.id = .maxLength := by
    by_contra hother
    by_cases hempty : rule.id = .nonEmpty
    · -- a text that is not blank is not empty
      have hne : book.revise name literal ≠ [] := by
        intro hnil
        rw [hnil] at hblank
        exact hblank rfl
      simp [hempty, RuleId.inspect?, hne] at hfires
    · rw [inspect?_of_isSettled (isSettled_revise book name literal) (has_of_mem hrule) hempty
        hother] at hfires
      simp at hfires
  refine ⟨hid, ?_⟩
  rw [hid, isSome_inspect?_maxLength] at hfires ⊢
  omega

/-- The article and the full stop go, the hyphen comes, and nothing is wrong with what is left. -/
theorem fires_correction_commandline :
    default.correct? "foo".toList (Token.quoted "a commandline tool.".toList) =
      some ⟨⟨0, 21⟩, "\"Command-line tool\"".toList⟩ ∧
    (∀ rule ∈ default.rules,
      default.fires "foo".toList (some (Token.ofSource "\"Command-line tool\"".toList)) rule =
          true →
        rule.id = .maxLength ∧
          (default.fires "foo".toList (some (Token.quoted "a commandline tool.".toList)) rule =
              true ∨
            0 < default.gain (Token.quoted "a commandline tool.".toList).content)) ∧
    (Token.ofSource "\"Command-line tool\"".toList).content.length ≤
      (Token.quoted "a commandline tool.".toList).content.length +
        default.gain (Token.quoted "a commandline tool.".toList).content := by
  have h : default.correct? "foo".toList (Token.quoted "a commandline tool.".toList) =
      some ⟨⟨0, 21⟩, "\"Command-line tool\"".toList⟩ := by decide +kernel
  exact ⟨h, fires_correction usesOwnChecks_default h⟩

/-- **A correction can make a description too long**, by a hyphen as well as by an upper case. -/
theorem not_forall_fires :
    (¬ ∀ (book : Rulebook) (name : Text) (token : Token) (replacement : Replacement),
      book.UsesOwnChecks → widening token.content = 0 →
      book.correct? name token = some replacement → ∀ rule ∈ book.rules,
        book.fires name (some (Token.ofSource replacement.text)) rule = true →
          book.fires name (some token) rule = true) ∧
    ¬ ∀ (book : Rulebook) (name : Text) (token : Token) (replacement : Replacement),
      book.UsesOwnChecks → closedSpellings token.content = 0 →
      book.correct? name token = some replacement → ∀ rule ∈ book.rules,
        book.fires name (some (Token.ofSource replacement.text)) rule = true →
          book.fires name (some token) rule = true := by
  have hmem (limit : Nat) : RuleId.maxLength.toRule ∈ (withMaxLength limit).rules :=
    List.mem_map_of_mem (RuleId.mem_all .maxLength)
  have hcorrect :
      (withMaxLength 11).correct? "foo".toList (Token.quoted "Commandline".toList) =
        some ⟨⟨0, 13⟩, "\"Command-line\"".toList⟩ ∧
      (withMaxLength 14).correct? "foo".toList (Token.quoted "ß command line".toList) =
        some ⟨⟨0, 17⟩, "\"SS command-line\"".toList⟩ := by decide +kernel
  refine ⟨fun h => ?_, fun h => ?_⟩
  · have hfires := h _ _ _ _ (usesOwnChecks_withMaxLength 11) (by decide) hcorrect.1 _ (hmem 11)
      (by decide)
    exact absurd hfires (by decide)
  · have hfires := h _ _ _ _ (usesOwnChecks_withMaxLength 14) (by decide) hcorrect.2 _ (hmem 14)
      (by decide)
    exact absurd hfires (by decide)

end Rulebook

end Blurb
