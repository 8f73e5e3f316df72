import Blurb.Proofs.DocumentedRules
import Blurb.Proofs.NameDeletions

/-! # Steps run twice

Trimming, upper-casing and hyphenation do all their work at once, so running one of them again
changes nothing. The other three steps take away one piece where several may stand in a row: one
article of several, one full stop of several, and of two names only the one that the delimiter
between them was counted for. `Step.LeavesWork` says of which texts that is so.

* `dropArticle_dropArticle_iff`, `dropFullStop_dropFullStop_iff` — the pieces at the ends.
* `standsAlone_removeName_iff` — a name of letters is left where it stands twice in a row.
* `Step.apply_again` — which steps change which texts when they are run again. -/

namespace Blurb

open Text Phrase

/-! ## Blanks -/

namespace Text

theorem leadingBlanks_trimStart (t : Text) : leadingBlanks (trimStart t) = [] := by
  have hhead := List.head?_dropWhile_not isBlank t
  rw [leadingBlanks, trimStart]
  cases hrest : t.dropWhile isBlank with
  | nil => rfl
  | cons c rest =>
    rw [hrest] at hhead
    exact List.takeWhile_cons_of_neg (by simpa using hhead)

theorem trailingBlanks_trimEnd (t : Text) : trailingBlanks (trimEnd t) = [] := by
  have h := leadingBlanks_trimStart t.reverse
  rw [trailingBlanks, trimEnd, List.reverse_reverse]
  exact List.reverse_eq_nil_iff.2 h

/-- **Trimming is done at once.** -/
theorem trim_trim (t : Text) : trim (trim t) = trim t := by
  refine trim_eq_self_iff.2 ⟨?_, trailingBlanks_trimEnd _⟩
  have hstart := leadingBlanks_trimStart t
  obtain ⟨rest, hrest⟩ := trimEnd_isPrefix (trimStart t)
  rw [trim]
  cases htrim : trimEnd (trimStart t) with
  | nil => rfl
  | cons c tail =>
    -- what is left starts like the text without its first blanks
    rw [htrim] at hrest
    rw [← hrest, List.cons_append, leadingBlanks, List.takeWhile_eq_nil_iff] at hstart
    exact List.takeWhile_cons_of_neg (hstart (by simp))

end Text

namespace Phrase

/-! ## Hyphens -/

/-- **Hyphenation is done at once.** -/
theorem hyphenate_hyphenate (t : Text) : hyphenate (hyphenate t) = hyphenate t :=
  hyphenate_eq_self (findCommandLine?_hyphenate t)

/-! ## Articles in a row -/

/-- **Two articles at the start**: a text goes on with a second one behind the blanks that follow
the first. -/
def StartsWithTwoArticles (t : Text) : Prop :=
  ∃ first blanks second rest, t = first ++ blanks ++ second ++ rest ∧
    (first.map fold = ['a'] ∨ first.map fold = ['a', 'n']) ∧
    blanks ≠ [] ∧ (∀ b ∈ blanks, isBlank b = true) ∧
    (second.map fold = ['a'] ∨ second.map fold = ['a', 'n']) ∧
    ∃ b after, rest = b :: after ∧ isBlank b = true

/-- An article does not start with a blank. -/
theorem trimStart_article_append {article : Text} (rest : Text)
    (h : article.map fold = ['a'] ∨ article.map fold = ['a', 'n']) :
    trimStart (article ++ rest) = article ++ rest := by
  obtain ⟨a, tail, rfl, ha⟩ : ∃ a tail, article = a :: tail ∧ fold a = 'a' := by
    rcases h with h | h
    · obtain ⟨a, tail, rfl, ha, -⟩ := List.map_eq_cons_iff.1 h
      exact ⟨a, tail, rfl, ha⟩
    · obtain ⟨a, tail, rfl, ha, -⟩ := List.map_eq_cons_iff.1 h
      exact ⟨a, tail, rfl, ha⟩
  refine List.dropWhile_cons_of_neg fun hblank => ?_
  have hletter := isFoldedLetter_of_isBlank hblank
  rw [isFoldedLetter, ha] at hletter
  exact absurd hletter (by decide)

/-- **Dropping an article again does nothing** exactly if the text had no second one. -/
theorem dropArticle_dropArticle_iff {t : Text} :
    dropArticle (dropArticle t) = dropArticle t ↔ ¬ StartsWithTwoArticles t := by
  rw [dropArticle_eq_self_iff]
  constructor
  · rintro hnone ⟨first, blanks, second, rest, rfl, hfirst, hne, hblanks, hsecond, hrest⟩
    obtain ⟨b, more, rfl⟩ := List.exists_cons_of_ne_nil hne
    have hs : stripArticle? (first ++ b :: more ++ second ++ rest) =
        some (first, b :: more ++ (second ++ rest)) :=
      stripArticle?_eq_some_iff.2
        ⟨by simp only [List.append_assoc], hfirst, b, more ++ (second ++ rest), rfl,
          hblanks b List.mem_cons_self⟩
    have hdrop : dropArticle (first ++ b :: more ++ second ++ rest) = second ++ rest := by
      rw [dropArticle, hs]
      dsimp only
      rw [trimStart, List.dropWhile_append_of_pos hblanks]
      exact trimStart_article_append rest hsecond
    have hagain : stripArticle? (second ++ rest) = some (second, rest) :=
      stripArticle?_eq_some_iff.2 ⟨rfl, hsecond, hrest⟩
    rw [hdrop, hagain] at hnone
    cases hnone
  · intro hnot
    rw [Option.eq_none_iff_forall_ne_some]
    rintro ⟨second, rest⟩ hagain
    cases hs : stripArticle? t with
    | none =>
      rw [dropArticle_eq_self_iff.2 hs, hs] at hagain
      cases hagain
    | some parts =>
      obtain ⟨first, behind⟩ := parts
      obtain ⟨-, hfirst, -⟩ := stripArticle?_eq_some_iff.1 hs
      obtain ⟨b, after, ht, hb, hdrop⟩ := dropArticle_of_some hs
      rw [hdrop] at hagain
      obtain ⟨heq, hsecond, hrest⟩ := stripArticle?_eq_some_iff.1 hagain
      refine hnot ⟨first, b :: leadingBlanks after, second, rest, ?_, hfirst, List.cons_ne_nil _ _,
        List.forall_mem_cons.2 ⟨hb, fun x hx => isBlank_of_mem_leadingBlanks hx⟩, hsecond, hrest⟩
      calc t = first ++ b :: (leadingBlanks after ++ (second ++ rest)) := by
            rw [ht, ← heq, leadingBlanks_append_trimStart]
        _ = first ++ b :: leadingBlanks after ++ second ++ rest := by
            simp only [List.append_assoc, List.cons_append]

/-! ## Full stops in a row -/

/-- **Two full stops at the end** of a text, the first of which does not belong to "etc.". -/
def EndsWithTwoStops (t : Text) : Prop := ['.', '.'] <:+ t ∧ ¬ etc ++ ['.'] <:+ t

theorem endsWithFullStop_iff {t : Text} :
    endsWithFullStop t = true ↔ ['.'] <:+ t ∧ ¬ etc <:+ t := by
  rw [endsWithFullStop, endsWith, endsWith, Bool.and_eq_true, Bool.not_eq_true',
    List.isSuffixOf_iff_suffix, ← Bool.not_eq_true, List.isSuffixOf_iff_suffix]

/-- What a text ends with before its last character. -/
theorem concat_suffix_concat_iff {ending t : Text} {c : Char} :
    ending ++ [c] <:+ t ++ [c] ↔ ending <:+ t := by
  rw [List.suffix_concat_iff]
  constructor
  · rintro (hnil | ⟨before, hsame, hsuffix⟩)
    · simp at hnil
    · exact (List.append_left_inj [c]).1 hsame ▸ hsuffix
  · exact fun h => Or.inr ⟨ending, rfl, h⟩

/-- **Dropping a full stop again does nothing** exactly if the text had no second one. -/
theorem dropFullStop_dropFullStop_iff {t : Text} :
    dropFullStop (dropFullStop t) = dropFullStop t ↔ ¬ EndsWithTwoStops t := by
  rw [dropFullStop_eq_self_iff, ← Bool.not_eq_true, not_iff_not]
  by_cases hstop : endsWithFullStop t = true
  · have ht := eq_append_of_endsWithFullStop hstop
    have htwo : ['.', '.'] <:+ dropFullStop t ++ ['.'] ↔ ['.'] <:+ dropFullStop t :=
      @concat_suffix_concat_iff ['.'] (dropFullStop t) '.'
    have hetc : etc ++ ['.'] <:+ dropFullStop t ++ ['.'] ↔ etc <:+ dropFullStop t :=
      concat_suffix_concat_iff
    rw [← ht] at htwo hetc
    rw [endsWithFullStop_iff, EndsWithTwoStops, hetc]
    exact and_congr_left fun _ => htwo.symm
  · rw [dropFullStop_eq_self_iff.2 (Bool.not_eq_true _ ▸ hstop)]
    refine iff_of_false hstop fun htwo => hstop (endsWithFullStop_iff.2 ⟨?_, fun hetc => ?_⟩)
    · exact (List.suffix_append ['.'] ['.']).trans htwo.1
    · -- both endings have two characters at least, and these differ
      have hlast := List.suffix_of_suffix_length_le htwo.1 hetc (by decide)
      exact absurd hlast (by decide)

/-! ## Names in a row -/

/-- A text starts with the name, a single delimiter and the name again, which has a delimiter or
nothing behind it. -/
def StartsTwice (name t : Text) : Prop :=
  ∃ first d rest, t = first ++ d :: rest ∧ first.map fold = name.map fold ∧
    isDelimiter d = true ∧ StartsWithName name rest

theorem StartsTwice.startsWithName {name t : Text} (h : StartsTwice name t) :
    StartsWithName name t := by
  obtain ⟨first, d, rest, rfl, hfirst, hd, -⟩ := h
  exact ⟨first, d :: rest, rfl, hfirst, by simpa using hd⟩

/-- **The name stands twice in a row**, up to case: with a single delimiter between the two, and
with a delimiter or nothing at the outer sides of them. -/
def StandsTwice (name t : Text) : Prop :=
  name ≠ [] ∧ ∃ before rest, t = before ++ rest ∧ (∀ c ∈ before.getLast?, isDelimiter c = true) ∧
    StartsTwice name rest

variable {name t : Text}

/-- A removal inside a text keeps its first character. -/
theorem head?_removeInnerNames (name t : Text) : (removeInnerNames name t).head? = t.head? := by
  induction t using removeInnerNames_induction name with
  | nil => rw [removeInnerNames_nil]
  | removed c rest close after hc hs heq ih =>
    rw [heq]
    rfl
  | kept c rest heq ih =>
    rw [heq]
    rfl

/-- A removal inside a text passes over letters. -/
theorem removeInnerNames_append {word : Text} (hword : ∀ x ∈ word, isDelimiter x = false)
    (rest : Text) : removeInnerNames name (word ++ rest) = word ++ removeInnerNames name rest := by
  induction word with
  | nil => rfl
  | cons c word ih =>
    rw [List.forall_mem_cons] at hword
    have hnone : removeInnerNames name (c :: (word ++ rest)) =
        c :: removeInnerNames name (word ++ rest) :=
      removeInnerNames_of_none fun hc => absurd (hword.1.symm.trans hc) (by decide)
    rw [List.cons_append, hnone, ih hword.2, List.cons_append]

/-- A name of letters occurs in letters. -/
theorem isDelimiter_of_mem_found (hletters : ∀ c ∈ name, isDelimiter c = false) {found : Text}
    (hfound : found.map fold = name.map fold) : ∀ x ∈ found, isDelimiter x = false := by
  refine isDelimiter_of_map_fold hfound (List.all_eq_true.2 fun x hx => ?_)
  obtain ⟨c, hc, rfl⟩ := List.mem_map.1 hx
  simpa [isDelimiter, isFoldedLetter] using hletters c hc

/-- **A removal inside a text does not touch a name of letters at its start**, nor brings one. -/
theorem startsWithName_removeInnerNames_iff (hletters : ∀ c ∈ name, isDelimiter c = false) :
    StartsWithName name (removeInnerNames name t) ↔ StartsWithName name t := by
  constructor
  · rintro ⟨found, rest, hfound, hname, hclosed⟩
    have hword := isDelimiter_of_mem_found hletters hname
    have hjoined : IsJoined found := by
      simpa using isJoined_append hword (show IsJoined [] from trivial)
    obtain ⟨after, rfl⟩ := hjoined.prefix_of_removeInnerNames ⟨rest, hfound.symm⟩
    rw [removeInnerNames_append hword, List.append_cancel_left_eq] at hfound
    rw [← hfound, head?_removeInnerNames] at hclosed
    exact ⟨found, after, rfl, hname, hclosed⟩
  · rintro ⟨found, after, rfl, hname, hclosed⟩
    have hword := isDelimiter_of_mem_found hletters hname
    rw [← head?_removeInnerNames name] at hclosed
    exact ⟨found, _, removeInnerNames_append hword after, hname, hclosed⟩

/-- A name of letters does not start with a delimiter. -/
theorem not_startsWithName_cons {d : Char} (hname : name ≠ [])
    (hletters : ∀ c ∈ name, isDelimiter c = false) (hd : isDelimiter d = true) (rest : Text) :
    ¬ StartsWithName name (d :: rest) := by
  rintro ⟨found, after, heq, hfound, -⟩
  cases found with
  | nil => exact hname (List.map_eq_nil_iff.1 hfound.symm)
  | cons c found =>
    have hc := isDelimiter_of_mem_found hletters hfound c List.mem_cons_self
    rw [← (List.cons.inj heq).1, hd] at hc
    cases hc

theorem not_startsWithName_nil (hname : name ≠ []) : ¬ StartsWithName name [] := by
  rintro ⟨found, after, heq, hfound, -⟩
  rw [(List.append_eq_nil_iff.1 heq.symm).1] at hfound
  exact hname (List.map_eq_nil_iff.1 hfound.symm)

/-- **Where a name of letters is left inside a text, it stood twice in a row.** The second of the
two stays, because the delimiter before it is the one that closes the first. -/
theorem startsTwice_of_removeInnerNames (hname : name ≠ [])
    (hletters : ∀ c ∈ name, isDelimiter c = false)
    (h : HasBehindDelimiter (StartsWithName name) (removeInnerNames name t)) :
    HasBehindDelimiter (StartsTwice name) t := by
  -- as the removal goes: behind a name that goes it looks on after the delimiter that closed it
  induction t using removeInnerNames.induct name with
  | case1 =>
    rw [removeInnerNames_nil] at h
    exact absurd h HasBehindDelimiter.not_nil
  | case2 c rest hc close after hs ih =>
    rw [removeInnerNames_of_some hc hs, List.cons_append, HasBehindDelimiter.cons_iff] at h
    obtain ⟨first, rfl, hfirst, ⟨rfl, rfl⟩ | ⟨d, rfl, hd⟩⟩ := stripClosedName?_eq_some_iff.1 hs
    · rw [removeInnerNames_nil, List.nil_append] at h
      rcases h with ⟨-, hnil⟩ | hnil
      · exact absurd hnil (not_startsWithName_nil hname)
      · exact absurd hnil HasBehindDelimiter.not_nil
    · rw [List.singleton_append, HasBehindDelimiter.cons_iff] at h
      rcases h with ⟨-, hstarts⟩ | ⟨-, hstarts⟩ | hlater
      · exact absurd hstarts (not_startsWithName_cons hname hletters hd _)
      · have hsecond := (startsWithName_removeInnerNames_iff hletters).1 hstarts
        exact HasBehindDelimiter.cons_iff.2 (.inl ⟨hc, first, d, after, rfl, hfirst, hd, hsecond⟩)
      · have hrest := (ih hlater).append (c :: (first ++ [d]))
        simpa using hrest
  | case3 c rest hc hs ih =>
    rw [removeInnerNames_of_none fun _ => hs, HasBehindDelimiter.cons_iff] at h
    rcases h with ⟨-, hstarts⟩ | hlater
    · exact absurd ((startsWithName_removeInnerNames_iff hletters).1 hstarts)
        (not_startsWithName hs)
    · exact (ih hlater).append [c]
  | case4 c rest hc ih =>
    rw [removeInnerNames_of_none fun hd => absurd hd hc, HasBehindDelimiter.cons_iff] at h
    rcases h with ⟨hd, -⟩ | hlater
    · exact absurd hd hc
    · exact (ih hlater).append [c]

/-- **Where a name of letters stands twice in a row inside a text, one is left.** -/
theorem startsWithName_of_startsTwice (hletters : ∀ c ∈ name, isDelimiter c = false)
    (h : HasBehindDelimiter (StartsTwice name) t) :
    HasBehindDelimiter (StartsWithName name) (removeInnerNames name t) := by
  induction t using removeInnerNames.induct name with
  | case1 => exact absurd h HasBehindDelimiter.not_nil
  | case2 c rest hc close after hs ih =>
    rw [removeInnerNames_of_some hc hs]
    obtain ⟨found, rfl, hfound, hclose⟩ := stripClosedName?_eq_some_iff.1 hs
    have hword := isDelimiter_of_mem_found hletters hfound
    rcases HasBehindDelimiter.cons_iff.1 h with ⟨-, first, d, behind, heq, hfirst, hd, hsecond⟩ | h
    · -- the first one goes, and the second one stands behind what closed it
      have hlength : found.length = first.length := by
        simpa using congrArg List.length (hfound.trans hfirst.symm)
      obtain ⟨rfl, hbehind⟩ := List.append_inj heq hlength
      rcases hclose with ⟨rfl, rfl⟩ | ⟨e, rfl, -⟩
      · cases hbehind
      · obtain ⟨rfl, rfl⟩ := List.cons.inj hbehind
        exact ⟨[c], e, _, rfl, hd, (startsWithName_removeInnerNames_iff hletters).2 hsecond⟩
    · have hbehind := h.of_append hword
      rcases hclose with ⟨rfl, rfl⟩ | ⟨e, rfl, he⟩
      · exact absurd hbehind HasBehindDelimiter.not_nil
      · rcases HasBehindDelimiter.cons_iff.1 hbehind with ⟨-, htwice⟩ | hlater
        · -- what closed the one before opens no other, so the first of the two stays
          exact ⟨[c], e, _, rfl, he,
            (startsWithName_removeInnerNames_iff hletters).2 htwice.startsWithName⟩
        · exact (ih hlater).append [c, e]
  | case3 c rest hc hs ih =>
    rw [removeInnerNames_of_none fun _ => hs]
    rcases HasBehindDelimiter.cons_iff.1 h with ⟨-, htwice⟩ | hlater
    · exact absurd htwice.startsWithName (not_startsWithName hs)
    · exact (ih hlater).append [c]
  | case4 c rest hc ih =>
    rw [removeInnerNames_of_none fun hd => absurd hd hc]
    rcases HasBehindDelimiter.cons_iff.1 h with ⟨hd, -⟩ | hlater
    · exact absurd hd hc
    · exact (ih hlater).append [c]

/-- **A name of letters is left alone exactly where it stood twice in a row.** -/
theorem standsAlone_removeName_iff (hletters : ∀ c ∈ name, isDelimiter c = false) :
    StandsAlone name (removeName name t) ↔ StandsTwice name t := by
  have hspace : isDelimiter ' ' = true := by decide
  rw [standsAlone_iff_hasBehindDelimiter, StandsTwice,
    ← HasBehindDelimiter.cons_delimiter_iff hspace]
  refine and_congr_right fun hname => ?_
  rw [← removeInnerNames_cons_delimiter hname hspace]
  exact ⟨startsTwice_of_removeInnerNames hname hletters,
    startsWithName_of_startsTwice hletters⟩

end Phrase

/-! ## Steps -/

namespace Step

variable {policy : Policy} {name text : Text} {step : Step}

/-- **The default rules want every step.** -/
theorem isEnabled_ofPolicy (policy : Policy) (step : Step) :
    step.isEnabled (Rulebook.ofPolicy policy) = true := by
  cases step <;> rfl

theorem run_ofPolicy (policy : Policy) (name text : Text) (step : Step) :
    step.run (Rulebook.ofPolicy policy) name text = step.apply policy name text :=
  run_of_isEnabled (isEnabled_ofPolicy policy step) text

/-- **Upper-casing is done at once.** -/
theorem apply_capitalize_apply (policy : Policy) (name text : Text) :
    capitalize.apply policy name (capitalize.apply policy name text) =
      capitalize.apply policy name text := by
  rw [← run_ofPolicy, ← run_ofPolicy]
  exact capitalize_run_run text

/-- **A step leaves work for a second run**: the text starts with two articles, ends with two full
stops, or still holds the name as a word of its own when the step has removed it. -/
def LeavesWork (name text : Text) : Step → Prop
  | stripWhitespace | capitalize | hyphenateCommandLine => False
  | stripArticle => StartsWithTwoArticles text
  | removeName => StandsAlone name (Phrase.removeName name text)
  | stripFullStop => EndsWithTwoStops text

/-- **A second run changes nothing** exactly if the first one leaves no work. -/
theorem apply_apply_eq_iff (policy : Policy) (name text : Text) (step : Step) :
    step.apply policy name (step.apply policy name text) = step.apply policy name text ↔
      ¬ step.LeavesWork name text := by
  cases step with
  | stripWhitespace => exact iff_of_true (trim_trim text) not_false
  | stripArticle => exact dropArticle_dropArticle_iff
  | capitalize => exact iff_of_true (apply_capitalize_apply policy name text) not_false
  | hyphenateCommandLine => exact iff_of_true (hyphenate_hyphenate text) not_false
  | removeName => exact removeName_eq_self_iff
  | stripFullStop => exact dropFullStop_dropFullStop_iff

/-! ## Runs in a row -/

/-- A step that takes characters away takes one at least, if it does anything. -/
theorem length_apply_lt (hcapital : step ≠ capitalize) (hhyphen : step ≠ hyphenateCommandLine)
    (h : step.apply policy name text ≠ text) :
    (step.apply policy name text).length < text.length := by
  have hsublist := run_sublist (Rulebook.ofPolicy policy) name text hcapital hhyphen
  rw [run_ofPolicy] at hsublist
  exact lt_of_le_of_ne hsublist.length_le fun hlength => h (hsublist.eq_of_length hlength)

/-- A step does all its work at once, or what it leaves is shorter. -/
theorem apply_apply_or_length_lt (policy : Policy) (name text : Text) (step : Step) :
    step.apply policy name (step.apply policy name text) = step.apply policy name text ∨
      (step.apply policy name text).length < text.length := by
  by_cases hsame : step.apply policy name text = text
  · exact .inl (by rw [hsame, hsame])
  · cases step with
    | capitalize => exact .inl (apply_capitalize_apply policy name text)
    | hyphenateCommandLine => exact .inl (hyphenate_hyphenate text)
    | stripWhitespace | stripArticle | removeName | stripFullStop =>
      exact .inr (length_apply_lt (by decide) (by decide) hsame)

theorem apply_nil (policy : Policy) (name : Text) (step : Step) :
    step.apply policy name [] = [] := by
  cases step with
  | hyphenateCommandLine => exact hyphenate_nil
  | removeName => exact List.sublist_nil.1 (removeName_sublist name [])
  | stripWhitespace | stripArticle | capitalize | stripFullStop => rfl

/-- **A step comes to rest** when it is run as often as the text has characters. -/
theorem apply_iterate {runs : Nat} (h : text.length ≤ runs) :
    step.apply policy name ((fun t => step.apply policy name t)^[runs] text) =
      (fun t => step.apply policy name t)^[runs] text := by
  induction runs generalizing text with
  | zero =>
    rw [List.length_eq_zero_iff.1 (Nat.le_zero.1 h), Function.iterate_zero_apply, apply_nil]
  | succ runs ih =>
    rw [Function.iterate_succ_apply]
    rcases apply_apply_or_length_lt policy name text step with hdone | hless
    · rw [Function.iterate_fixed hdone]
      exact hdone
    · exact ih (Nat.le_of_lt_succ (Nat.lt_of_lt_of_le hless h))

/-- **Which steps change which texts when they are run again.** Trimming, upper-casing and
hyphenation never do, and the others just where the first run leaves them work: a second article, a
second full stop, or a name that stands alone, which for a name of letters means one that stood
twice in a row. Run once for each character of the text, every step comes to rest. -/
theorem apply_again (policy : Policy) (name text : Text) (step : Step) :
    (step.apply policy name (step.apply policy name text) = step.apply policy name text ↔
      ¬ step.LeavesWork name text) ∧
    ((∀ c ∈ name, isDelimiter c = false) →
      (removeName.LeavesWork name text ↔ StandsTwice name text)) ∧
    ∀ runs, text.length ≤ runs →
      step.apply policy name ((fun t => step.apply policy name t)^[runs] text) =
        (fun t => step.apply policy name t)^[runs] text :=
  ⟨apply_apply_eq_iff policy name text step, standsAlone_removeName_iff,
    fun _ hruns => apply_iterate hruns⟩

/-- **Three steps are not done at once**: a second article, a second copy of the name and a second
full stop are left by the first run and go with the second. -/
theorem not_forall_apply_apply :
    (¬ ∀ (policy : Policy) (name text : Text),
      stripArticle.apply policy name (stripArticle.apply policy name text) =
        stripArticle.apply policy name text) ∧
    (¬ ∀ (policy : Policy) (name text : Text),
      removeName.apply policy name (removeName.apply policy name text) =
        removeName.apply policy name text) ∧
    ¬ ∀ (policy : Policy) (name text : Text),
      stripFullStop.apply policy name (stripFullStop.apply policy name text) =
        stripFullStop.apply policy name text := by
  refine ⟨fun h => ?_, fun h => ?_, fun h => ?_⟩
  · exact absurd (h Rulebook.default.toPolicy "foo".toList "an a tool".toList) (by decide)
  · exact absurd (h Rulebook.default.toPolicy "foo".toList "foo foo bar".toList) (by decide +kernel)
  · exact absurd (h Rulebook.default.toPolicy "foo".toList "Tool..".toList) (by decide)

end Step

end Blurb
