import Blurb.Proofs.AuditReports
import Blurb.Proofs.CommandLineWords
import Blurb.Proofs.PhraseEnds
import Mathlib

/-! # The documented rules

What each rule looks for is said here without any search, and the audit under the default rules is
read against it: it reports, in rule order, exactly the rules whose condition holds, each with the
part of the description and the suggestion that the condition names.

* `RuleId.Finds` — the conditions.
* `findCommandLine?_eq_some_iff` — the search finds the leftmost part that wants a hyphen.
* `RuleId.inspect?_eq_some_iff` — a check yields a finding exactly under its condition.
* `Rulebook.audit_ofPolicy` — the audit under the default rules. -/

namespace Blurb

open Text Phrase

/-! ## ASCII letters up to case -/

theorem fold_eq_toLower_ascii : ∀ n < 0x7B, fold (Char.ofNat n) = (Char.ofNat n).toLower := by
  decide

theorem toNat_lt_of_toLower {c l : Char} (h : c.toLower = l) (hl : l.toNat < 0x7B) :
    c.toNat < 0x7B := by
  rw [Char.toLower] at h
  split at h
  · next hcapital =>
    have := UInt32.le_iff_toNat_le.1 hcapital.2
    exact Nat.lt_of_le_of_lt this (by decide)
  · rwa [h]

/-- **Only ASCII letters fold to a small letter** other than s and k, and they do so as in ASCII. -/
theorem fold_eq_iff_toLower {c l : Char} (hl : isSmallLetter l = true) (hs : l ≠ 's')
    (hk : l ≠ 'k') : fold c = l ↔ c.toLower = l := by
  have hcode : c.toNat < 0x7B → fold c = c.toLower := by
    intro h
    have := fold_eq_toLower_ascii c.toNat h
    rwa [Char.ofNat_toNat] at this
  constructor
  · intro h
    rw [← hcode (toNat_lt_of_fold h hl hs hk), h]
  · intro h
    have hsmall := (isSmallLetter_iff.1 hl).2
    rw [hcode (toNat_lt_of_toLower h (by omega)), h]

/-- A word without the letters s and k is found by folding exactly where it stands in ASCII
letters. -/
theorem map_fold_eq_iff {word t : Text}
    (hword : (word.all fun l => isSmallLetter l && l != 's' && l != 'k') = true) :
    t.map fold = word ↔ t.map Char.toLower = word := by
  induction word generalizing t with
  | nil => simp
  | cons l word ih =>
    rw [List.all_cons, Bool.and_eq_true, Bool.and_eq_true, Bool.and_eq_true, bne_iff_ne,
      bne_iff_ne] at hword
    obtain ⟨⟨⟨hl, hs⟩, hk⟩, hrest⟩ := hword
    cases t with
    | nil => simp
    | cons c t =>
      simp only [List.map_cons, List.cons.injEq, fold_eq_iff_toLower hl hs hk, ih hrest]

/-! ## Runs of blanks -/

/-- **A longest text with a property**: no text with the property is longer. -/
def IsLongest (p : Text → Prop) (t : Text) : Prop := p t ∧ ∀ u, p u → u.length ≤ t.length

/-- A run of blanks at the start of a text. -/
def IsBlankStart (t blanks : Text) : Prop := blanks <+: t ∧ ∀ c ∈ blanks, isBlank c = true

/-- A run of blanks at the end of a text. -/
def IsBlankEnd (t blanks : Text) : Prop := blanks <:+ t ∧ ∀ c ∈ blanks, isBlank c = true

theorem isBlankEnd_iff {t blanks : Text} :
    IsBlankEnd t blanks ↔ IsBlankStart t.reverse blanks.reverse := by
  simp only [IsBlankEnd, IsBlankStart, List.reverse_prefix, List.mem_reverse]

/-- **The longest run of blanks at the start** is the one that is cut off there. -/
theorem isLongest_blankStart_iff {t blanks : Text} :
    IsLongest (IsBlankStart t) blanks ↔ blanks = leadingBlanks t := by
  have hstart : IsBlankStart t (leadingBlanks t) :=
    ⟨List.takeWhile_prefix _, fun c hc => List.all_eq_true.1 List.all_takeWhile c hc⟩
  have hlongest : ∀ u, IsBlankStart t u → u.length ≤ (leadingBlanks t).length := by
    rintro u ⟨⟨rest, rfl⟩, hu⟩
    rw [leadingBlanks, List.takeWhile_append_of_pos hu, List.length_append]
    omega
  constructor
  · rintro ⟨hblanks, hmax⟩
    have hprefix := List.prefix_of_prefix_length_le hblanks.1 hstart.1 (hlongest blanks hblanks)
    exact hprefix.eq_of_length_le (hmax _ hstart)
  · rintro rfl
    exact ⟨hstart, hlongest⟩

/-- **The longest run of blanks at the end** is the one that is cut off there. -/
theorem isLongest_blankEnd_iff {t blanks : Text} :
    IsLongest (IsBlankEnd t) blanks ↔ blanks = trailingBlanks t := by
  have hreverse : IsLongest (IsBlankEnd t) blanks ↔
      IsLongest (IsBlankStart t.reverse) blanks.reverse := by
    simp only [IsLongest, isBlankEnd_iff]
    refine and_congr_right fun _ => ⟨fun h u hu => ?_, fun h u hu => ?_⟩
    · simpa using h u.reverse (by simpa using hu)
    · simpa using h u.reverse hu
  rw [hreverse, isLongest_blankStart_iff, leadingBlanks, trailingBlanks, List.reverse_eq_iff]

/-- **The first word of a text**: behind blanks a run of characters that are not blank, with a blank
or nothing behind it. -/
def IsFirstWord (t word : Text) : Prop :=
  ∃ blanks rest, t = blanks ++ word ++ rest ∧ (∀ c ∈ blanks, isBlank c = true) ∧
    word ≠ [] ∧ (∀ c ∈ word, isBlank c = false) ∧ ∀ c ∈ rest.head?, isBlank c = true

theorem isFirstWord_iff {t word : Text} :
    IsFirstWord t word ↔ word = firstWord t ∧ firstWord t ≠ [] := by
  constructor
  · rintro ⟨blanks, rest, rfl, hblanks, hne, hword, hrest⟩
    obtain ⟨w, ws, rfl⟩ := List.exists_cons_of_ne_nil hne
    have hfirst : isBlank w = false := hword w List.mem_cons_self
    have htrim : trimStart (blanks ++ (w :: ws) ++ rest) = (w :: ws) ++ rest := by
      rw [trimStart, List.append_assoc, List.dropWhile_append_of_pos hblanks, List.cons_append,
        List.dropWhile_cons_of_neg (by simp [hfirst])]
    have hbehind : rest.takeWhile (fun c => !isBlank c) = [] := by
      cases rest with
      | nil => rfl
      | cons r rest => simp [hrest r rfl]
    have heq : firstWord (blanks ++ (w :: ws) ++ rest) = w :: ws := by
      rw [firstWord, htrim, List.takeWhile_append_of_pos (by simpa using hword), hbehind,
        List.append_nil]
    rw [heq]
    exact ⟨rfl, hne⟩
  · rintro ⟨rfl, hne⟩
    refine ⟨leadingBlanks t, (trimStart t).dropWhile fun c => !isBlank c, ?_, ?_, hne, ?_, ?_⟩
    · rw [firstWord, List.append_assoc, List.takeWhile_append_dropWhile,
        leadingBlanks_append_trimStart]
    · exact fun c hc => List.all_eq_true.1 List.all_takeWhile c hc
    · intro c hc
      simpa using List.all_eq_true.1 List.all_takeWhile c hc
    · intro c hc
      have := List.head?_dropWhile_not (fun c => !isBlank c) (trimStart t)
      rw [Option.mem_def.1 hc] at this
      simpa using this

/-! ## The leftmost "command line" -/

/-- **"command" and "line" in ASCII letters of any case**, with at most one space between them. -/
def IsCommandLineAscii (found : Text) : Prop :=
  ∃ first gap second : Text, found = first ++ gap ++ second ∧
    first.map Char.toLower = "command".toList ∧ (gap = [] ∨ gap = [' ']) ∧
    second.map Char.toLower = "line".toList

theorem isCommandLine_iff_ascii {found : Text} :
    IsCommandLine found ↔ IsCommandLineAscii found := by
  have hcommand : ∀ {t : Text}, t.map fold = command ↔ t.map Char.toLower = "command".toList :=
    map_fold_eq_iff (by decide)
  have hline : ∀ {t : Text}, t.map fold = line ↔ t.map Char.toLower = "line".toList :=
    map_fold_eq_iff (by decide)
  simp only [IsCommandLine, IsCommandLineAscii, hcommand, hline]

/-- **The search finds the leftmost part that wants a hyphen.** -/
theorem findCommandLine?_eq_some_iff {t found : Text} :
    findCommandLine? t = some found ↔
      ∃ before after, t = before ++ found ++ after ∧ IsCommandLine found ∧
        ∀ earlier part rest, t = earlier ++ part ++ rest → IsCommandLine part →
          before.length ≤ earlier.length := by
  induction t generalizing found with
  | nil =>
    simp only [findCommandLine?, reduceCtorEq, false_iff]
    rintro ⟨before, after, ht, hfound, -⟩
    have hnil : found = [] := by
      have := ht.symm
      simp only [List.append_eq_nil_iff] at this
      exact this.1.2
    exact hfound.ne_nil hnil
  | cons c rest ih =>
    cases hstrip : stripCommandLine? (c :: rest) with
    | some parts =>
      obtain ⟨part, after⟩ := parts
      rw [findCommandLine?, hstrip, Option.some.injEq]
      obtain ⟨ht, hpart⟩ := stripCommandLine?_eq_some_iff.1 hstrip
      constructor
      · rintro rfl
        exact ⟨[], after, ht, hpart, by simp⟩
      · rintro ⟨before, later, hfound, hline, hleft⟩
        -- a part stands at the very start, so the leftmost one does
        have hbefore : before = [] := by
          have := hleft [] part after ht hpart
          simpa using this
        rw [hbefore, List.nil_append] at hfound
        have hsame := stripCommandLine?_eq_some_iff.2 ⟨hfound, hline⟩
        rw [hstrip, Option.some.injEq, Prod.mk.injEq] at hsame
        exact hsame.1
    | none =>
      have hnone : ∀ part later, c :: rest = part ++ later → ¬ IsCommandLine part := by
        intro part later hpart
        exact stripCommandLine?_eq_none_iff.1 hstrip part ⟨later, hpart.symm⟩
      rw [findCommandLine?, hstrip]
      dsimp only
      rw [ih]
      constructor
      · rintro ⟨before, after, rfl, hline, hleft⟩
        refine ⟨c :: before, after, rfl, hline, fun earlier part later ht hpart => ?_⟩
        cases earlier with
        | nil => exact absurd hpart (hnone part later ht)
        | cons d earlier =>
          rw [List.cons_append, List.cons_append, List.cons.injEq] at ht
          exact Nat.succ_le_succ (hleft earlier part later ht.2 hpart)
      · rintro ⟨before, after, ht, hline, hleft⟩
        cases before with
        | nil => exact absurd hline (hnone found after ht)
        | cons d before =>
          rw [List.cons_append, List.cons_append, List.cons.injEq] at ht
          refine ⟨before, after, ht.2, hline, fun earlier part later hrest hpart => ?_⟩
          have := hleft (c :: earlier) part later (by rw [hrest]; rfl) hpart
          exact Nat.le_of_succ_le_succ this

/-! ## First characters and the name -/

theorem startsSmall_iff {t : Text} :
    startsSmall t = true ↔ ∃ first ∈ t.head?, 'a' ≤ first ∧ first ≤ 'z' := by
  cases t <;> simp [startsSmall, isSmallLetter]

/-- **The name at the start** is a part that equals it up to case, with a space behind it. -/
theorem leadingName?_eq_some_iff {name t part : Text} :
    leadingName? name t = some part ↔
      ∃ found rest, part = found ++ [' '] ∧ t = found ++ ' ' :: rest ∧
        found.map fold = name.map fold := by
  rw [leadingName?]
  constructor
  · intro h
    split at h
    · next found rest hstrip =>
      obtain ⟨ht, hname⟩ := stripFolded?_eq_some_iff.1 hstrip
      exact ⟨found, rest, (Option.some.inj h).symm, ht, hname⟩
    · simp at h
  · rintro ⟨found, rest, rfl, ht, hname⟩
    rw [stripFolded?_eq_some_iff.2 ⟨ht, hname⟩]
    rfl

theorem trimEnd_append_space (t : Text) : trimEnd (t ++ [' ']) = trimEnd t := by
  rw [trimEnd, trimEnd, List.reverse_append, List.reverse_singleton, List.singleton_append,
    List.dropWhile_cons_of_pos (by decide)]

/-! ## The conditions -/

/-- **The documented condition of a rule**, and what it finds: the part of the description that it
names, a spelling that it suggests, or the length. -/
def RuleId.Finds (policy : Policy) (name content : Text) : RuleId → Finding → Prop
  | .presence, _ => False
  | .nonEmpty, finding => content = [] ∧ finding = ⟨none, none, none⟩
  | .leadingSpace, finding =>
    ∃ blanks, IsLongest (IsBlankStart content) blanks ∧ blanks ≠ [] ∧
      finding = ⟨some blanks, none, none⟩
  | .trailingSpace, finding =>
    ∃ blanks, IsLongest (IsBlankEnd content) blanks ∧ blanks ≠ [] ∧
      finding = ⟨some blanks, none, none⟩
  | .commandLine, finding =>
    ∃ before found after, content = before ++ found ++ after ∧ IsCommandLineAscii found ∧
      (∀ earlier part rest, content = earlier ++ part ++ rest → IsCommandLineAscii part →
        before.length ≤ earlier.length) ∧
      finding = ⟨some found, some (found.take 1 ++ "ommand-line".toList), none⟩
  | .indefiniteArticle, finding =>
    ∃ article blank rest, content = article ++ blank :: rest ∧
      (article.map Char.toLower = "a".toList ∨ article.map Char.toLower = "an".toList) ∧
      isBlank blank = true ∧ finding = ⟨some article, none, none⟩
  | .capitalization, finding =>
    (∃ first ∈ content.head?, 'a' ≤ first ∧ first ≤ 'z') ∧
      (∃ word, IsFirstWord content word ∧ word ∉ policy.lowercaseWords) ∧
      finding = ⟨none, none, none⟩
  | .selfReference, finding =>
    name ≠ [] ∧ ∃ found rest, content = found ++ ' ' :: rest ∧ found.map fold = name.map fold ∧
      finding = ⟨some (trimEnd found), none, none⟩
  | .fullStop, finding =>
    ".".toList <:+ content ∧ ¬ "etc.".toList <:+ content ∧ finding = ⟨none, none, none⟩
  | .maxLength, finding =>
    policy.maxLength < content.length ∧ finding = ⟨none, none, some content.length⟩

namespace RuleId

variable {policy : Policy} {name content : Text} {finding : Finding}

theorem inspect?_nonEmpty_iff : inspect? policy name content nonEmpty = some finding ↔
    nonEmpty.Finds policy name content finding := by
  simp only [inspect?, Finds, Option.ite_none_right_eq_some, Option.some.injEq, List.isEmpty_iff]
  exact and_congr_right fun _ => eq_comm

theorem inspect?_leadingSpace_iff : inspect? policy name content leadingSpace = some finding ↔
    leadingSpace.Finds policy name content finding := by
  simp only [inspect?, Finds, isLongest_blankStart_iff, Option.ite_none_left_eq_some,
    Option.some.injEq, List.isEmpty_iff, exists_eq_left]
  exact and_congr_right fun _ => eq_comm

theorem inspect?_trailingSpace_iff : inspect? policy name content trailingSpace = some finding ↔
    trailingSpace.Finds policy name content finding := by
  simp only [inspect?, Finds, isLongest_blankEnd_iff, Option.ite_none_left_eq_some,
    Option.some.injEq, List.isEmpty_iff, exists_eq_left]
  exact and_congr_right fun _ => eq_comm

theorem inspect?_commandLine_iff : inspect? policy name content commandLine = some finding ↔
    commandLine.Finds policy name content finding := by
  have hspelling : ∀ found, hyphenatedSpelling found = found.take 1 ++ "ommand-line".toList :=
    fun _ => rfl
  simp only [inspect?, Finds, Option.map_eq_some_iff, findCommandLine?_eq_some_iff,
    isCommandLine_iff_ascii, hspelling]
  constructor
  · rintro ⟨found, ⟨before, after, ht, hfound, hleft⟩, rfl⟩
    exact ⟨before, found, after, ht, hfound, hleft, rfl⟩
  · rintro ⟨before, found, after, ht, hfound, hleft, rfl⟩
    exact ⟨found, ⟨before, after, ht, hfound, hleft⟩, rfl⟩

theorem inspect?_indefiniteArticle_iff :
    inspect? policy name content indefiniteArticle = some finding ↔
      indefiniteArticle.Finds policy name content finding := by
  have ha : ∀ {t : Text}, t.map fold = ['a'] ↔ t.map Char.toLower = "a".toList :=
    map_fold_eq_iff (by decide)
  have han : ∀ {t : Text}, t.map fold = ['a', 'n'] ↔ t.map Char.toLower = "an".toList :=
    map_fold_eq_iff (by decide)
  simp only [inspect?, Finds, Option.map_eq_some_iff, Prod.exists, stripArticle?_eq_some_iff, ha,
    han]
  constructor
  · rintro ⟨article, _, ⟨ht, harticle, blank, rest, rfl, hblank⟩, rfl⟩
    exact ⟨article, blank, rest, ht, harticle, hblank, rfl⟩
  · rintro ⟨article, blank, rest, ht, harticle, hblank, rfl⟩
    exact ⟨article, _, ⟨ht, harticle, blank, rest, rfl, hblank⟩, rfl⟩

theorem inspect?_capitalization_iff :
    inspect? policy name content capitalization = some finding ↔
      capitalization.Finds policy name content finding := by
  have hword (hsmall : startsSmall content = true) :
      (∃ word, IsFirstWord content word ∧ word ∉ policy.lowercaseWords) ↔
        firstWord content ∉ policy.lowercaseWords := by
    simp only [isFirstWord_iff, firstWord_ne_nil hsmall, ne_eq, not_false_eq_true, and_true,
      exists_eq_left]
  simp only [inspect?, Finds, Option.ite_none_right_eq_some, Option.some.injEq, Bool.and_eq_true,
    Bool.not_eq_true', Policy.allows, List.contains_eq_mem, decide_eq_false_iff_not,
    ← startsSmall_iff]
  constructor
  · rintro ⟨⟨hallowed, hsmall⟩, rfl⟩
    exact ⟨hsmall, (hword hsmall).2 hallowed, rfl⟩
  · rintro ⟨hsmall, hallowed, rfl⟩
    exact ⟨⟨(hword hsmall).1 hallowed, hsmall⟩, rfl⟩

theorem inspect?_selfReference_iff :
    inspect? policy name content selfReference = some finding ↔
      selfReference.Finds policy name content finding := by
  simp only [inspect?, Finds, Option.ite_none_left_eq_some, List.isEmpty_iff,
    Option.map_eq_some_iff, leadingName?_eq_some_iff]
  refine and_congr_right fun _ => ⟨?_, ?_⟩
  · rintro ⟨_, ⟨found, rest, rfl, ht, hname⟩, rfl⟩
    exact ⟨found, rest, ht, hname, by rw [trimEnd_append_space]⟩
  · rintro ⟨found, rest, ht, hname, rfl⟩
    exact ⟨_, ⟨found, rest, rfl, ht, hname⟩, by rw [trimEnd_append_space]⟩

theorem inspect?_fullStop_iff : inspect? policy name content fullStop = some finding ↔
    fullStop.Finds policy name content finding := by
  have hends (ending : Text) : endsWith ending content = true ↔ ending <:+ content :=
    List.isSuffixOf_iff_suffix
  simp only [inspect?, Finds, Option.ite_none_right_eq_some, Option.some.injEq, endsWithFullStop,
    Bool.and_eq_true, Bool.not_eq_true', Bool.eq_false_iff, ne_eq, hends, and_assoc]
  exact and_congr_right fun _ => and_congr_right fun _ => eq_comm

theorem inspect?_maxLength_iff : inspect? policy name content maxLength = some finding ↔
    maxLength.Finds policy name content finding := by
  simp only [inspect?, Finds, Option.ite_none_right_eq_some, Option.some.injEq]
  exact and_congr_right fun _ => eq_comm

/-- **A check yields a finding exactly under its documented condition.** -/
theorem inspect?_eq_some_iff {id : RuleId} :
    id.inspect? policy name content = some finding ↔ id.Finds policy name content finding := by
  cases id with
  | presence => simp [inspect?, Finds]
  | nonEmpty => exact inspect?_nonEmpty_iff
  | leadingSpace => exact inspect?_leadingSpace_iff
  | trailingSpace => exact inspect?_trailingSpace_iff
  | commandLine => exact inspect?_commandLine_iff
  | indefiniteArticle => exact inspect?_indefiniteArticle_iff
  | capitalization => exact inspect?_capitalization_iff
  | selfReference => exact inspect?_selfReference_iff
  | fullStop => exact inspect?_fullStop_iff
  | maxLength => exact inspect?_maxLength_iff

/-- **On an empty description no rule fires but `nonEmpty`.** -/
theorem inspect?_nil {id : RuleId} (h : id ≠ .nonEmpty) : id.inspect? policy name [] = none := by
  cases id with
  | nonEmpty => exact absurd rfl h
  | selfReference => cases name <;> rfl
  | presence | leadingSpace | trailingSpace | commandLine | indefiniteArticle => rfl
  | capitalization | fullStop | maxLength =>
    simp [inspect?, startsSmall, endsWithFullStop, endsWith]

end RuleId

/-! ## The audit under the default rules -/

namespace Rulebook

/-- **The default rules**, tuned by a policy. -/
def ofPolicy (policy : Policy) : Rulebook :=
  { policy with rules := RuleId.all.map RuleId.toRule }

theorem default_eq_ofPolicy : default = ofPolicy ⟨defaultLowercaseWords, defaultMaxLength⟩ := rfl

/-- The findings of all rules, in rule order. -/
def findings (policy : Policy) (name content : Text) : List (RuleId × Finding) :=
  RuleId.all.filterMap fun id => (id.inspect? policy name content).map (Prod.mk id)

/-- The problem that reports a finding. -/
def problemOf (policy : Policy) (kind : Kind) (span : Span) (found : RuleId × Finding) : Problem :=
  ⟨found.1, renderMessage policy kind found.2 found.1.template, found.2.matched, some span⟩

variable {policy : Policy} {kind : Kind} {name : Text} {token : Token}

theorem mem_findings_iff {content : Text} {id : RuleId} {finding : Finding} :
    (id, finding) ∈ findings policy name content ↔ id.Finds policy name content finding := by
  simp only [findings, List.mem_filterMap, Option.map_eq_some_iff, Prod.mk.injEq,
    RuleId.inspect?_eq_some_iff]
  constructor
  · rintro ⟨_, -, _, hfinds, rfl, rfl⟩
    exact hfinds
  · exact fun hfinds => ⟨id, RuleId.mem_all id, finding, hfinds, rfl, rfl⟩

/-- **The findings come in rule order**, at most one for each rule. -/
theorem findings_sublist (policy : Policy) (name content : Text) :
    ((findings policy name content).map Prod.fst).Sublist RuleId.all := by
  have hguard :
      (fun id => ((RuleId.inspect? policy name content id).map (Prod.mk id)).map Prod.fst) =
      Option.guard fun id => (RuleId.inspect? policy name content id).isSome := by
    funext id
    cases h : id.inspect? policy name content <;> simp [Option.guard, h]
  rw [findings, List.map_filterMap, hguard, List.filterMap_eq_filter]
  exact List.filter_sublist

theorem findings_nil : findings policy name [] = [(.nonEmpty, ⟨none, none, none⟩)] := by
  have hempty : RuleId.inspect? policy name [] .nonEmpty = some ⟨none, none, none⟩ := rfl
  simp [findings, RuleId.all, RuleId.inspect?_nil, hempty]

theorem problem?_toRule (id : RuleId) :
    (ofPolicy policy).problem? kind name (some token) id.toRule =
      ((id.inspect? policy name token.content).map (Prod.mk id)).map
        (problemOf policy kind token.span) := by
  rw [problem?, Option.map_map, ← RuleId.check?_some]
  rfl

/-- A fatal rule fires on an empty description alone. -/
theorem problem?_of_isFatal {rule : Rule} (hcontent : token.content ≠ [])
    (hrule : rule ∈ (ofPolicy policy).rules) (hfatal : rule.fatal = true) :
    (ofPolicy policy).problem? kind name (some token) rule = none := by
  obtain ⟨id, -, rfl⟩ := List.mem_map.1 hrule
  rw [problem?_toRule]
  cases id with
  | presence => rfl
  | nonEmpty =>
    rw [RuleId.inspect?, if_neg (by simpa using hcontent), Option.map_none, Option.map_none]
  | _ => simp [RuleId.toRule, RuleId.isFatal] at hfatal

/-- **The audit of a description reports the findings of all rules.** -/
theorem audit_eq_map_findings : (ofPolicy policy).audit kind name (some token) =
    (findings policy name token.content).map (problemOf policy kind token.span) := by
  by_cases hempty : token.content = []
  · -- the empty description is reported, and the audit ends there
    have hpresence : (ofPolicy policy).problem? kind name (some token) RuleId.presence.toRule =
        none := problem?_toRule .presence
    have hnonEmpty : (ofPolicy policy).problem? kind name (some token) RuleId.nonEmpty.toRule =
        ((RuleId.nonEmpty.inspect? policy name token.content).map (Prod.mk .nonEmpty)).map
          (problemOf policy kind token.span) := problem?_toRule .nonEmpty
    rw [hempty] at hnonEmpty
    have hrules : (ofPolicy policy).rules = RuleId.presence.toRule :: RuleId.nonEmpty.toRule ::
        (RuleId.all.drop 2).map RuleId.toRule := rfl
    rw [hempty, findings_nil, audit, hrules, auditRules_cons_of_none _ hpresence,
      auditRules_cons_of_some _ hnonEmpty]
    rfl
  · rw [audit, auditRules_eq_filterMap fun _ => problem?_of_isFatal hempty, ofPolicy,
      List.filterMap_map, findings, List.map_filterMap]
    exact List.filterMap_congr fun id _ => problem?_toRule id

/-- **The audit under the default rules is the documented one.** A missing description is reported
as such and nothing else. On any other, in rule order, exactly the rules report whose condition
holds, each with the finding of the condition, and nothing stands beside the report of an empty
one. -/
theorem audit_ofPolicy (policy : Policy) (kind : Kind) (name : Text) (token : Token) :
    (ofPolicy policy).audit kind name none =
      [⟨.presence, renderMessage policy kind ⟨none, none, none⟩ RuleId.presence.template, none,
        none⟩] ∧
    ∃ findings : List (RuleId × Finding),
      (ofPolicy policy).audit kind name (some token) = findings.map (fun found =>
        ⟨found.1, renderMessage policy kind found.2 found.1.template, found.2.matched,
          some token.span⟩) ∧
      (findings.map Prod.fst).Sublist RuleId.all ∧
      (∀ id finding,
        (id, finding) ∈ findings ↔ id.Finds policy name token.content finding) ∧
      (token.content = [] → findings = [(.nonEmpty, ⟨none, none, none⟩)]) := by
  refine ⟨rfl, findings policy name token.content, audit_eq_map_findings,
    findings_sublist policy name token.content, fun id finding => mem_findings_iff, fun h => ?_⟩
  rw [h, findings_nil]

end Rulebook

end Blurb
