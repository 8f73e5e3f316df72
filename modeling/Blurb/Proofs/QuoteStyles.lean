import Blurb.Proofs.BatchAudits
import Blurb.Proofs.DisabledRules

/-! # Quotes and what stands between them

A token is taken apart in two ways: the rules look at its content, quotes or not, and a correction
wants a literal on one line between two equal quotes. Where there is such a literal, the two see the
same text. A check may look at the whole token, but the checks of the ten rules read its content
alone, and what a step writes depends on the literal alone. Under checks that read content it makes
no difference which quotes a text stands between, apart from the quotes themselves.

* `isSome_lineLiteral?_iff` — the tokens that hold a literal on one line.
* `Rulebook.ReadsContent` — the rulebooks whose checks read the content of a token.
* `Rulebook.ReadsContent.audit_of_content_eq` — tokens of the same content have the same problems,
  each where its token stands.
* `Rulebook.TreatsQuotesAlike` — one audit and one correction of a text between either quotes.
* `Rulebook.tokens_agree` — both ways of taking tokens apart, and both styles of quotes.
* `Rulebook.not_treatsQuotesAlike` — a check that looks at the quote tells them apart. -/

namespace Blurb

open Text

/-! ## Literals on one line -/

/-- **A literal on one line**: two characters at least, of which the first and the last are the same
quote character, and no line feed between these two. -/
def IsLineLiteral (source : Text) : Prop :=
  2 ≤ source.length ∧
  ∃ quote, (quote = '"' ∨ quote = '\'') ∧ source.head? = some quote ∧
    source.getLast? = some quote ∧ '\n' ∉ source.tail.dropLast

theorem isQuote_iff {c : Char} : isQuote c = true ↔ c = '"' ∨ c = '\'' := by
  rw [isQuote, Bool.or_eq_true, beq_iff_eq, beq_iff_eq]

/-- **The tokens that are read as a literal on one line.** -/
theorem isSome_lineLiteral?_iff {source : Text} :
    (lineLiteral? source).isSome = true ↔ IsLineLiteral source := by
  rw [Option.isSome_iff_exists]
  constructor
  · rintro ⟨⟨quote, literal⟩, h⟩
    obtain ⟨rfl, hquote, hline⟩ := lineLiteral?_eq_some_iff.1 h
    refine ⟨by simp, quote, isQuote_iff.1 hquote, rfl, List.getLast?_concat .., ?_⟩
    rwa [List.cons_append, List.tail_cons, List.dropLast_concat]
  · rintro ⟨hlength, quote, hquote, hhead, hlast, hline⟩
    obtain ⟨before, rfl⟩ := List.getLast?_eq_some_iff.1 hlast
    cases before with
    | nil => simp at hlength
    | cons c literal =>
      obtain rfl := Option.some.inj hhead
      rw [List.cons_append, List.tail_cons, List.dropLast_concat] at hline
      exact ⟨(c, literal), lineLiteral?_eq_some_iff.2 ⟨rfl, isQuote_iff.2 hquote, hline⟩⟩

/-- **The literal is the content** of the token, and the quotes stand at its ends. -/
theorem eq_stringContent_of_lineLiteral? {source literal : Text} {quote : Char}
    (h : lineLiteral? source = some (quote, literal)) :
    literal = stringContent source ∧ source = [quote] ++ literal ++ [quote] := by
  obtain ⟨rfl, hquote, -⟩ := lineLiteral?_eq_some_iff.1 h
  exact ⟨(stringContent_quoted hquote literal).symm, rfl⟩

/-! ## Audits of the same content -/

/-- The problem as it is reported on a token that stands elsewhere. -/
def Problem.placedAt (problem : Problem) (span : Span) : Problem :=
  { problem with span := some span }

namespace Rulebook

variable {book : Rulebook} {name : Text} {token other : Token}

/-- **The checks read content**: they tell no token from another one of the same content. -/
def ReadsContent (book : Rulebook) : Prop :=
  ∀ rule ∈ book.rules, ∀ (name : Text) (token other : Token), other.content = token.content →
    rule.check book.toPolicy name (some other) = rule.check book.toPolicy name (some token)

/-- The checks of the ten rules read content. -/
theorem UsesDefaultChecks.readsContent (hbook : book.UsesDefaultChecks) : book.ReadsContent := by
  intro rule hrule name token other h
  obtain ⟨id, hid⟩ := hbook rule hrule
  rw [hid, RuleId.check?_some, RuleId.check?_some, h]

/-- **Tokens of the same content have the same problems**, each where its token stands. -/
theorem ReadsContent.audit_of_content_eq (hbook : book.ReadsContent)
    (h : other.content = token.content) (kind : Kind) :
    book.audit kind name (some other) =
      (book.audit kind name (some token)).map (·.placedAt other.span) := by
  refine auditRules_eq_map _ fun rule hrule => ?_
  rw [problem?, problem?, hbook rule hrule name token other h, Option.map_map]
  rfl

theorem ReadsContent.passes_of_content_eq (hbook : book.ReadsContent)
    (h : other.content = token.content) : book.passes name other = book.passes name token := by
  rw [Bool.eq_iff_iff, passes_iff_audit_eq_nil .formula, passes_iff_audit_eq_nil .formula,
    hbook.audit_of_content_eq h, List.map_eq_nil_iff]

/-! ## Corrections between quotes -/

/-- **A text has one correction**, which stands between the quotes that the text stood between. -/
theorem exists_correction_between (hbook : book.ReadsContent) (name content : Text) :
    ∃ corrected? : Option Text, ∀ quote span, isQuote quote = true →
      book.correct? name ⟨quote :: content ++ [quote], span⟩ =
        corrected?.map fun corrected => ⟨span, quote :: corrected ++ [quote]⟩ := by
  by_cases hline : '\n' ∈ content
  · refine ⟨none, fun quote span _ => ?_⟩
    have hliteral : lineLiteral? (quote :: content ++ [quote]) = none := by
      rw [Option.eq_none_iff_forall_ne_some]
      rintro ⟨found, literal⟩ h
      obtain ⟨hsource, -, hfree⟩ := lineLiteral?_eq_some_iff.1 h
      obtain ⟨rfl, hrest⟩ := List.cons.inj hsource
      obtain rfl := List.append_cancel_right hrest
      exact hfree hline
    rw [correct?, hliteral]
    rfl
  · refine ⟨if book.passes name (Token.quoted content) then none
      else if book.revise name content = content ∨ (trim (book.revise name content)).isEmpty = true
        then none else some (book.revise name content), fun quote span hquote => ?_⟩
    have hliteral : lineLiteral? (quote :: content ++ [quote]) = some (quote, content) :=
      lineLiteral?_eq_some_iff.2 ⟨rfl, hquote, hline⟩
    have hcontent : Token.content ⟨quote :: content ++ [quote], span⟩ =
        (Token.quoted content).content := by
      rw [Token.content_quoted]
      exact stringContent_quoted hquote content
    rw [correct?, hliteral]
    dsimp only
    rw [hbook.passes_of_content_eq hcontent]
    split
    · rfl
    · split <;> rfl

/-! ## Both ways and both styles -/

/-- **Either quotes will do** for a text: between single quotes it has the problems that it has
between double quotes, each where its token stands, and the same correction between the other
quotes. -/
structure TreatsQuotesAlike (book : Rulebook) (name content : Text) : Prop where
  /-- The problems are the same up to their places. -/
  audit : ∀ (kind : Kind) (double single : Span),
    book.audit kind name (some ⟨'\'' :: content ++ ['\''], single⟩) =
      (book.audit kind name (some ⟨'"' :: content ++ ['"'], double⟩)).map (·.placedAt single)
  /-- The corrections are the same up to their places and quotes. -/
  correct? : ∃ corrected? : Option Text, ∀ double single : Span,
    book.correct? name ⟨'"' :: content ++ ['"'], double⟩ =
      corrected?.map (fun corrected => ⟨double, '"' :: corrected ++ ['"']⟩) ∧
    book.correct? name ⟨'\'' :: content ++ ['\''], single⟩ =
      corrected?.map (fun corrected => ⟨single, '\'' :: corrected ++ ['\'']⟩)

theorem ReadsContent.treatsQuotesAlike (hbook : book.ReadsContent) (name content : Text) :
    book.TreatsQuotesAlike name content where
  audit kind double single := by
    have hcontent : Token.content ⟨'\'' :: content ++ ['\''], single⟩ =
        Token.content ⟨'"' :: content ++ ['"'], double⟩ :=
      (stringContent_quoted rfl content).trans (stringContent_quoted rfl content).symm
    exact hbook.audit_of_content_eq hcontent kind
  correct? := by
    obtain ⟨corrected?, hcorrected⟩ := exists_correction_between hbook name content
    exact ⟨corrected?, fun double single =>
      ⟨hcorrected _ double rfl, hcorrected _ single rfl⟩⟩

/-- **Both ways of taking a token apart agree**, and so do both styles of quotes. A token holds a
literal exactly if it has the same quote character at either end and no line feed between; the
literal is its content, and together with the quotes it is the whole token. Putting any text between
quotes and taking them off gives it back. A rulebook whose checks read content treats both styles
of quotes alike, whatever stands between them. -/
theorem tokens_agree (book : Rulebook) (name source content : Text) :
    ((lineLiteral? source).isSome = true ↔ IsLineLiteral source) ∧
    (∀ quote literal, lineLiteral? source = some (quote, literal) →
      literal = stringContent source ∧ source = [quote] ++ literal ++ [quote]) ∧
    (Token.quoted content).content = content ∧
    (book.ReadsContent → book.TreatsQuotesAlike name content) :=
  ⟨isSome_lineLiteral?_iff, fun _ _ => eq_stringContent_of_lineLiteral?,
    Token.content_quoted content, fun hbook => hbook.treatsQuotesAlike name content⟩

/-- The content may hold quotes of either style. The correction between single quotes is read off
the one between double quotes. -/
theorem tokens_agree_quotes :
    default.ReadsContent ∧
    default.correct? "foo".toList ⟨"\"a \"kit\" for bob's files\"".toList, ⟨0, 25⟩⟩ =
      some ⟨⟨0, 25⟩, "\"\"kit\" for bob's files\"".toList⟩ ∧
    default.correct? "foo".toList ⟨"'a \"kit\" for bob's files'".toList, ⟨5, 30⟩⟩ =
      some ⟨⟨5, 30⟩, "'\"kit\" for bob's files'".toList⟩ := by
  have hbook : default.ReadsContent := usesOwnChecks_default.usesDefaultChecks.readsContent
  have hdouble : default.correct? "foo".toList ⟨"\"a \"kit\" for bob's files\"".toList, ⟨0, 25⟩⟩ =
      some ⟨⟨0, 25⟩, "\"\"kit\" for bob's files\"".toList⟩ := by decide +kernel
  obtain ⟨-, -, -, halike⟩ :=
    tokens_agree default "foo".toList [] "a \"kit\" for bob's files".toList
  obtain ⟨corrected?, hcorrected⟩ := (halike hbook).correct?
  obtain ⟨hcorrected, hsingle⟩ := hcorrected ⟨0, 25⟩ ⟨5, 30⟩
  refine ⟨hbook, hdouble, hsingle.trans ?_⟩
  obtain ⟨corrected, rfl, hwhole⟩ := Option.map_eq_some_iff.1 (hcorrected.symm.trans hdouble)
  have hcontent : corrected = "\"kit\" for bob's files".toList :=
    List.append_cancel_right (List.cons.inj (congrArg Replacement.text hwhole)).2
  rw [hcontent]
  rfl

/-- A rulebook with one rule, which fires on double quotes. -/
def wantsSingleQuotes : Rulebook where
  lowercaseWords := []
  maxLength := defaultMaxLength
  rules := [{
    id := .leadingSpace
    check := fun _ _ token =>
      if token.any (·.source.head? == some '"') then some ⟨none, none, none⟩ else none
    fatal := false
    template := "Double quotes around the desc (description).".toList }]

/-- **A check that looks at the quote tells both styles apart**: between double quotes the text is
reported and corrected, between single quotes it is neither. -/
theorem not_treatsQuotesAlike :
    '\n' ∉ " tool".toList ∧
    ¬ wantsSingleQuotes.TreatsQuotesAlike "foo".toList " tool".toList ∧
    wantsSingleQuotes.correct? "foo".toList ⟨"\" tool\"".toList, ⟨0, 7⟩⟩ =
      some ⟨⟨0, 7⟩, "\"tool\"".toList⟩ ∧
    wantsSingleQuotes.correct? "foo".toList ⟨"' tool'".toList, ⟨0, 7⟩⟩ = none := by
  refine ⟨by decide, fun halike => ?_, by decide +kernel, by decide⟩
  have hsingle : wantsSingleQuotes.audit .formula "foo".toList
      (some ⟨"' tool'".toList, ⟨0, 7⟩⟩) = [] := by decide
  have hmap := (halike.audit .formula ⟨0, 7⟩ ⟨0, 7⟩).symm.trans hsingle
  exact absurd (List.map_eq_nil_iff.1 hmap) (by decide)

end Rulebook

end Blurb
