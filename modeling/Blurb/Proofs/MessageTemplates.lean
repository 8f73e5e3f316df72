import Blurb.Proofs.DocumentedRules
import Blurb.Proofs.PrintedJson
import Mathlib

/-! # Message templates

A message is rendered by replacing one placeholder after the other, each in what the replacements
before it have left. On a template whose braces are all those of placeholders that is the same as
filling in all values at once: the values that go in early have no braces, and the offending part of
the description, which may have any, goes in last.

* `Template` — texts and placeholders in turn, `Template.fill` puts a value for each placeholder.
* `replaceAll_partly` — replacing one placeholder fills in that placeholder and nothing else.
* `foldl_replaceAll` — a run of replacements fills in the placeholders of the run.
* `RuleId.not_mem_expected` — no check suggests a spelling with a brace.
* `Rulebook.problem?_eq_fill` — the message of a problem is its template filled in at once. -/

namespace Blurb

open Text Phrase

/-! ## Templates -/

/-- **A placeholder of a message.** -/
inductive Placeholder where
  /-- The kind of the item, at the start of a sentence. -/
  | capitalizedKind
  /-- The kind of the item. -/
  | kind
  /-- The greatest length of a description. -/
  | maxLength
  /-- The length of the description. -/
  | length
  /-- The suggested spelling. -/
  | expected
  /-- The offending part of the description. -/
  | matched
deriving Repr, DecidableEq

namespace Placeholder

/-- The word between the braces. -/
def label : Placeholder → Text
  | capitalizedKind => "Kind".toList
  | kind => "kind".toList
  | maxLength => "max".toList
  | length => "length".toList
  | expected => "expected".toList
  | matched => "match".toList

/-- A placeholder as it is written: its word in braces. -/
def spelling (placeholder : Placeholder) : Text := '\x7b' :: placeholder.label ++ ['\x7d']

/-- **The value of a placeholder**, empty where the finding has none. -/
def value (policy : Policy) (kind : Kind) (finding : Finding) : Placeholder → Text
  | capitalizedKind => kind.capitalized
  | .kind => kind.label
  | maxLength => Text.ofNat policy.maxLength
  | length => (finding.length.map Text.ofNat).getD []
  | expected => finding.expected.getD []
  | matched => finding.matched.getD []

/-- The placeholders in the order in which they are replaced. -/
def order : List Placeholder := [capitalizedKind, kind, maxLength, length, expected, matched]

theorem mem_order (placeholder : Placeholder) : placeholder ∈ order := by
  cases placeholder <;> decide

end Placeholder

/-- A character of a text that has no braces. -/
def isPlain (c : Char) : Bool := c != '\x7b' && c != '\x7d'

/-- **A piece of a template.** -/
inductive Piece where
  /-- A text without braces. -/
  | text (t : Text) (plain : t.all isPlain = true)
  /-- A placeholder. -/
  | hole (placeholder : Placeholder)

/-- **A template in which braces occur only as those of placeholders**, piece by piece. -/
abbrev Template := List Piece

namespace Template

/-- **Filling in all placeholders at once**: each is replaced by its value, and nothing else is
touched. -/
def fill (value : Placeholder → Text) : Template → Text
  | [] => []
  | .text t _ :: template => t ++ fill value template
  | .hole placeholder :: template => value placeholder ++ fill value template

/-- A template as it is written. -/
def text (template : Template) : Text := template.fill Placeholder.spelling

/-- **A template that is filled in as far as the given placeholders go**; the others are still
written out. -/
def partly (value : Placeholder → Text) (done : List Placeholder) (template : Template) : Text :=
  template.fill fun placeholder =>
    if placeholder ∈ done then value placeholder else placeholder.spelling

theorem partly_nil (value : Placeholder → Text) (template : Template) :
    template.partly value [] = template.text := by
  simp only [partly, text, List.not_mem_nil, if_false]

/-- With every placeholder done the template is filled in. -/
theorem partly_of_forall_mem {value : Placeholder → Text} {done : List Placeholder}
    (h : ∀ placeholder, placeholder ∈ done) (template : Template) :
    template.partly value done = template.fill value := by
  simp only [partly, h, if_true]

end Template

/-! ## Replacing one placeholder -/

theorem not_mem_of_plain {t : Text} (h : t.all isPlain = true) : '\x7b' ∉ t ∧ '\x7d' ∉ t := by
  have hplain : ∀ c ∈ t, isPlain c = true := List.all_eq_true.1 h
  exact ⟨fun hmem => absurd (hplain _ hmem) (by decide),
    fun hmem => absurd (hplain _ hmem) (by decide)⟩

/-- Where a word closed by a brace starts a text that starts with another one closed by a brace, the
two are the same. -/
theorem eq_of_closed_start {a b rest : Text} (ha : '\x7d' ∉ a) (hb : '\x7d' ∉ b)
    (h : a ++ ['\x7d'] <+: b ++ '\x7d' :: rest) : a = b := by
  obtain ⟨more, hmore⟩ := h
  rw [List.append_assoc, List.singleton_append] at hmore
  -- both words are what stands before the first closing brace
  have hbefore (t tail : Text) (ht : '\x7d' ∉ t) :
      (t ++ '\x7d' :: tail).takeWhile (· != '\x7d') = t := by
    rw [List.takeWhile_append_of_pos, List.takeWhile_cons_of_neg (by decide), List.append_nil]
    intro c hc
    simpa using ne_of_mem_of_not_mem hc ht
  rw [← hbefore a more ha, hmore, hbefore b rest hb]

/-- Replacing starts anew behind a text in which the pattern starts nowhere. -/
theorem replaceAll_append {first : Char} {pattern replacement before : Text}
    (h : first ∉ before) (rest : Text) :
    replaceAll (first :: pattern) replacement (before ++ rest) =
      before ++ replaceAll (first :: pattern) replacement rest := by
  induction before with
  | nil => rfl
  | cons c before ih =>
    rw [List.mem_cons, not_or] at h
    rw [List.cons_append, replaceAll, if_neg (fun hmatch => h.1 hmatch.1), ih h.2,
      List.cons_append]

/-- A pattern at the start of a text is replaced, and replacing goes on behind it. -/
theorem replaceAll_self_append (first : Char) (pattern replacement rest : Text) :
    replaceAll (first :: pattern) replacement ((first :: pattern) ++ rest) =
      replacement ++ replaceAll (first :: pattern) replacement rest := by
  rw [List.cons_append, replaceAll,
    if_pos ⟨rfl, List.isPrefixOf_iff_prefix.2 (List.prefix_append pattern rest)⟩,
    List.drop_left]

namespace Placeholder

/-- No word of a placeholder has a brace. -/
theorem plain_label (placeholder : Placeholder) : placeholder.label.all isPlain = true := by
  cases placeholder <;> decide

/-- A placeholder is found by its word. -/
theorem find?_label (placeholder : Placeholder) :
    order.find? (fun other => other.label == placeholder.label) = some placeholder := by
  cases placeholder <;> decide

theorem label_injective {p q : Placeholder} (h : p.label = q.label) : p = q := by
  have hfound := find?_label p
  rw [h, find?_label q] at hfound
  exact (Option.some.inj hfound).symm

/-- **Replacing a placeholder leaves another one as it is.** -/
theorem replaceAll_other {p q : Placeholder} (h : p ≠ q) (replacement rest : Text) :
    replaceAll p.spelling replacement (q.spelling ++ rest) =
      q.spelling ++ replaceAll p.spelling replacement rest := by
  have hp := not_mem_of_plain p.plain_label
  have hq := not_mem_of_plain q.plain_label
  have hhead : ¬ ((p.label ++ ['\x7d']).isPrefixOf (q.label ++ ['\x7d'] ++ rest) = true) := by
    intro hprefix
    rw [List.isPrefixOf_iff_prefix, List.append_assoc, List.singleton_append] at hprefix
    exact h (label_injective (eq_of_closed_start hp.2 hq.2 hprefix))
  have htail : '\x7b' ∉ q.label ++ ['\x7d'] := by
    rw [List.mem_append, List.mem_singleton]
    rintro (hmem | hmem)
    · exact hq.1 hmem
    · exact absurd hmem (by decide)
  rw [spelling, spelling, List.cons_append, List.cons_append, List.cons_append, replaceAll,
    if_neg (fun hmatch => hhead hmatch.2), replaceAll_append htail, List.cons_append]

end Placeholder

namespace Template

variable {value : Placeholder → Text}

/-- **Replacing one placeholder fills it in**, and nothing else changes, as long as the values that
stand in the text already have no opening brace. -/
theorem replaceAll_partly {done : List Placeholder}
    (hdone : ∀ other ∈ done, '\x7b' ∉ value other) (placeholder : Placeholder)
    (template : Template) :
    replaceAll placeholder.spelling (value placeholder) (template.partly value done) =
      template.partly value (placeholder :: done) := by
  rw [Placeholder.spelling, List.cons_append]
  induction template with
  | nil => rw [partly, partly, fill, fill, replaceAll]
  | cons piece template ih =>
    rw [partly, partly] at ih ⊢
    cases piece with
    | text t plain =>
      rw [fill, fill, replaceAll_append (not_mem_of_plain plain).1, ih]
    | hole other =>
      rw [fill, fill]
      by_cases hmem : other ∈ done
      · -- its value stands in the text already
        rw [if_pos hmem, if_pos (List.mem_cons_of_mem placeholder hmem),
          replaceAll_append (hdone other hmem), ih]
      · by_cases hsame : other = placeholder
        · rw [if_neg hmem, if_pos (List.mem_cons.2 (.inl hsame)), hsame, Placeholder.spelling,
            List.cons_append, replaceAll_self_append, ih]
        · have hnext : other ∉ placeholder :: done := by simp [hsame, hmem]
          have hother := Placeholder.replaceAll_other (Ne.symm hsame) (value placeholder)
          rw [Placeholder.spelling, List.cons_append] at hother
          rw [if_neg hmem, if_neg hnext, hother, ih]

/-- **A run of replacements fills in its placeholders.** Only the value that goes in last may have
an opening brace. -/
theorem foldl_replaceAll {placeholders done : List Placeholder}
    (hdone : ∀ other ∈ done, '\x7b' ∉ value other)
    (hvalues : ∀ other ∈ placeholders.dropLast, '\x7b' ∉ value other) (template : Template) :
    placeholders.foldl
        (fun text placeholder => replaceAll placeholder.spelling (value placeholder) text)
        (template.partly value done) =
      template.partly value (placeholders.reverse ++ done) := by
  induction placeholders generalizing done with
  | nil => rfl
  | cons placeholder placeholders ih =>
    rw [List.foldl_cons, replaceAll_partly hdone, List.reverse_cons, List.append_assoc,
      List.singleton_append]
    cases placeholders with
    | nil => rfl
    | cons next placeholders =>
      rw [List.dropLast_cons_cons, List.forall_mem_cons] at hvalues
      have hmore : ∀ other ∈ placeholder :: done, '\x7b' ∉ value other :=
        List.forall_mem_cons.2 ⟨hvalues.1, hdone⟩
      exact ih hmore hvalues.2

end Template

/-! ## What findings put into messages -/

/-- **No check suggests a spelling with a brace**: the only suggestion is a letter c and the rest of
"command-line". -/
theorem RuleId.not_mem_expected {id : RuleId} {policy : Policy} {name : Text} {token : Option Token}
    {finding : Finding} (h : id.check? policy name token = some finding) :
    '\x7b' ∉ finding.expected.getD [] := by
  cases token with
  | none =>
    cases id with
    | presence =>
      rw [← Option.some.inj h]
      exact List.not_mem_nil
    | _ => simp [RuleId.check?] at h
  | some token =>
    rw [RuleId.check?_some, inspect?_eq_some_iff] at h
    cases id with
    | commandLine =>
      obtain ⟨before, found, after, -, hfound, -, rfl⟩ := h
      obtain ⟨c, tail, rfl, hc, -⟩ := (isCommandLine_iff_ascii.2 hfound).eq_cons
      have hbrace : c ≠ '\x7b' := by
        rintro rfl
        exact absurd hc (by decide)
      simp [Ne.symm hbrace]
    | presence => exact h.elim
    | _ => grind [RuleId.Finds]

namespace Placeholder

/-- **Only the offending part of the description may have an opening brace.** -/
theorem not_mem_value {id : RuleId} {policy : Policy} {name : Text} {token : Option Token}
    {finding : Finding} (h : id.check? policy name token = some finding) (kind : Kind)
    {placeholder : Placeholder} (hplaceholder : placeholder ≠ matched) :
    '\x7b' ∉ placeholder.value policy kind finding := by
  have hkind : '\x7b' ∉ kind.capitalized ∧ '\x7b' ∉ kind.label := by
    cases kind <;> decide
  have hnumber (n : Nat) : '\x7b' ∉ Text.ofNat n :=
    fun hmem => absurd (Json.isDigit_of_mem_ofNat hmem) (by decide)
  cases placeholder with
  | capitalizedKind => exact hkind.1
  | kind => exact hkind.2
  | maxLength => exact hnumber policy.maxLength
  | length =>
    rw [value]
    cases finding.length with
    | none => simp
    | some length => exact hnumber length
  | expected => exact RuleId.not_mem_expected h
  | matched => exact absurd rfl hplaceholder

end Placeholder

/-- **Rendering a message fills in its template at once**, for a finding of any check. -/
theorem renderMessage_text {id : RuleId} {policy : Policy} {name : Text} {token : Option Token}
    {finding : Finding} (h : id.check? policy name token = some finding) (kind : Kind)
    (template : Template) :
    renderMessage policy kind finding template.text =
      template.fill (Placeholder.value policy kind finding) := by
  have hsteps : renderMessage policy kind finding template.text =
      Placeholder.order.foldl (fun text placeholder =>
        replaceAll placeholder.spelling (placeholder.value policy kind finding) text)
        template.text := rfl
  have hearly : ∀ other ∈ Placeholder.order.dropLast,
      '\x7b' ∉ other.value policy kind finding := by
    intro other hother
    refine Placeholder.not_mem_value h kind ?_
    rintro rfl
    exact absurd hother (by decide)
  have hall : ∀ placeholder, placeholder ∈ Placeholder.order.reverse ++ [] := by
    intro placeholder
    rw [List.append_nil, List.mem_reverse]
    exact placeholder.mem_order
  rw [hsteps, ← Template.partly_nil (Placeholder.value policy kind finding),
    Template.foldl_replaceAll (by simp) hearly, Template.partly_of_forall_mem hall]

namespace Rulebook

/-- **The message of a problem is its template, filled in at once.** Under whatever name a rule
reports, with a check of any name and a template whose braces are all those of placeholders, it
reports exactly what the check finds, and its message has the value of each placeholder in the
placeholder's stead. The offending part of the description stands there as it is, also where it is
spelled like a placeholder. -/
theorem problem?_eq_fill {rule : Rule} {id : RuleId} {template : Template}
    (hcheck : rule.check = id.check?) (htemplate : rule.template = template.text)
    (book : Rulebook) (kind : Kind) (name : Text) (token : Option Token) :
    book.problem? kind name token rule =
      (id.check? book.toPolicy name token).map fun finding =>
        { rule := rule.id
          message := template.fill (Placeholder.value book.toPolicy kind finding)
          matched := finding.matched
          span := token.map (·.span) } := by
  rw [problem?, hcheck]
  cases h : id.check? book.toPolicy name token with
  | none => rfl
  | some finding => rw [Option.map_some, Option.map_some, htemplate, renderMessage_text h]

/-- A name that is spelled like a placeholder stands in the message as it is. -/
theorem problem?_eq_fill_placeholder :
    let template : Template :=
      [.hole .capitalizedKind, .text [':', ' '] rfl, .hole .matched, .text ['?'] rfl,
        .hole .expected]
    let rule : Rule :=
      ⟨.fullStop, RuleId.selfReference, false,
        "\x7bKind\x7d: \x7bmatch\x7d?\x7bexpected\x7d".toList⟩
    rule.check = RuleId.selfReference.check? ∧ rule.template = template.text ∧
      default.problem? .cask "\x7bmatch\x7d".toList
          (some (Token.quoted "\x7bMATCH\x7d \x7bkind\x7d".toList)) rule =
        some ⟨.fullStop, "Cask: \x7bMATCH\x7d?".toList, some "\x7bMATCH\x7d".toList,
          some ⟨0, 16⟩⟩ := by
  intro template rule
  have hcheck : rule.check = RuleId.selfReference.check? := rfl
  have htemplate : rule.template = template.text := by decide
  refine ⟨hcheck, htemplate, ?_⟩
  rw [problem?_eq_fill hcheck htemplate]
  decide

end Rulebook

/-- The message of each rule is such a template. -/
theorem RuleId.exists_template (id : RuleId) :
    ∃ template : Template, id.template = template.text := by
  cases id with
  | presence =>
    exact ⟨[.hole .capitalizedKind, .text " should have a desc (Description).".toList rfl],
      by decide⟩
  | commandLine =>
    exact ⟨[.text "Description should use \"".toList rfl, .hole .expected,
      .text "\" instead of \"".toList rfl, .hole .matched, .text "\".".toList rfl], by decide⟩
  | indefiniteArticle =>
    exact ⟨[.text "Description shouldn't start with an indefinite article i.e. \"".toList rfl,
      .hole .matched, .text "\".".toList rfl], by decide⟩
  | selfReference =>
    exact ⟨[.text "Description shouldn't start with the ".toList rfl, .hole .kind,
      .text " name.".toList rfl], by decide⟩
  | maxLength =>
    exact ⟨[.text "Description is too long. It should be less than ".toList rfl, .hole .maxLength,
      .text " characters. The current length is ".toList rfl, .hole .length, .text ['.'] rfl],
      by decide⟩
  | nonEmpty | leadingSpace | trailingSpace | capitalization | fullStop =>
    exact ⟨[.text _ rfl], (List.append_nil _).symm⟩

end Blurb
