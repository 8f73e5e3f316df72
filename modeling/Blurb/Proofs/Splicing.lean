import Blurb.Proofs.Cuts
import Blurb.Proofs.Repairs

/-! # Replacements in their host

A token is cut out of its host at a span of bytes, and its replacement is put in at the same span.
What stands around the token stays, and the token that the host then holds is corrected no further.

* `slice?_eq_some_iff` — cutting a slice out of a host.
* `splice?_eq_some_iff`, `splice?_of_append` — putting a text in the place of another one.
* `mem_of_mem_revise` — a revision brings no blanks, and so no line feeds.
* `correct?_in_host` — a correction in its host. -/

namespace Blurb

open Text

/-- **The slice of a host at a span**: nothing if an offset lies inside a character or behind the
end, or if the span ends before it starts. -/
def Span.slice? (span : Span) (host : Text) : Option Text :=
  if span.start ≤ span.stop then do
    let (_, rest) ← splitAtByte? span.start host
    let (slice, _) ← splitAtByte? (span.stop - span.start) rest
    some slice
  else none

/-- **A slice** stands in its host behind as many bytes as the span starts at, and ends where the
span ends. -/
theorem Span.slice?_eq_some_iff {span : Span} {host slice : Text} :
    span.slice? host = some slice ↔
      ∃ before after, host = before ++ slice ++ after ∧ utf8Size before = span.start ∧
        utf8Size (before ++ slice) = span.stop := by
  rw [Span.slice?]
  constructor
  · intro h
    split at h
    · next hle =>
      simp only [Option.bind_eq_bind, Option.bind_eq_some_iff, Prod.exists,
        splitAtByte?_eq_some_iff, Option.some.injEq] at h
      obtain ⟨before, rest, ⟨rfl, hstart⟩, part, after, ⟨rfl, hsize⟩, rfl⟩ := h
      refine ⟨before, after, by rw [List.append_assoc], hstart, ?_⟩
      rw [utf8Size_append]
      omega
    · simp at h
  · rintro ⟨before, after, rfl, hstart, hstop⟩
    rw [utf8Size_append] at hstop
    have hbefore : splitAtByte? span.start (before ++ slice ++ after) =
        some (before, slice ++ after) :=
      splitAtByte?_eq_some_iff.2 ⟨by rw [List.append_assoc], hstart⟩
    have hslice : splitAtByte? (span.stop - span.start) (slice ++ after) = some (slice, after) :=
      splitAtByte?_eq_some_iff.2 ⟨rfl, by omega⟩
    rw [if_pos (by omega), hbefore]
    simp only [Option.bind_eq_bind, Option.bind_some, hslice]

/-- **The result of a replacement**: the text between what stands before the start of the span and
what stands behind its end. -/
theorem Replacement.splice?_eq_some_iff {replacement : Replacement} {host result : Text} :
    replacement.splice? host = some result ↔ ∃ head rest front tail,
      (host = head ++ rest ∧ utf8Size head = replacement.span.start) ∧
      (host = front ++ tail ∧ utf8Size front = replacement.span.stop) ∧
      head ++ replacement.text ++ tail = result := by
  simp only [splice?, Option.bind_eq_bind, Option.bind_eq_some_iff, Prod.exists,
    splitAtByte?_eq_some_iff, Option.some.injEq]
  constructor
  · rintro ⟨head, rest, hhead, front, tail, hfront, hresult⟩
    exact ⟨head, rest, front, tail, hhead, hfront, hresult⟩
  · rintro ⟨head, rest, front, tail, hhead, hfront, hresult⟩
    exact ⟨head, rest, hhead, front, tail, hfront, hresult⟩

/-- **Putting a text in the place of a slice** leaves what stands before it and behind it. -/
theorem Replacement.splice?_of_append {replacement : Replacement} {before slice after : Text}
    (hstart : utf8Size before = replacement.span.start)
    (hstop : utf8Size (before ++ slice) = replacement.span.stop) :
    replacement.splice? (before ++ slice ++ after) =
      some (before ++ replacement.text ++ after) := by
  have hbefore : before ++ slice ++ after = before ++ (slice ++ after) := List.append_assoc ..
  exact splice?_eq_some_iff.2
    ⟨before, slice ++ after, before ++ slice, after, ⟨hbefore, hstart⟩, ⟨rfl, hstop⟩, rfl⟩

/-! ## Blanks -/

namespace Phrase

variable {name : Text} {x : Char}

/-- Hyphenation brings no blanks. -/
theorem mem_of_mem_hyphenate {t : Text} (hx : isBlank x = true) (h : x ∈ hyphenate t) : x ∈ t := by
  induction t using hyphenate_induction with
  | nil => simp at h
  | found c rest found after hs heq ih =>
    have hspelling : hyphenated.any isBlank = false := by decide
    rw [heq, List.cons_append, List.mem_cons, List.mem_append] at h
    rcases h with rfl | h | h
    · exact List.mem_cons_self
    · exact absurd hx (List.any_eq_false.1 hspelling x h)
    · rw [(stripCommandLine?_eq_some_iff.1 hs).1]
      exact List.mem_append_right found (ih h)
  | other c rest hs heq ih =>
    rw [heq, List.mem_cons] at h
    rw [List.mem_cons]
    exact h.imp id ih

/-- Upper-casing the first character brings no blanks. -/
theorem mem_of_mem_upper_append {c : Char} {rest : Text} (hx : isBlank x = true)
    (h : x ∈ upper c ++ rest) : x ∈ c :: rest := by
  by_cases hc : upper c = [c]
  · rwa [hc] at h
  · rw [List.mem_append] at h
    rcases h with h | h
    · rw [(brought_of_mem_upper h hc).2.1] at hx
      simp at hx
    · exact List.mem_cons_of_mem c h

end Phrase

namespace Rulebook

open Phrase

variable {book : Rulebook} {name : Text} {x : Char}

/-- **No step brings a blank.** -/
theorem mem_of_mem_run {step : Step} {text : Text} (hx : isBlank x = true)
    (h : x ∈ step.run book name text) : x ∈ text := by
  by_cases hcapital : step = .capitalize
  · subst hcapital
    rcases Step.capitalize_run_cases book name text with heq | ⟨c, rest, rfl, heq⟩
    · rwa [heq] at h
    · rw [heq] at h
      exact mem_of_mem_upper_append hx h
  · by_cases hhyphen : step = .hyphenateCommandLine
    · subst hhyphen
      rw [Step.run] at h
      split at h
      · exact mem_of_mem_hyphenate hx h
      · exact h
    · exact (Step.run_sublist book name text hcapital hhyphen).subset h

/-- **A revision brings no blanks**, a line feed least of all. -/
theorem mem_of_mem_revise {text : Text} (hx : isBlank x = true)
    (h : x ∈ book.revise name text) : x ∈ text :=
  revise_induction (motive := fun t => x ∈ t → x ∈ text) id
    (fun _ _ ih hrun => ih (mem_of_mem_run hx hrun)) h

/-! ## Corrections in their host -/

/-- **A correction in its host.** The token is the slice of the host at its span. The replacement
can be put in there: what stands before the slice and behind it stays, and the text between them is
another one, with the same quotes, not blank between them and without a line feed. The host then
holds the new text at the span that starts where the old one did, and a token of that text is
corrected no further, wherever it stands. -/
theorem correct?_in_host {host slice : Text} {span : Span} {replacement : Replacement}
    (hslice : span.slice? host = some slice)
    (hcorrect : book.correct? name ⟨slice, span⟩ = some replacement) :
    (∃ before after, host = before ++ slice ++ after ∧
      utf8Size before = span.start ∧ utf8Size (before ++ slice) = span.stop ∧
      replacement.splice? host = some (before ++ replacement.text ++ after) ∧
      Span.slice? ⟨span.start, span.start + utf8Size replacement.text⟩
        (before ++ replacement.text ++ after) = some replacement.text) ∧
    replacement.text ≠ slice ∧
    (∃ quote old new, isQuote quote = true ∧ slice = quote :: old ++ [quote] ∧
      replacement.text = quote :: new ++ [quote] ∧ trim new ≠ []) ∧
    '\n' ∉ replacement.text ∧
    ∀ place, book.correct? name ⟨replacement.text, place⟩ = none := by
  obtain ⟨before, after, hhost, hstart, hstop⟩ := Span.slice?_eq_some_iff.1 hslice
  obtain ⟨quote, literal, hliteral, -, hchanged, hblank, rfl⟩ := correct?_eq_some_iff.1 hcorrect
  obtain ⟨hsource, hquote, hline⟩ := lineLiteral?_eq_some_iff.1 hliteral
  have hsource : slice = quote :: literal ++ [quote] := hsource
  have hfeed : '\n' ∉ book.revise name literal :=
    fun h => hline (mem_of_mem_revise (by decide) h)
  have hrest : lineLiteral? (quote :: book.revise name literal ++ [quote]) =
      some (quote, book.revise name literal) := lineLiteral?_eq_some_iff.2 ⟨rfl, hquote, hfeed⟩
  refine ⟨⟨before, after, hhost, hstart, hstop, ?_, ?_⟩, ?_, ⟨quote, literal, _, hquote, hsource,
    rfl, hblank⟩, ?_, ?_⟩
  · rw [hhost]
    exact Replacement.splice?_of_append hstart hstop
  · refine Span.slice?_eq_some_iff.2 ⟨before, after, rfl, hstart, ?_⟩
    rw [utf8Size_append, hstart]
  · rw [hsource]
    intro hsame
    exact hchanged (List.append_cancel_right (List.cons.inj hsame).2)
  · have hnot : quote ≠ '\n' := by
      rintro rfl
      exact absurd hquote (by decide)
    simp [hfeed, Ne.symm hnot]
  · intro place
    rw [Option.eq_none_iff_forall_ne_some]
    intro again hagain
    obtain ⟨_, _, hsame, -, hdiffers, -⟩ := correct?_eq_some_iff.1 hagain
    obtain ⟨rfl, rfl⟩ := Prod.mk.inj (Option.some.inj (hrest.symm.trans hsame))
    exact hdiffers (revise_of_isSettled (isSettled_revise book name literal))

/-- The article and the full stop go, and the host keeps its indentation and its line feed. -/
theorem correct?_in_host_tool :
    Span.slice? ⟨7, 16⟩ "  desc \"a tool.\"\n".toList = some "\"a tool.\"".toList ∧
    correct? ⟨⟨[], 80⟩, [RuleId.indefiniteArticle, .capitalization, .fullStop].map RuleId.toRule⟩
      "foo".toList ⟨"\"a tool.\"".toList, ⟨7, 16⟩⟩ = some ⟨⟨7, 16⟩, "\"Tool\"".toList⟩ ∧
    Replacement.splice? ⟨⟨7, 16⟩, "\"Tool\"".toList⟩ "  desc \"a tool.\"\n".toList =
      some "  desc \"Tool\"\n".toList ∧
    ∀ place, correct?
      ⟨⟨[], 80⟩, [RuleId.indefiniteArticle, .capitalization, .fullStop].map RuleId.toRule⟩
      "foo".toList ⟨"\"Tool\"".toList, place⟩ = none := by
  have hslice : Span.slice? ⟨7, 16⟩ "  desc \"a tool.\"\n".toList = some "\"a tool.\"".toList := by
    decide
  have hcorrect : correct?
      ⟨⟨[], 80⟩, [RuleId.indefiniteArticle, .capitalization, .fullStop].map RuleId.toRule⟩
      "foo".toList ⟨"\"a tool.\"".toList, ⟨7, 16⟩⟩ = some ⟨⟨7, 16⟩, "\"Tool\"".toList⟩ := by decide
  obtain ⟨-, -, -, -, hagain⟩ := correct?_in_host hslice hcorrect
  exact ⟨hslice, hcorrect, by decide, hagain⟩

end Rulebook

end Blurb
