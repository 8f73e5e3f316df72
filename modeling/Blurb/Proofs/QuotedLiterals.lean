import Blurb.Description.Token

/-! # Literals between quotes

Taking the quotes off a token and putting a literal between quotes are inverse to each other.

* `lineLiteral?_eq_some_iff` — the tokens on one line that hold a literal between equal quotes.
* `stringContent_quoted` — the content of such a token, line feeds allowed. -/

namespace Blurb

/-- A text with a quote character at either end. -/
theorem betweenQuotes?_eq_some_iff {source inner : Text} {first last : Char} :
    betweenQuotes? source = some (first, inner, last) ↔
      source = first :: inner ++ [last] ∧ isQuote first = true ∧ isQuote last = true ∧
        '\n' ∉ inner := by
  constructor
  · intro h
    unfold betweenQuotes? at h
    split at h
    · simp at h
    · next c rest =>
      split at h
      · simp at h
      · next d hlast =>
        split at h
        · next hquotes =>
          simp only [Option.some.injEq, Prod.mk.injEq] at h
          obtain ⟨rfl, rfl, rfl⟩ := h
          simp only [Bool.and_eq_true, Bool.not_eq_true', List.contains_eq_mem,
            decide_eq_false_iff_not] at hquotes
          refine ⟨?_, hquotes.1.1, hquotes.1.2, hquotes.2⟩
          obtain ⟨before, rfl⟩ := List.getLast?_eq_some_iff.1 hlast
          rw [List.dropLast_concat, List.cons_append]
        · simp at h
  · rintro ⟨rfl, hfirst, hlast, hline⟩
    rw [List.cons_append, betweenQuotes?]
    simp [hfirst, hlast, hline]

/-- **A literal on one line**: a token is read as one exactly if the same quote character stands at
both ends and no line feed between them. -/
theorem lineLiteral?_eq_some_iff {source literal : Text} {quote : Char} :
    lineLiteral? source = some (quote, literal) ↔
      source = quote :: literal ++ [quote] ∧ isQuote quote = true ∧ '\n' ∉ literal := by
  constructor
  · intro h
    unfold lineLiteral? at h
    split at h
    · next first inner last hbetween =>
      obtain ⟨hsource, hfirst, -, hline⟩ := betweenQuotes?_eq_some_iff.1 hbetween
      split at h
      · next hsame =>
        simp only [Option.some.injEq, Prod.mk.injEq] at h
        obtain ⟨rfl, rfl⟩ := h
        rw [← hsame] at hsource
        exact ⟨hsource, hfirst, hline⟩
      · simp at h
    · simp at h
  · rintro ⟨hsource, hquote, hline⟩
    rw [lineLiteral?, betweenQuotes?_eq_some_iff.2 ⟨hsource, hquote, hquote, hline⟩]
    exact if_pos rfl

/-- **The content of a literal between quotes** is the literal, whatever it holds. -/
theorem stringContent_quoted {quote : Char} (hquote : isQuote quote = true) (literal : Text) :
    stringContent (quote :: literal ++ [quote]) = literal := by
  obtain ⟨second, rest, hrest⟩ : ∃ second rest, literal ++ [quote] = second :: rest :=
    List.exists_cons_of_ne_nil (by simp)
  have hlast : (second :: rest).getLast? = some quote := by
    rw [← hrest, List.getLast?_concat]
  have hinner : (second :: rest).dropLast = literal := by
    rw [← hrest, List.dropLast_concat]
  rw [List.cons_append, hrest, stringContent, unquote?]
  simp [hquote, hlast, hinner]

end Blurb
