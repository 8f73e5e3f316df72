import Blurb.Proofs.Cuts
import Mathlib.Data.List.Flatten

/-! # What a correction keeps

Blanks, hyphens and case apart, a correction only takes away. The `bare` text is what is left of a
text without these three: upper-casing and hyphenation do not touch it, and every cut leaves a part
of it in the same order.

* `upper_of_isBlank` — blanks have no upper case of their own.
* `bare_upper`, `bare_hyphenate` — the steps that write something leave the bare text as it is.
* `Rulebook.bare_revise_sublist` — the bare text of a revision stood in that of the literal. -/

namespace Blurb

namespace Text

/-! ## Blanks have one case -/

/-- The blanks as code points. -/
def blanks : List Nat :=
  [9, 10, 11, 12, 13, 0x20, 0x85, 0xA0, 0x1680, 0x2000, 0x2001, 0x2002, 0x2003, 0x2004, 0x2005,
    0x2006, 0x2007, 0x2008, 0x2009, 0x200A, 0x2028, 0x2029, 0x202F, 0x205F, 0x3000]

theorem mem_blanks {c : Char} (h : isBlank c = true) : c.toNat ∈ blanks := by
  simp only [isBlank, Bool.or_eq_true, Bool.and_eq_true, decide_eq_true_eq, beq_iff_eq] at h
  simp only [blanks, List.mem_cons, List.not_mem_nil, or_false]
  omega

-- the last blanks are looked up behind most ranges of both tables
set_option maxRecDepth 8000 in
theorem upper_blanks : ∀ n ∈ blanks, upper (Char.ofNat n) = [Char.ofNat n] := by
  decide

theorem upper_of_isBlank {c : Char} (h : isBlank c = true) : upper c = [c] := by
  have hupper := upper_blanks c.toNat (mem_blanks h)
  rwa [Char.ofNat_toNat] at hupper

/-! ## The bare text -/

/-- The character belongs to the bare text: it is neither a blank nor a hyphen. -/
def isBare (c : Char) : Bool := !isBlank c && c != '-'

/-- **The bare text**: without blanks and hyphens, in upper case. -/
def bare (t : Text) : Text := (t.filter isBare).flatMap upper

@[simp] theorem bare_nil : bare [] = [] := rfl

@[simp] theorem bare_append (t u : Text) : bare (t ++ u) = bare t ++ bare u := by
  rw [bare, List.filter_append, List.flatMap_append]
  rfl

theorem bare_cons (c : Char) (t : Text) : bare (c :: t) = bare [c] ++ bare t := bare_append [c] t

theorem bare_singleton {c : Char} (h : isBare c = true) : bare [c] = upper c := by
  rw [bare, List.filter_cons_of_pos h, List.filter_nil, List.flatMap_singleton]

theorem bare_sublist {t u : Text} (h : t.Sublist u) : (bare t).Sublist (bare u) :=
  (h.filter isBare).flatMap upper

/-- A text in upper case without blanks and hyphens is its own bare text. -/
theorem bare_eq_self {t : Text} (h : ∀ x ∈ t, isBare x = true ∧ upper x = [x]) : bare t = t := by
  induction t with
  | nil => rfl
  | cons c t ih =>
    rw [List.forall_mem_cons] at h
    rw [bare_cons, bare_singleton h.1.1, h.1.2, ih h.2, List.singleton_append]

/-! ## Upper-casing -/

/-- A character with an upper case of its own belongs to the bare text, and so does what
upper-casing brings. -/
theorem isBare_of_upper_ne {c : Char} (hc : upper c ≠ [c]) : isBare c = true := by
  rw [isBare, Bool.and_eq_true, Bool.not_eq_true', bne_iff_ne]
  refine ⟨?_, ?_⟩
  · rw [Bool.eq_false_iff]
    exact fun hblank => hc (upper_of_isBlank hblank)
  · rintro rfl
    exact hc (by decide)

theorem isBare_of_mem_upper {x c : Char} (hx : x ∈ upper c) (hc : upper c ≠ [c]) :
    isBare x = true := by
  obtain ⟨-, hblank, hascii⟩ := brought_of_mem_upper hx hc
  rw [isBare, hblank, Bool.not_false, Bool.true_and, bne_iff_ne]
  rintro rfl
  exact absurd (hascii (by decide)) (by decide)

/-- **Upper-casing leaves the bare text as it is.** -/
theorem bare_upper (c : Char) : bare (upper c) = bare [c] := by
  by_cases hc : upper c = [c]
  · rw [hc]
  · rw [bare_singleton (isBare_of_upper_ne hc)]
    exact bare_eq_self fun x hx => ⟨isBare_of_mem_upper hx hc, upper_of_mem_upper hx⟩

end Text

namespace Phrase

open Text

/-! ## Hyphenation -/

theorem bare_ascii : ∀ n < 0x7B, isSmallLetter (fold (Char.ofNat n)) = true →
    bare [Char.ofNat n] = bare [fold (Char.ofNat n)] := by
  decide

/-- A word without the letters s and k has one bare text in all its spellings. -/
theorem bare_of_map_fold {part word : Text} (h : part.map fold = word)
    (hword : (word.all fun l => isSmallLetter l && l != 's' && l != 'k') = true) :
    bare part = bare word := by
  induction part generalizing word with
  | nil => rw [← h, List.map_nil]
  | cons c part ih =>
    rw [List.map_cons] at h
    subst h
    rw [List.all_cons, Bool.and_eq_true, Bool.and_eq_true, Bool.and_eq_true, bne_iff_ne,
      bne_iff_ne] at hword
    obtain ⟨⟨⟨hletter, hs⟩, hk⟩, hrest⟩ := hword
    have hc := bare_ascii c.toNat (toNat_lt_of_fold rfl hletter hs hk)
    rw [Char.ofNat_toNat] at hc
    rw [bare_cons c, bare_cons (fold c), hc hletter, ih rfl hrest]

/-- A part that wants a hyphen has the bare text of its hyphenated spelling. -/
theorem bare_of_isCommandLine {c : Char} {tail : Text} (h : IsCommandLine (c :: tail)) :
    bare (c :: tail) = bare (c :: hyphenated) := by
  have hc : bare [c] = bare ['c'] := by
    obtain ⟨d, rest, heq, hd, -⟩ := h.eq_cons
    rw [List.cons.injEq] at heq
    rw [heq.1]
    exact bare_of_map_fold (by rw [List.map_singleton, hd]) (by decide)
  obtain ⟨first, gap, second, heq, hfirst, hgap, hsecond⟩ := h
  have hblank : bare gap = [] := by
    rcases hgap with rfl | rfl
    · rfl
    · decide
  calc bare (c :: tail) = bare first ++ bare gap ++ bare second := by
        rw [heq, bare_append, bare_append]
    _ = bare command ++ bare line := by
        rw [hblank, List.append_nil, bare_of_map_fold hfirst (by decide),
          bare_of_map_fold hsecond (by decide)]
    _ = bare ['c'] ++ bare hyphenated := by decide
    _ = bare (c :: hyphenated) := by rw [← hc, ← bare_cons]

/-- **Hyphenation leaves the bare text as it is.** -/
theorem bare_hyphenate (t : Text) : bare (hyphenate t) = bare t := by
  induction t using hyphenate_induction with
  | nil => rw [hyphenate_nil]
  | found c rest found after hs heq ih =>
    obtain ⟨ht, hfound⟩ := stripCommandLine?_eq_some_iff.1 hs
    obtain ⟨d, tail, rfl, -, -⟩ := hfound.eq_cons
    rw [List.cons_append, List.cons.injEq] at ht
    rw [heq, bare_append, ih, ht.1, ht.2, ← bare_of_isCommandLine hfound, ← bare_append,
      List.cons_append]
  | other c rest hs heq ih => rw [heq, bare_cons, ih, ← bare_cons]

end Phrase

/-! ## Revisions -/

namespace Rulebook

open Text Phrase

/-- A step leaves the bare text as it is or takes characters away from it. -/
theorem bare_run_sublist (book : Rulebook) (name text : Text) (step : Step) :
    (bare (step.run book name text)).Sublist (bare text) := by
  by_cases hcapital : step = .capitalize
  · subst hcapital
    rcases Step.capitalize_run_cases book name text with heq | ⟨c, rest, rfl, heq⟩
    · rw [heq]
    · rw [heq, bare_append, bare_upper, ← bare_cons]
  · by_cases hhyphen : step = .hyphenateCommandLine
    · subst hhyphen
      rw [Step.run]
      split
      · exact (bare_hyphenate text).symm ▸ List.Sublist.refl (bare text)
      · exact List.Sublist.refl _
    · exact bare_sublist (Step.run_sublist book name text hcapital hhyphen)

/-- **A revision never invents, duplicates or reorders text.** Blanks, hyphens and case apart, its
characters stood in the literal in the same order. -/
theorem bare_revise_sublist (book : Rulebook) (name literal : Text) :
    (bare (book.revise name literal)).Sublist (bare literal) :=
  revise_induction (motive := fun text => (bare text).Sublist (bare literal))
    (List.Sublist.refl _) fun step text h => (bare_run_sublist book name text step).trans h

end Rulebook

end Blurb
