import Blurb.Description.Phrase
import Blurb.Proofs.CaseTables
import Mathlib.Data.List.Infix

/-! # The words "command line" in a text

`IsCommandLine` says which parts want a hyphen, and the search and the hyphenation are read against
it: a text that is hyphenated holds no such part, and hyphenating it again changes nothing.

* `stripCommandLine?_eq_some_iff`, `findCommandLine?_eq_none_iff` — what the search finds.
* `findCommandLine?_hyphenate` — nothing is left to hyphenate.
* `findCommandLine?_of_isInfix`, `findCommandLine?_upper` — nothing new arises when the ends of a
  text go or its first character is put in upper case. -/

namespace Blurb.Phrase

open Text

/-! ## Parts that want a hyphen -/

/-- **A part that wants a hyphen**: "command" and "line" in any case, with at most one space between
them. -/
def IsCommandLine (found : Text) : Prop :=
  ∃ first gap second : Text, found = first ++ gap ++ second ∧
    first.map fold = command ∧ (gap = [] ∨ gap = [' ']) ∧ second.map fold = line

/-- Behind its first letter the hyphenated spelling has no letter c. -/
theorem fold_ne_of_mem_hyphenated : ∀ x ∈ hyphenated, fold x ≠ 'c' := by
  have h : (hyphenated.all fun x => fold x != 'c') = true := by decide
  intro x hx
  exact bne_iff_ne.1 (List.all_eq_true.1 h x hx)

theorem map_fold_command : command.map fold = command := by decide

theorem map_fold_line : line.map fold = line := by decide

/-- Only the first character of such a part is a letter c. -/
theorem IsCommandLine.eq_cons {found : Text} (h : IsCommandLine found) :
    ∃ c tail, found = c :: tail ∧ fold c = 'c' ∧ ∀ x ∈ tail, fold x ≠ 'c' := by
  obtain ⟨first, gap, second, rfl, hfirst, hgap, hsecond⟩ := h
  rw [command, List.map_eq_cons_iff] at hfirst
  obtain ⟨c, tail, rfl, hc, htail⟩ := hfirst
  refine ⟨c, tail ++ gap ++ second, by simp, hc, ?_⟩
  intro x hx
  simp only [List.mem_append] at hx
  rcases hx with (hx | hx) | hx
  · have := List.mem_map_of_mem (f := fold) hx
    rw [htail] at this
    rintro h
    simp [h] at this
  · rcases hgap with rfl | rfl
    · simp at hx
    · rw [List.mem_singleton.1 hx]
      decide
  · have := List.mem_map_of_mem (f := fold) hx
    rw [hsecond, line] at this
    rintro h
    simp [h] at this

/-- Behind its first character such a part has spaces and letters of the hyphenated spelling. -/
theorem IsCommandLine.of_mem_tail {c x : Char} {tail : Text} (h : IsCommandLine (c :: tail))
    (hx : x ∈ tail) : x = ' ' ∨ isFoldedLetter x = true ∧ fold x ∈ hyphenated := by
  have hletters : ((command ++ line).all fun l =>
      l == 'c' || isSmallLetter l && hyphenated.contains l) = true := by decide
  have hother : fold x ≠ 'c' := by
    obtain ⟨d, rest, heq, -, hrest⟩ := h.eq_cons
    exact hrest x ((List.cons.inj heq).2 ▸ hx)
  obtain ⟨first, gap, second, heq, hfirst, hgap, hsecond⟩ := h
  have hmem : x ∈ first ++ gap ++ second := heq ▸ List.mem_cons_of_mem c hx
  rw [List.mem_append, List.mem_append, or_right_comm] at hmem
  rcases hmem with hword | hmem
  · right
    have hfold : fold x ∈ command ++ line := by
      rw [← hfirst, ← hsecond, ← List.map_append]
      exact List.mem_map_of_mem (List.mem_append.2 hword)
    have hletter := List.all_eq_true.1 hletters _ hfold
    rw [beq_eq_false_iff_ne.2 hother, Bool.false_or, Bool.and_eq_true,
      List.contains_iff_mem] at hletter
    exact hletter
  · rcases hgap with rfl | rfl
    · exact absurd hmem List.not_mem_nil
    · exact Or.inl (List.mem_singleton.1 hmem)

theorem IsCommandLine.ne_nil {found : Text} (h : IsCommandLine found) : found ≠ [] := by
  obtain ⟨c, tail, rfl, -, -⟩ := h.eq_cons
  simp

theorem IsCommandLine.length_ge {found : Text} (h : IsCommandLine found) : 11 ≤ found.length := by
  obtain ⟨first, gap, second, rfl, hfirst, -, hsecond⟩ := h
  have h₁ := congrArg List.length hfirst
  have h₂ := congrArg List.length hsecond
  simp only [List.length_map, command, line, List.length_cons, List.length_nil] at h₁ h₂
  rw [List.length_append, List.length_append]
  omega

/-- The first character may be spelled in either case. -/
theorem IsCommandLine.cons_congr {c d : Char} {tail : Text} (h : IsCommandLine (c :: tail))
    (hd : fold d = fold c) : IsCommandLine (d :: tail) := by
  obtain ⟨first, gap, second, heq, hfirst, hgap, hsecond⟩ := h
  obtain ⟨a, first, rfl⟩ : ∃ a as, first = a :: as := by
    cases first with
    | nil => simp [command] at hfirst
    | cons a as => exact ⟨a, as, rfl⟩
  rw [List.cons_append, List.cons_append, List.cons.injEq] at heq
  refine ⟨d :: first, gap, second, by rw [heq.2]; rfl, ?_, hgap, hsecond⟩
  rw [← hfirst, List.map_cons, List.map_cons, hd, heq.1]

/-! ## What the search finds -/

/-- The space between the words is taken off whole. -/
theorem stripSpace_append {gap second rest : Text} (hgap : gap = [] ∨ gap = [' '])
    (hsecond : second.map fold = line) :
    stripSpace (gap ++ (second ++ rest)) = (gap, second ++ rest) := by
  rcases hgap with rfl | rfl
  · rw [line, List.map_eq_cons_iff] at hsecond
    obtain ⟨l, tail, rfl, hl, -⟩ := hsecond
    have hspace : l ≠ ' ' := by
      rintro rfl
      revert hl
      decide
    rw [List.nil_append, List.cons_append, stripSpace]
    rintro _ h
    exact hspace (List.cons.inj h).1
  · rfl

/-- **What is taken off at the start of a text** is a part that wants a hyphen. -/
theorem stripCommandLine?_eq_some_iff {t found rest : Text} :
    stripCommandLine? t = some (found, rest) ↔ t = found ++ rest ∧ IsCommandLine found := by
  simp only [stripCommandLine?, Option.bind_eq_bind, Option.bind_eq_some_iff,
    Option.some.injEq, Prod.mk.injEq, Prod.exists, stripFolded?_eq_some_iff, map_fold_command,
    map_fold_line]
  constructor
  · rintro ⟨first, after, ⟨rfl, hfirst⟩, second, last, ⟨hafter, hsecond⟩, rfl, rfl⟩
    have happ := append_of_stripSpace after
    refine ⟨?_, first, (stripSpace after).1, second, rfl, hfirst, ?_, hsecond⟩
    · rw [List.append_assoc, List.append_assoc, ← hafter, happ]
    · unfold stripSpace
      split
      · exact Or.inr rfl
      · exact Or.inl rfl
  · rintro ⟨rfl, first, gap, second, rfl, hfirst, hgap, hsecond⟩
    have hspace : stripSpace (gap ++ (second ++ rest)) = (gap, second ++ rest) :=
      stripSpace_append hgap hsecond
    refine ⟨first, gap ++ (second ++ rest), ⟨by simp, hfirst⟩, second, rest, ?_, ?_, rfl⟩
    · rw [hspace]
      exact ⟨rfl, hsecond⟩
    · rw [hspace]

theorem stripCommandLine?_eq_none_iff {t : Text} :
    stripCommandLine? t = none ↔ ∀ found, found <+: t → ¬ IsCommandLine found := by
  rw [Option.eq_none_iff_forall_ne_some]
  constructor
  · rintro h found ⟨rest, rfl⟩ hfound
    exact h (found, rest) (stripCommandLine?_eq_some_iff.2 ⟨rfl, hfound⟩)
  · rintro h ⟨found, rest⟩ hs
    obtain ⟨rfl, hfound⟩ := stripCommandLine?_eq_some_iff.1 hs
    exact h found (List.prefix_append _ _) hfound

/-- **A text in which nothing is found** has no part that wants a hyphen. -/
theorem findCommandLine?_eq_none_iff {t : Text} :
    findCommandLine? t = none ↔ ∀ found, found <:+: t → ¬ IsCommandLine found := by
  induction t with
  | nil =>
    simp only [findCommandLine?, true_iff]
    intro found h
    rw [List.infix_nil.1 h]
    exact fun hnil => hnil.ne_nil rfl
  | cons c rest ih =>
    have hstep : findCommandLine? (c :: rest) = none ↔
        stripCommandLine? (c :: rest) = none ∧ findCommandLine? rest = none := by
      rw [findCommandLine?]
      cases stripCommandLine? (c :: rest) with
      | none => simp
      | some parts => simp
    rw [hstep, stripCommandLine?_eq_none_iff, ih]
    simp only [List.infix_cons_iff]
    constructor
    · rintro ⟨hstart, hpart_in⟩ found (h | h)
      · exact hstart found h
      · exact hpart_in found h
    · intro h
      exact ⟨fun found hf => h found (Or.inl hf), fun found hf => h found (Or.inr hf)⟩

/-- Nothing new arises in a part of a text. -/
theorem findCommandLine?_of_isInfix {t u : Text} (hu : u <:+: t) (h : findCommandLine? t = none) :
    findCommandLine? u = none := by
  rw [findCommandLine?_eq_none_iff] at h ⊢
  exact fun found hf => h found (hf.trans hu)

/-- A part that wants a hyphen lies behind whatever has no letter c. -/
theorem IsCommandLine.infix_of_append {found before after : Text} (hfound : IsCommandLine found)
    (hbefore : ∀ x ∈ before, fold x ≠ 'c') (h : found <:+: before ++ after) : found <:+: after := by
  induction before with
  | nil => exact h
  | cons b before ih =>
    rw [List.cons_append, List.infix_cons_iff] at h
    rcases h with h | h
    · obtain ⟨c, tail, rfl, hc, -⟩ := hfound.eq_cons
      rw [List.cons_prefix_cons] at h
      exact absurd (h.1 ▸ hc) (hbefore b (by simp))
    · exact ih (fun x hx => hbefore x (List.mem_cons_of_mem _ hx)) h

/-- **Nothing new arises when the first character is put in upper case.** -/
theorem findCommandLine?_upper {c : Char} {rest : Text}
    (h : findCommandLine? (c :: rest) = none) : findCommandLine? (upper c ++ rest) = none := by
  rw [findCommandLine?_eq_none_iff] at h ⊢
  intro found hpart_in hfound
  by_cases hc : ∃ x ∈ upper c, fold x = 'c'
  · -- a letter c is brought by a letter c alone, so the part was there before
    obtain ⟨x, hx, hxc⟩ := hc
    obtain ⟨hux, hfold⟩ := of_mem_upper_of_fold_c hx hxc
    rw [hux, List.singleton_append, List.infix_cons_iff] at hpart_in
    rcases hpart_in with hstart | hpart_in
    · obtain ⟨y, tail, rfl, hy, -⟩ := hfound.eq_cons
      rw [List.cons_prefix_cons] at hstart
      refine h (c :: tail) ?_ (hfound.cons_congr (by rw [hfold, hy]))
      exact (List.cons_prefix_cons.2 ⟨rfl, hstart.2⟩).isInfix
    · exact h found (List.infix_cons hpart_in) hfound
  · push Not at hc
    exact h found (List.infix_cons (hfound.infix_of_append hc hpart_in)) hfound

/-! ## Hyphenation -/

@[simp] theorem hyphenate_nil : hyphenate [] = [] := by rw [hyphenate]

theorem hyphenate_of_some {c : Char} {rest found after : Text}
    (h : stripCommandLine? (c :: rest) = some (found, after)) :
    hyphenate (c :: rest) = c :: hyphenated ++ hyphenate after := by
  rw [hyphenate]
  split
  · next h' =>
    rw [h, Option.some.injEq, Prod.mk.injEq] at h'
    rw [h'.2]
  · next h' =>
    rw [h] at h'
    simp at h'

theorem hyphenate_of_none {c : Char} {rest : Text} (h : stripCommandLine? (c :: rest) = none) :
    hyphenate (c :: rest) = c :: hyphenate rest := by
  rw [hyphenate]
  split
  · next h' =>
    rw [h] at h'
    simp at h'
  · rfl

/-- **Hyphenation, case by case**: a part that wants a hyphen is spelled anew, and any other
character stays. -/
theorem hyphenate_induction {motive : Text → Prop} (nil : motive [])
    (found : ∀ c rest found after, stripCommandLine? (c :: rest) = some (found, after) →
      hyphenate (c :: rest) = c :: hyphenated ++ hyphenate after → motive after →
      motive (c :: rest))
    (other : ∀ c rest, stripCommandLine? (c :: rest) = none →
      hyphenate (c :: rest) = c :: hyphenate rest → motive rest → motive (c :: rest))
    (t : Text) : motive t := by
  induction t using hyphenate.induct with
  | case1 => exact nil
  | case2 c rest part after h ih => exact found c rest part after h (hyphenate_of_some h) ih
  | case3 c rest h ih => exact other c rest h (hyphenate_of_none h) ih

/-- A text without a part that wants a hyphen stays as it is. -/
theorem hyphenate_eq_self {t : Text} (h : findCommandLine? t = none) : hyphenate t = t := by
  induction t with
  | nil => exact hyphenate_nil
  | cons c rest ih =>
    have hstrip : stripCommandLine? (c :: rest) = none := by
      rw [stripCommandLine?_eq_none_iff]
      exact fun found hf => findCommandLine?_eq_none_iff.1 h found hf.isInfix
    have hrest : findCommandLine? rest = none :=
      findCommandLine?_of_isInfix (List.suffix_cons c rest).isInfix h
    rw [hyphenate_of_none hstrip, ih hrest]

/-- What starts without a letter c is passed over. -/
theorem hyphenate_append {before after : Text} (h : ∀ x ∈ before, fold x ≠ 'c') :
    hyphenate (before ++ after) = before ++ hyphenate after := by
  induction before with
  | nil => rfl
  | cons b before ih =>
    have hstrip : stripCommandLine? (b :: (before ++ after)) = none := by
      rw [stripCommandLine?_eq_none_iff]
      intro found hstart hfound
      obtain ⟨c, tail, rfl, hc, -⟩ := hfound.eq_cons
      rw [List.cons_prefix_cons] at hstart
      exact h b (by simp) (hstart.1 ▸ hc)
    rw [List.cons_append, hyphenate_of_none hstrip,
      ih (fun x hx => h x (List.mem_cons_of_mem _ hx)), List.cons_append]

/-- What the hyphenated text starts with, up to a letter c, the text starts with too. -/
theorem prefix_of_prefix_hyphenate {part t : Text} (hpart : ∀ x ∈ part, fold x ≠ 'c')
    (h : part <+: hyphenate t) : part <+: t := by
  induction t using hyphenate_induction generalizing part with
  | nil => simpa using h
  | found c rest found after hs heq ih =>
    cases part with
    | nil => exact List.nil_prefix
    | cons x part =>
      obtain ⟨y, tail, rfl, hy, -⟩ := (stripCommandLine?_eq_some_iff.1 hs).2.eq_cons
      have hcons := (stripCommandLine?_eq_some_iff.1 hs).1
      rw [List.cons_append, List.cons.injEq] at hcons
      rw [heq, List.cons_append, List.cons_prefix_cons] at h
      exact absurd (by rw [h.1, hcons.1, hy]) (hpart x (by simp))
  | other c rest hs heq ih =>
    cases part with
    | nil => exact List.nil_prefix
    | cons x part =>
      rw [heq, List.cons_prefix_cons] at h
      rw [List.cons_prefix_cons]
      exact ⟨h.1, ih (fun y hy => hpart y (List.mem_cons_of_mem _ hy)) h.2⟩

/-- The hyphenated spelling wants no hyphen. -/
theorem not_isCommandLine_hyphenated {c : Char} {after found : Text}
    (h : found <+: c :: hyphenated ++ after) : ¬ IsCommandLine found := by
  rintro ⟨first, gap, second, rfl, hfirst, hgap, hsecond⟩
  obtain ⟨rest, heq⟩ := h
  have hlength : first.length = 7 := by simpa [command] using congrArg List.length hfirst
  -- behind "command" stands a hyphen, where the part has a space or an l
  have hdrop : gap ++ (second ++ rest) = '-' :: (line ++ after) := by
    have := congrArg (List.drop 7) heq
    rwa [List.append_assoc, List.append_assoc, List.drop_left' hlength] at this
  rw [line, List.map_eq_cons_iff] at hsecond
  obtain ⟨l, tail, rfl, hl, -⟩ := hsecond
  rcases hgap with rfl | rfl
  · rw [List.nil_append, List.cons_append, List.cons.injEq] at hdrop
    rw [hdrop.1] at hl
    revert hl
    decide
  · rw [List.cons_append, List.cons.injEq] at hdrop
    exact absurd hdrop.1 (by decide)

/-- **Nothing is left to hyphenate.** -/
theorem findCommandLine?_hyphenate (t : Text) : findCommandLine? (hyphenate t) = none := by
  rw [findCommandLine?_eq_none_iff]
  intro part hpart_in hpart
  induction t using hyphenate_induction generalizing part with
  | nil =>
    rw [hyphenate_nil, List.infix_nil] at hpart_in
    exact hpart.ne_nil hpart_in
  | found c rest found after hs heq ih =>
    rw [heq, List.cons_append, List.infix_cons_iff] at hpart_in
    rcases hpart_in with hstart | hpart_in
    · exact not_isCommandLine_hyphenated hstart hpart
    · exact ih part (hpart.infix_of_append fold_ne_of_mem_hyphenated hpart_in) hpart
  | other c rest hs heq ih =>
    rw [heq, List.infix_cons_iff] at hpart_in
    rcases hpart_in with hstart | hpart_in
    · -- behind its letter c the part lies in the text itself
      obtain ⟨x, tail, rfl, hx, htail⟩ := hpart.eq_cons
      rw [List.cons_prefix_cons] at hstart
      refine stripCommandLine?_eq_none_iff.1 hs (x :: tail) ?_ hpart
      rw [List.cons_prefix_cons]
      exact ⟨hstart.1, prefix_of_prefix_hyphenate htail hstart.2⟩
    · exact ih part hpart_in hpart

end Blurb.Phrase
