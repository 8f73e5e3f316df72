import Blurb.Description.Phrase
import Blurb.Proofs.CaseTables
import Mathlib.Data.List.Infix

/-! # What is cut off at the ends of a text

Blanks, articles and full stops: what each cut takes away, and that it does nothing exactly if there
is nothing to cut.

* `trim_eq_self_iff`, `dropArticle_eq_self_iff`, `dropFullStop_eq_self_iff` — when a cut does
  nothing.
* `trim_isInfix`, `dropArticle_isSuffix`, `dropFullStop_isPrefix` — what is left is a part of the
  text.
* `stripArticle?_upper` — upper-casing the first character brings no article. -/

namespace Blurb

namespace Text

/-! ## Blanks -/

theorem isBlank_of_mem_leadingBlanks {c : Char} {t : Text} (h : c ∈ leadingBlanks t) :
    isBlank c = true := List.all_eq_true.1 List.all_takeWhile c h

theorem isBlank_of_mem_trailingBlanks {c : Char} {t : Text} (h : c ∈ trailingBlanks t) :
    isBlank c = true := by
  rw [trailingBlanks, List.mem_reverse] at h
  exact List.all_eq_true.1 List.all_takeWhile c h

theorem trimStart_isSuffix (t : Text) : trimStart t <:+ t := List.dropWhile_suffix _

theorem trimEnd_isPrefix (t : Text) : trimEnd t <+: t := ⟨_, trimEnd_append_trailingBlanks t⟩

theorem trim_isInfix (t : Text) : trim t <:+: t :=
  (trimEnd_isPrefix _).isInfix.trans (trimStart_isSuffix t).isInfix

theorem trimStart_eq_self_iff {t : Text} : trimStart t = t ↔ leadingBlanks t = [] := by
  have happ := leadingBlanks_append_trimStart t
  constructor
  · intro h
    rw [h] at happ
    exact List.append_left_eq_self.1 happ
  · intro h
    rwa [h, List.nil_append] at happ

theorem trimEnd_eq_self_iff {t : Text} : trimEnd t = t ↔ trailingBlanks t = [] := by
  have happ := trimEnd_append_trailingBlanks t
  constructor
  · intro h
    rw [h] at happ
    exact List.append_right_eq_self.1 happ
  · intro h
    rwa [h, List.append_nil] at happ

/-- **Trimming does nothing** exactly if there are no blanks at either end. -/
theorem trim_eq_self_iff {t : Text} :
    trim t = t ↔ leadingBlanks t = [] ∧ trailingBlanks t = [] := by
  rw [← trimStart_eq_self_iff, ← trimEnd_eq_self_iff, trim]
  constructor
  · intro h
    have hlength := congrArg List.length h
    have hstart := (trimStart_isSuffix t).length_le
    have hend := (trimEnd_isPrefix (trimStart t)).length_le
    have heq : trimStart t = t := (trimStart_isSuffix t).eq_of_length (by omega)
    rw [heq] at h
    exact ⟨heq, h⟩
  · rintro ⟨hstart, hend⟩
    rw [hstart, hend]

end Text

namespace Phrase

open Text

/-! ## Articles -/

/-- **An article**: `a` or `an` in any case, directly before a blank. -/
theorem stripArticle?_eq_some_iff {t article rest : Text} :
    stripArticle? t = some (article, rest) ↔
      t = article ++ rest ∧ (article.map fold = ['a'] ∨ article.map fold = ['a', 'n']) ∧
        ∃ b after, rest = b :: after ∧ isBlank b = true := by
  constructor
  · fun_cases stripArticle? t with
    | case1 a ha n b after hn =>
      intro h
      obtain ⟨rfl, rfl⟩ := Prod.mk.inj (Option.some.inj h)
      exact ⟨rfl, Or.inl (by simp [ha]), n, b :: after, rfl, hn⟩
    | case2 a ha n b after hn hnb =>
      intro h
      obtain ⟨rfl, rfl⟩ := Prod.mk.inj (Option.some.inj h)
      exact ⟨rfl, Or.inr (by simp [ha, hnb.1]), b, after, rfl, hnb.2⟩
    | case4 a ha n hn =>
      intro h
      obtain ⟨rfl, rfl⟩ := Prod.mk.inj (Option.some.inj h)
      exact ⟨rfl, Or.inl (by simp [ha]), n, [], rfl, hn⟩
    | case3 | case5 | case6 | case7 | case8 => simp
  · rintro ⟨rfl, harticle, b, after, rfl, hb⟩
    rcases harticle with h | h
    · rw [List.map_eq_cons_iff] at h
      obtain ⟨a, tail, rfl, ha, htail⟩ := h
      rw [List.map_eq_nil_iff] at htail
      subst htail
      cases after <;> simp [stripArticle?, ha, hb]
    · rw [List.map_eq_cons_iff] at h
      obtain ⟨a, tail, rfl, ha, htail⟩ := h
      rw [List.map_eq_cons_iff] at htail
      obtain ⟨n, tail, rfl, hn, htail⟩ := htail
      rw [List.map_eq_nil_iff] at htail
      subst htail
      -- an n is a letter and so no blank
      have hblank : isBlank n = false := by
        by_contra hcon
        have := isFoldedLetter_of_isBlank (Bool.not_eq_false _ ▸ hcon)
        rw [isFoldedLetter, hn] at this
        exact absurd this (by decide)
      simp [stripArticle?, ha, hn, hb, hblank]

/-- What is left without the article is the end of the text. -/
theorem dropArticle_isSuffix (t : Text) : dropArticle t <:+ t := by
  rw [dropArticle]
  split
  · next article rest h =>
    obtain ⟨rfl, -, -⟩ := stripArticle?_eq_some_iff.1 h
    exact (trimStart_isSuffix rest).trans (List.suffix_append _ _)
  · exact List.suffix_refl t

/-- Behind an article a text goes on with less than a blank and what follows it. -/
theorem dropArticle_of_some {t article rest : Text} (h : stripArticle? t = some (article, rest)) :
    ∃ b after, t = article ++ b :: after ∧ isBlank b = true ∧ dropArticle t = trimStart after := by
  obtain ⟨ht, -, b, after, rfl, hb⟩ := stripArticle?_eq_some_iff.1 h
  refine ⟨b, after, ht, hb, ?_⟩
  rw [dropArticle, h]
  exact List.dropWhile_cons_of_pos hb

/-- **Dropping the article does nothing** exactly if there is none. -/
theorem dropArticle_eq_self_iff {t : Text} : dropArticle t = t ↔ stripArticle? t = none := by
  constructor
  · intro heq
    cases h : stripArticle? t with
    | none => rfl
    | some parts =>
      obtain ⟨b, after, ht, -, hdrop⟩ := dropArticle_of_some h
      have hle := (trimStart_isSuffix after).length_le
      have hlength := congrArg List.length ht
      rw [← heq, hdrop] at hlength
      simp only [List.length_append, List.length_cons] at hlength
      omega
  · intro h
    rw [dropArticle, h]

/-- **Upper-casing the first character brings no article.** -/
theorem stripArticle?_upper {c : Char} {rest : Text} (h : stripArticle? (c :: rest) = none) :
    stripArticle? (upper c ++ rest) = none := by
  rw [Option.eq_none_iff_forall_ne_some]
  rintro ⟨article, after⟩ hs
  obtain ⟨heq, harticle, b, last, rfl, hb⟩ := stripArticle?_eq_some_iff.1 hs
  obtain ⟨a, tail, rfl, ha, htail⟩ : ∃ a tail, article = a :: tail ∧ fold a = 'a' ∧
      (tail = [] ∨ tail.map fold = ['n']) := by
    rcases harticle with harticle | harticle
    · obtain ⟨a, tail, rfl, ha, htail⟩ := List.map_eq_cons_iff.1 harticle
      exact ⟨a, tail, rfl, ha, Or.inl (List.map_eq_nil_iff.1 htail)⟩
    · obtain ⟨a, tail, rfl, ha, htail⟩ := List.map_eq_cons_iff.1 harticle
      exact ⟨a, tail, rfl, ha, Or.inr htail⟩
  cases hu : upper c with
  | nil => exact upper_ne_nil c hu
  | cons x more =>
    rw [hu, List.cons_append, List.cons_append, List.cons.injEq] at heq
    rcases of_upper_eq_cons_of_fold_a hu (heq.1 ▸ ha) with ⟨rfl, hc⟩ | rfl
    · -- the article was there before
      rw [List.nil_append] at heq
      have hs' : stripArticle? (c :: rest) = some (c :: tail, b :: last) := by
        refine stripArticle?_eq_some_iff.2 ⟨by rw [heq.2]; rfl, ?_, b, last, rfl, hb⟩
        rcases htail with rfl | htail
        · exact Or.inl (by simp [hc])
        · exact Or.inr (by simp [hc, htail])
      rw [h] at hs'
      simp at hs'
    · -- the modifier of U+1E9A is neither blank nor an n
      rcases htail with rfl | htail
      · rw [List.singleton_append, List.nil_append, List.cons.injEq] at heq
        rw [← heq.2.1] at hb
        revert hb
        decide
      · obtain ⟨n, tail, rfl, hn, -⟩ := List.map_eq_cons_iff.1 htail
        rw [List.singleton_append, List.cons_append, List.cons.injEq] at heq
        rw [← heq.2.1] at hn
        revert hn
        decide

/-! ## First words -/

/-- A text that starts with a small letter has a first word. -/
theorem firstWord_ne_nil {t : Text} (h : startsSmall t = true) : firstWord t ≠ [] := by
  cases t with
  | nil => simp [startsSmall] at h
  | cons c rest =>
    have hblank : isBlank c = false := by
      rw [startsSmall, isSmallLetter_iff] at h
      rw [Bool.eq_false_iff]
      intro hc
      have := isFoldedLetter_of_isBlank hc
      rw [Bool.eq_false_iff, ne_eq, isFoldedLetter_iff] at this
      omega
    simp [firstWord, trimStart, hblank]

/-! ## Full stops -/

theorem dropFullStop_isPrefix (t : Text) : dropFullStop t <+: t := by
  rw [dropFullStop]
  split
  · exact List.dropLast_prefix t
  · exact List.prefix_refl t

/-- A closing full stop is the last character. -/
theorem eq_append_of_endsWithFullStop {t : Text} (h : endsWithFullStop t = true) :
    t = dropFullStop t ++ ['.'] := by
  have hstop := h
  rw [endsWithFullStop, Bool.and_eq_true, endsWith, List.isSuffixOf_iff_suffix] at hstop
  obtain ⟨before, hbefore⟩ := hstop.1
  rw [dropFullStop, if_pos h, ← hbefore, List.dropLast_concat]

/-- **Dropping the full stop does nothing** exactly if there is none to drop. -/
theorem dropFullStop_eq_self_iff {t : Text} :
    dropFullStop t = t ↔ endsWithFullStop t = false := by
  constructor
  · intro heq
    rw [Bool.eq_false_iff]
    intro h
    have hlength := congrArg List.length (eq_append_of_endsWithFullStop h)
    rw [heq] at hlength
    simp at hlength
  · intro h
    rw [dropFullStop, h]
    rfl

end Phrase

end Blurb
