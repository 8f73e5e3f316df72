import Blurb.Proofs.CommandLineWords

/-! # Removing the name of the item

How the name is taken off and removed, case by case, and that removing it puts no two characters
next to each other that could be read as one word with a gap: what is joined in the result was
joined before.

* `stripClosedName?_eq_some_iff` — an occurrence with the delimiter that closes it.
* `removeInnerNames_induction` — the removal, case by case.
* `findCommandLine?_removeName` — removing the name brings no "command line". -/

namespace Blurb.Phrase

open Text

/-! ## Occurrences -/

/-- **An occurrence of the name at the start**, closed by a delimiter or by the end of the text. -/
theorem stripClosedName?_eq_some_iff {name t close after : Text} :
    stripClosedName? name t = some (close, after) ↔
      ∃ found, t = found ++ (close ++ after) ∧ found.map fold = name.map fold ∧
        (close = [] ∧ after = [] ∨ ∃ d, close = [d] ∧ isDelimiter d = true) := by
  rw [stripClosedName?]
  constructor
  · intro h
    split at h
    · next found hs =>
      obtain ⟨rfl, hfold⟩ := stripFolded?_eq_some_iff.1 hs
      simp only [Option.some.injEq, Prod.mk.injEq] at h
      obtain ⟨rfl, rfl⟩ := h
      exact ⟨found, rfl, hfold, Or.inl ⟨rfl, rfl⟩⟩
    · next found d rest hs =>
      obtain ⟨rfl, hfold⟩ := stripFolded?_eq_some_iff.1 hs
      split at h
      · next hd =>
        simp only [Option.some.injEq, Prod.mk.injEq] at h
        obtain ⟨rfl, rfl⟩ := h
        exact ⟨found, rfl, hfold, Or.inr ⟨d, rfl, hd⟩⟩
      · simp at h
    · simp at h
  · rintro ⟨found, rfl, hfold, hclose⟩
    have hs : stripFolded? name (found ++ (close ++ after)) = some (found, close ++ after) :=
      stripFolded?_eq_some_iff.2 ⟨rfl, hfold⟩
    rcases hclose with ⟨rfl, rfl⟩ | ⟨d, rfl, hd⟩
    · rw [hs]
      rfl
    · rw [hs]
      simp [hd]

theorem removeInnerNames_of_some {name : Text} {c : Char} {rest close after : Text}
    (hc : isDelimiter c = true) (h : stripClosedName? name rest = some (close, after)) :
    removeInnerNames name (c :: rest) = c :: close ++ removeInnerNames name after := by
  rw [removeInnerNames, if_pos hc]
  split
  · next h' =>
    rw [h, Option.some.injEq, Prod.mk.injEq] at h'
    rw [h'.1, h'.2]
  · next h' =>
    rw [h] at h'
    simp at h'

theorem removeInnerNames_of_none {name : Text} {c : Char} {rest : Text}
    (h : isDelimiter c = true → stripClosedName? name rest = none) :
    removeInnerNames name (c :: rest) = c :: removeInnerNames name rest := by
  rw [removeInnerNames]
  split
  · next hc =>
    split
    · next h' =>
      rw [h hc] at h'
      simp at h'
    · rfl
  · rfl

@[simp] theorem removeInnerNames_nil (name : Text) : removeInnerNames name [] = [] := by
  rw [removeInnerNames]

/-- **Removal inside a text, case by case**: behind a delimiter stands an occurrence, which goes, or
the character stays alone. -/
theorem removeInnerNames_induction (name : Text) {motive : Text → Prop} (nil : motive [])
    (removed : ∀ c rest close after, isDelimiter c = true →
      stripClosedName? name rest = some (close, after) →
      removeInnerNames name (c :: rest) = c :: close ++ removeInnerNames name after →
      motive after → motive (c :: rest))
    (kept : ∀ c rest, removeInnerNames name (c :: rest) = c :: removeInnerNames name rest →
      motive rest → motive (c :: rest))
    (t : Text) : motive t := by
  induction t using removeInnerNames.induct name with
  | case1 => exact nil
  | case2 c rest hc close after h ih =>
    exact removed c rest close after hc h (removeInnerNames_of_some hc h) ih
  | case3 c rest hc h ih => exact kept c rest (removeInnerNames_of_none fun _ => h) ih
  | case4 c rest hc ih => exact kept c rest (removeInnerNames_of_none fun h => absurd h hc) ih

/-! ## Joined parts -/

/-- **A joined part**: every delimiter in it is directly followed by a letter. -/
def IsJoined : Text → Prop
  | [] => True
  | c :: rest =>
    (isDelimiter c = true → ∃ d after, rest = d :: after ∧ isDelimiter d = false) ∧ IsJoined rest

theorem isJoined_append {before after : Text} (hbefore : ∀ x ∈ before, isDelimiter x = false)
    (hafter : IsJoined after) : IsJoined (before ++ after) := by
  induction before with
  | nil => exact hafter
  | cons b before ih =>
    refine ⟨fun hb => ?_, ih fun x hx => hbefore x (List.mem_cons_of_mem _ hx)⟩
    rw [hbefore b (by simp)] at hb
    simp at hb

/-- What folds to small letters has no delimiter. -/
theorem isDelimiter_of_map_fold {part word : Text} (h : part.map fold = word)
    (hword : word.all isSmallLetter = true) : ∀ x ∈ part, isDelimiter x = false := by
  intro x hx
  have := List.all_eq_true.1 hword (fold x) (h ▸ List.mem_map_of_mem hx)
  rw [isDelimiter, isFoldedLetter, this]
  rfl

theorem IsCommandLine.isJoined {found : Text} (h : IsCommandLine found) : IsJoined found := by
  obtain ⟨first, gap, second, rfl, hfirst, hgap, hsecond⟩ := h
  have hletters := isDelimiter_of_map_fold hfirst (by decide)
  have hletters₂ := isDelimiter_of_map_fold hsecond (by decide)
  have hjoined : IsJoined second := by
    simpa using isJoined_append hletters₂ (show IsJoined [] from trivial)
  rw [List.append_assoc]
  refine isJoined_append hletters ?_
  rcases hgap with rfl | rfl
  · exact hjoined
  · rw [line, List.map_eq_cons_iff] at hsecond
    obtain ⟨l, tail, rfl, -, -⟩ := hsecond
    exact ⟨fun _ => ⟨l, tail, rfl, hletters₂ l (by simp)⟩, hjoined⟩

/-- **A joined start of what the removal leaves is a start of the text**: where an occurrence went,
two delimiters stand next to each other, or the text ends. -/
theorem IsJoined.prefix_of_removeInnerNames {name part t : Text} (hpart : IsJoined part)
    (h : part <+: removeInnerNames name t) : part <+: t := by
  induction t using removeInnerNames_induction name generalizing part with
  | nil => simpa using h
  | removed c rest close after hc hs heq ih =>
    cases part with
    | nil => exact List.nil_prefix
    | cons x part =>
      rw [heq, List.cons_append, List.cons_prefix_cons] at h
      obtain ⟨d, tail, rfl, hd⟩ := hpart.1 (h.1 ▸ hc)
      obtain ⟨found, -, -, ⟨rfl, rfl⟩ | ⟨e, rfl, he⟩⟩ := stripClosedName?_eq_some_iff.1 hs
      · simp at h
      · rw [List.cons_append, List.cons_prefix_cons] at h
        rw [h.2.1, he] at hd
        simp at hd
  | kept c rest heq ih =>
    cases part with
    | nil => exact List.nil_prefix
    | cons x part =>
      rw [heq, List.cons_prefix_cons] at h
      rw [List.cons_prefix_cons]
      exact ⟨h.1, ih hpart.2 h.2⟩

/-- A part that starts with a letter lies behind the delimiter that closes an occurrence. -/
theorem infix_of_close {c : Char} {tail close after rest : Text} (hc : isDelimiter c = false)
    (hclose : close = [] ∧ after = [] ∨ ∃ d, close = [d] ∧ isDelimiter d = true)
    (h : c :: tail <:+: close ++ rest) : c :: tail <:+: rest := by
  rcases hclose with ⟨rfl, -⟩ | ⟨d, rfl, hd⟩
  · exact h
  · rw [List.singleton_append, List.infix_cons_iff, List.cons_prefix_cons] at h
    rcases h with h | h
    · rw [← h.1, hc] at hd
      simp at hd
    · exact h

/-- The same anywhere in the text, for a part that starts with a letter. -/
theorem IsJoined.infix_of_removeInnerNames {name tail t : Text} {c : Char}
    (hc : isDelimiter c = false) (hpart : IsJoined (c :: tail))
    (h : c :: tail <:+: removeInnerNames name t) : c :: tail <:+: t := by
  induction t using removeInnerNames_induction name with
  | nil => simp at h
  | removed b rest close after hb hs heq ih =>
    rw [heq, List.cons_append, List.infix_cons_iff] at h
    obtain ⟨found, rfl, -, hclose⟩ := stripClosedName?_eq_some_iff.1 hs
    rcases h with h | h
    · rw [List.cons_prefix_cons] at h
      rw [← h.1, hc] at hb
      simp at hb
    · refine (ih (infix_of_close hc hclose h)).trans (List.IsSuffix.isInfix ?_)
      exact ⟨b :: (found ++ close), by simp⟩
  | kept b rest heq ih =>
    rw [heq, List.infix_cons_iff] at h
    rcases h with h | h
    · rw [List.cons_prefix_cons] at h
      have := hpart.2.prefix_of_removeInnerNames h.2
      exact (List.cons_prefix_cons.2 ⟨h.1, this⟩).isInfix
    · exact List.infix_cons (ih h)

/-- The same for the removal with an occurrence at the start. -/
theorem IsJoined.infix_of_removeName {name tail t : Text} {c : Char}
    (hc : isDelimiter c = false) (hpart : IsJoined (c :: tail))
    (h : c :: tail <:+: removeName name t) : c :: tail <:+: t := by
  rw [removeName] at h
  split at h
  · exact h
  · split at h
    · next close after hs =>
      obtain ⟨found, rfl, -, hclose⟩ := stripClosedName?_eq_some_iff.1 hs
      refine (hpart.infix_of_removeInnerNames hc (infix_of_close hc hclose h)).trans
        (List.IsSuffix.isInfix ?_)
      exact ⟨found ++ close, by simp⟩
    · exact hpart.infix_of_removeInnerNames hc h

/-- **Removing the name brings no "command line".** -/
theorem findCommandLine?_removeName {name t : Text} (h : findCommandLine? t = none) :
    findCommandLine? (removeName name t) = none := by
  rw [findCommandLine?_eq_none_iff] at h ⊢
  intro found hpart_in hfound
  obtain ⟨c, tail, rfl, hc, -⟩ := hfound.eq_cons
  have hletter : isDelimiter c = false := by
    rw [isDelimiter, isFoldedLetter, hc]
    decide
  exact h _ (hfound.isJoined.infix_of_removeName hletter hpart_in) hfound

end Blurb.Phrase
