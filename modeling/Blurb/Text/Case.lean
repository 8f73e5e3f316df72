import Blurb.Text.Basic
import Blurb.Text.UpperTable
import Blurb.Text.FoldTable

/-! # Case

Upper-casing of a character and equality of texts up to case. -/

namespace Blurb

/-- **Upper-casing a character**: the character itself if it has no upper case, else a sequence of
one to three characters. -/
def upper (c : Char) : Text :=
  match upperExpansions.lookup c.toNat with
  | some expansion => expansion.map Char.ofNat
  | none => [Char.ofNat ((CaseRange.lookup c.toNat upperRanges).getD c.toNat)]

/-- **Simple case folding** of a character: two characters are the same up to case exactly if they
fold alike. -/
def fold (c : Char) : Char :=
  match CaseRange.lookup c.toNat foldRanges with
  | some n => Char.ofNat n
  | none => c

/-- The letters a to z. -/
def isSmallLetter (c : Char) : Bool := 'a' ≤ c && c ≤ 'z'

/-- **A letter up to case**: one that folds to a letter a to z. These are the Latin letters of both
cases, the long s and the Kelvin sign. -/
def isFoldedLetter (c : Char) : Bool := isSmallLetter (fold c)

namespace Text

/-- **Taking a start off up to case**: the part of the text that equals `word` up to case, in the
text's own spelling, and what follows it. -/
def stripFolded? : Text → Text → Option (Text × Text)
  | [], t => some ([], t)
  | _ :: _, [] => none
  | w :: ws, c :: cs =>
    if fold w = fold c then (stripFolded? ws cs).map fun (found, rest) => (c :: found, rest)
    else none

@[simp] theorem stripFolded?_nil (t : Text) : stripFolded? [] t = some ([], t) := by
  cases t <;> rfl

/-- What is taken off and what is left make up the text, and the part taken off equals the word
character by character up to case. -/
theorem stripFolded?_eq_some_iff {w t found rest : Text} :
    stripFolded? w t = some (found, rest) ↔
      t = found ++ rest ∧ found.map fold = w.map fold := by
  induction w generalizing t found rest with
  | nil =>
    constructor
    · intro h
      simp at h
      simp [← h.1, h.2]
    · rintro ⟨rfl, h⟩
      have : found = [] := by simpa using h
      simp [this]
  | cons a w ih =>
    cases t with
    | nil =>
      simp only [stripFolded?, reduceCtorEq, List.map_cons, false_iff, not_and]
      intro h
      have : found = [] := by
        cases found with
        | nil => rfl
        | cons c cs => simp at h
      simp [this]
    | cons c t =>
      by_cases hf : fold a = fold c
      · simp only [stripFolded?, hf, if_true, Option.map_eq_some_iff, Prod.mk.injEq, Prod.exists,
          List.map_cons]
        constructor
        · rintro ⟨m, r, hm, rfl, rfl⟩
          obtain ⟨rfl, h⟩ := ih.1 hm
          simp [h]
        · rintro ⟨h₁, h₂⟩
          cases found with
          | nil => simp at h₂
          | cons d ds =>
            simp only [List.cons_append, List.cons.injEq, List.map_cons] at h₁ h₂
            obtain ⟨rfl, rfl⟩ := h₁
            exact ⟨ds, rest, ih.2 ⟨rfl, h₂.2⟩, rfl, rfl⟩
      · simp only [stripFolded?, hf, if_false, reduceCtorEq, List.map_cons, false_iff, not_and]
        intro h₁ h₂
        cases found with
        | nil => simp at h₂
        | cons d ds =>
          simp only [List.cons_append, List.cons.injEq, List.map_cons] at h₁ h₂
          obtain ⟨rfl, rfl⟩ := h₁
          exact hf h₂.1.symm

end Text

end Blurb
