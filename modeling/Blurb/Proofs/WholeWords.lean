import Blurb.Proofs.NameRemoval
import Blurb.Text.LetterTable

/-! # Whole words

The removal of a name deletes occurrences of it and nothing else. What may stand beside an
occurrence is a delimiter, and the delimiters are all characters but the letters a to z in either
case, the long s and the Kelvin sign. So an occurrence is a whole word in a text that is written
with these letters alone, and may be a part of a word in any other.

* `Phrase.Deletes` — a text, the occurrences that go, and what is left.
* `Phrase.deletes_removeName` — what the removal deletes stands between delimiters.
* `Phrase.removesWholeWords_of_letters` — the removal deletes whole words from texts without further
  letters.
* `Phrase.not_removesWholeWords_cons` — any further letter before a name is cut off from it.
* `Phrase.removesWholeWords_iff` — the texts from which only whole words are deleted. -/

namespace Blurb.Phrase

open Text

/-! ## Deleting occurrences -/

/-- **An occurrence in a text**, with all that stands around it. -/
structure Occurrence where
  /-- What stands before it. -/
  before : Text
  /-- The occurrence itself, in the spelling of the text. -/
  found : Text
  /-- What stands behind it. -/
  after : Text
deriving Repr, DecidableEq

/-- A character stands directly beside an occurrence, on one side or the other. -/
def Occurrence.IsBeside (occurrence : Occurrence) (c : Char) : Prop :=
  occurrence.before.getLast? = some c ∨ occurrence.after.head? = some c

/-- **Deleting occurrences of a name** from left to right. `Deletes name before t occurrences u`
says that just these occurrences go from `t` and `u` is left, where `t` stands behind `before`. -/
inductive Deletes (name : Text) : Text → Text → List Occurrence → Text → Prop where
  /-- Nothing is left of nothing. -/
  | nil (before : Text) : Deletes name before [] [] []
  /-- A character stays. -/
  | keep {before t u : Text} {occurrences : List Occurrence} (c : Char)
    (rest : Deletes name (before ++ [c]) t occurrences u) :
    Deletes name before (c :: t) occurrences (c :: u)
  /-- An occurrence goes. -/
  | delete {before found t u : Text} {occurrences : List Occurrence}
    (isName : found.map fold = name.map fold)
    (rest : Deletes name (before ++ found) t occurrences u) :
    Deletes name before (found ++ t) (⟨before, found, t⟩ :: occurrences) u

namespace Deletes

variable {name before t u : Text} {occurrences : List Occurrence} {occurrence : Occurrence}

/-- A part of the text stays. -/
theorem keep_append (part : Text) (h : Deletes name (before ++ part) t occurrences u) :
    Deletes name before (part ++ t) occurrences (part ++ u) := by
  induction part generalizing before with
  | nil => rwa [List.append_nil] at h
  | cons c part ih =>
    have hpart : Deletes name (before ++ [c] ++ part) t occurrences u := by
      rwa [List.append_assoc, List.singleton_append]
    exact keep c (ih hpart)

/-- Where nothing is deleted nothing changes. -/
theorem refl (name before t : Text) : Deletes name before t [] t := by
  have hnil : Deletes name (before ++ t) [] [] [] := .nil (before ++ t)
  have h := keep_append t hnil
  rwa [List.append_nil] at h

/-- **What is deleted is a part of the text.** -/
theorem eq_append_of_mem (h : Deletes name before t occurrences u)
    (hmem : occurrence ∈ occurrences) :
    before ++ t = occurrence.before ++ (occurrence.found ++ occurrence.after) := by
  induction h with
  | nil before => cases hmem
  | keep c rest ih =>
    rw [← ih hmem, List.append_assoc, List.singleton_append]
  | @delete before found t u occurrences isName rest ih =>
    rcases List.mem_cons.1 hmem with rfl | hrest
    · rfl
    · rw [← ih hrest, List.append_assoc]

/-- A character beside a deleted occurrence stands in the text. -/
theorem mem_of_isBeside {c : Char} (h : Deletes name [] t occurrences u)
    (hmem : occurrence ∈ occurrences) (hc : occurrence.IsBeside c) : c ∈ t := by
  have ht : t = occurrence.before ++ (occurrence.found ++ occurrence.after) :=
    h.eq_append_of_mem hmem
  rw [ht, List.mem_append, List.mem_append]
  rcases hc with hbefore | hafter
  · exact .inl (List.mem_of_getLast? hbefore)
  · exact .inr (.inr (List.mem_of_head? hafter))

end Deletes

/-- **The removal deletes occurrences between certain characters**: what it leaves of the text is
left when occurrences go that have only such characters, or an end of the text, beside them. -/
def RemovesBetween (edge : Char → Prop) (name t : Text) : Prop :=
  ∃ occurrences, Deletes name [] t occurrences (removeName name t) ∧
    ∀ occurrence ∈ occurrences, ∀ c, occurrence.IsBeside c → edge c

/-- **Only whole words go**: no letter of any script stands beside what the removal deletes. -/
def RemovesWholeWords (name t : Text) : Prop := RemovesBetween (fun c => isLetter c = false) name t

/-! ## Delimiters -/

/-- The delimiter that closes an occurrence, if it is not closed by the end of the text, is all that
stands behind it. -/
theorem isDelimiter_of_head? {c : Char} {close after : Text}
    (hclose : close = [] ∧ after = [] ∨ ∃ d, close = [d] ∧ isDelimiter d = true)
    (h : (close ++ after).head? = some c) : isDelimiter c = true := by
  rcases hclose with ⟨rfl, rfl⟩ | ⟨d, rfl, hd⟩
  · cases h
  · rw [List.singleton_append, List.head?_cons, Option.some.injEq] at h
    rwa [← h]

/-- **Inside a text** an occurrence goes that stands behind a delimiter and is closed. -/
theorem deletes_removeInnerNames (name before t : Text) :
    ∃ occurrences, Deletes name before t occurrences (removeInnerNames name t) ∧
      ∀ occurrence ∈ occurrences, ∀ c, occurrence.IsBeside c → isDelimiter c = true := by
  induction t using removeInnerNames_induction name generalizing before with
  | nil =>
    rw [removeInnerNames_nil]
    exact ⟨[], .nil before, List.forall_mem_nil _⟩
  | removed c rest close after hc hs heq ih =>
    obtain ⟨found, rfl, hfound, hclose⟩ := stripClosedName?_eq_some_iff.1 hs
    obtain ⟨occurrences, hdeletes, hedges⟩ := ih (before ++ [c] ++ found ++ close)
    rw [heq]
    refine ⟨_, .keep c (.delete hfound (hdeletes.keep_append close)), ?_⟩
    intro occurrence hmem d hd
    rcases List.mem_cons.1 hmem with rfl | hmem
    · rcases hd with hbefore | hafter
      · rw [List.getLast?_concat, Option.some.injEq] at hbefore
        rwa [← hbefore]
      · exact isDelimiter_of_head? hclose hafter
    · exact hedges occurrence hmem d hd
  | kept c rest heq ih =>
    obtain ⟨occurrences, hdeletes, hedges⟩ := ih (before ++ [c])
    rw [heq]
    exact ⟨occurrences, .keep c hdeletes, hedges⟩

/-- **What the removal deletes stands between delimiters.** -/
theorem deletes_removeName (name t : Text) :
    RemovesBetween (fun c => isDelimiter c = true) name t := by
  rw [RemovesBetween, removeName]
  split
  · exact ⟨[], .refl name [] t, List.forall_mem_nil _⟩
  · split
    · next close after hs =>
      obtain ⟨found, rfl, hfound, hclose⟩ := stripClosedName?_eq_some_iff.1 hs
      obtain ⟨occurrences, hdeletes, hedges⟩ := deletes_removeInnerNames name (found ++ close) after
      refine ⟨_, .delete hfound (hdeletes.keep_append close), ?_⟩
      intro occurrence hmem d hd
      rcases List.mem_cons.1 hmem with rfl | hmem
      · -- nothing stands before an occurrence at the start of the text
        rcases hd with hbefore | hafter
        · cases hbefore
        · exact isDelimiter_of_head? hclose hafter
      · exact hedges occurrence hmem d hd
    · exact deletes_removeInnerNames name [] t

/-! ## Letters -/

/-- **Whole words go** from a text whose letters are all letters a to z up to case. -/
theorem removesWholeWords_of_letters {name t : Text}
    (h : ∀ c ∈ t, isLetter c = true → isFoldedLetter c = true) :
    RemovesWholeWords name t := by
  obtain ⟨occurrences, hdeletes, hedges⟩ := deletes_removeName name t
  refine ⟨occurrences, hdeletes, fun occurrence hmem c hc => ?_⟩
  have hdelimiter : isFoldedLetter c = false := by
    simpa [isDelimiter] using hedges occurrence hmem c hc
  by_contra hletter
  have hfolded := h c (hdeletes.mem_of_isBeside hmem hc) (by simpa using hletter)
  rw [hdelimiter] at hfolded
  cases hfolded

/-- What is left of a character and a name behind it is one character, if the character is a
delimiter. -/
theorem length_removeName_cons {c : Char} {name : Text} (hname : name ≠ [])
    (hc : isDelimiter c = true) : (removeName name (c :: name)).length = 1 := by
  have hempty : name.isEmpty = false := by simpa using hname
  rw [removeName, hempty]
  cases hs : stripClosedName? name (c :: name) with
  | none =>
    have hinner : stripClosedName? name name = some ([], []) :=
      stripClosedName?_eq_some_iff.2 ⟨name, by simp, rfl, .inl ⟨rfl, rfl⟩⟩
    simp [removeInnerNames_of_some hc hinner]
  | some parts =>
    -- the name may also stand one character earlier, as in a row of the same character
    obtain ⟨close, after⟩ := parts
    obtain ⟨found, ht, hfound, hclose⟩ := stripClosedName?_eq_some_iff.1 hs
    have hlength := congrArg List.length ht
    have hfoundLength := congrArg List.length hfound
    simp only [List.length_cons, List.length_append, List.length_map] at hlength hfoundLength
    rcases hclose with ⟨rfl, rfl⟩ | ⟨d, rfl, -⟩
    · simp only [List.length_nil] at hlength
      omega
    · have hafter : after = [] := by
        rw [← List.length_eq_zero_iff]
        simp only [List.length_singleton] at hlength
        omega
      simp [hafter]

/-- **A letter is cut off the name behind it** if it is a delimiter: what is left is one character,
so all that can have gone is the name, right beside that letter or right before its own last one. -/
theorem not_removesWholeWords_cons {c : Char} {name : Text} (hname : name ≠ [])
    (hletters : ∀ d ∈ name, isLetter d = true) (hletter : isLetter c = true)
    (hc : isFoldedLetter c = false) :
    ¬ RemovesWholeWords name (c :: name) := by
  rintro ⟨occurrences, hdeletes, hedges⟩
  have hleft : (removeName name (c :: name)).length = 1 :=
    length_removeName_cons hname (by simp [isDelimiter, hc])
  generalize removeName name (c :: name) = u at hdeletes hleft
  generalize ht : c :: name = t at hdeletes
  cases hdeletes with
  | nil => cases ht
  | @keep _ t u _ d rest =>
    obtain ⟨rfl, rfl⟩ := List.cons.inj ht
    obtain rfl : u = [] := by simpa using hleft
    generalize hsame : name = t at rest
    cases rest with
    | nil => exact hname hsame
    | @delete _ found t _ _ isName rest =>
      have hbeside : isLetter c = false := hedges _ (List.mem_cons_self ..) c (.inl rfl)
      rw [hletter] at hbeside
      cases hbeside
  | @delete _ found t _ _ isName rest =>
    have hlength := congrArg List.length ht
    have hfoundLength := congrArg List.length isName
    simp only [List.length_cons, List.length_append, List.length_map] at hlength hfoundLength
    obtain ⟨d, rfl⟩ := List.length_eq_one_iff.1 (show t.length = 1 by omega)
    -- the character that is left is the last one of the name
    have hlast : (c :: name).getLast? = some d := by rw [ht, List.getLast?_concat]
    have hd : d ∈ name := by
      obtain ⟨e, rest, rfl⟩ := List.exists_cons_of_ne_nil hname
      rw [List.getLast?_cons_cons] at hlast
      exact List.mem_of_getLast? hlast
    have hbeside : isLetter d = false := hedges _ (List.mem_cons_self ..) d (.inr rfl)
    rw [hletters d hd] at hbeside
    cases hbeside

/-! ## Texts without cut words -/

/-- **Which texts are safe.** What the removal of a name deletes from a text stands between
delimiters. So only whole words go, from all texts over an alphabet, exactly if all letters of the
alphabet are letters a to z up to case. -/
theorem removesWholeWords_iff {name : Text} {alphabet : Char → Prop} (hname : name ≠ [])
    (hletters : ∀ c ∈ name, isLetter c = true) (halphabet : ∀ c ∈ name, alphabet c) :
    (∀ t, RemovesBetween (fun c => isFoldedLetter c = false) name t) ∧
    ((∀ t : Text, (∀ c ∈ t, alphabet c) → RemovesWholeWords name t) ↔
      ∀ c, alphabet c → isLetter c = true → isFoldedLetter c = true) := by
  refine ⟨fun t => by simpa [isDelimiter] using deletes_removeName name t, ?_, ?_⟩
  · intro hsafe c hc hletter
    by_contra hfolded
    have htext : ∀ d ∈ c :: name, alphabet d := List.forall_mem_cons.2 ⟨hc, halphabet⟩
    exact not_removesWholeWords_cons hname hletters hletter (by simpa using hfolded)
      (hsafe (c :: name) htext)
  · intro h t ht
    exact removesWholeWords_of_letters fun c hc => h c (ht c hc)

/-- The text has letters a to z only, though it is not ASCII: every "brew" in it goes as a word. -/
theorem removesWholeWords_iff_brew :
    "brew".toList.all isLetter = true ∧
    "A brew «brew» kit".toList.all
      (fun c => !isLetter c || isFoldedLetter c) = true ∧
    RemovesWholeWords "brew".toList "A brew «brew» kit".toList := by
  have hletters : "brew".toList.all isLetter = true := by decide
  have halphabet : "A brew «brew» kit".toList.all
      (fun c => !isLetter c || isFoldedLetter c) = true := by decide
  have hin : ∀ c ∈ "brew".toList, c ∈ "A brew «brew» kit".toList := by
    have hall : "brew".toList.all ("A brew «brew» kit".toList.contains ·) = true := by
      decide
    exact fun c hc => List.contains_iff_mem.1 (List.all_eq_true.1 hall c hc)
  obtain ⟨-, hwords⟩ := removesWholeWords_iff (by decide) (List.all_eq_true.1 hletters) hin
  refine ⟨hletters, halphabet, hwords.2 (fun c hc hletter => ?_) _ fun c hc => hc⟩
  simpa [hletter] using List.all_eq_true.1 halphabet c hc

/-- **A word is cut in two** where the name stands behind a letter with an accent. -/
theorem not_forall_removesWholeWords :
    ¬ ∀ name t : Text, name ≠ [] → (∀ c ∈ name, isLetter c = true) → RemovesWholeWords name t := by
  intro h
  have hletters : "tat".toList.all isLetter = true := by decide
  have hcut : ¬ RemovesWholeWords "tat".toList "État".toList :=
    not_removesWholeWords_cons (by decide) (List.all_eq_true.1 hletters) (by decide) (by decide)
  exact hcut (h _ _ (by decide) (List.all_eq_true.1 hletters))

end Blurb.Phrase
