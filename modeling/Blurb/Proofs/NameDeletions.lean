import Blurb.Proofs.Cuts
import Blurb.Proofs.OverlongDescriptions
import Blurb.Proofs.WholeWords

/-! # What goes with a name

Removing a name deletes occurrences of it and nothing else, and it finds one to delete wherever one
stands between characters that are no basic letters. An occurrence at the start of a text goes like
one behind a space, so all is shown for the inside of texts.

* `removeInnerNames_cons_delimiter` — the start of a text is as good as a delimiter.
* `length_removeName_lt_iff` — a text gets shorter exactly if the name stands alone in it.
* `commandLines_removeName` — each "command line" that is left was there before.
* `removeName_deletes` — the removal as a whole. -/

namespace Blurb.Phrase

open Text

variable {name t : Text}

/-! ## Delimiters -/

/-- **The letters that make a name a part of a word**: A to Z and a to z, with the long s and the
Kelvin sign, which are an s and a k up to case. -/
def IsBasicLetter (c : Char) : Prop :=
  'A' ≤ c ∧ c ≤ 'Z' ∨ 'a' ≤ c ∧ c ≤ 'z' ∨ c = 'ſ' ∨ c = '\u212a'

/-- The delimiters are all other characters. -/
theorem isDelimiter_iff {c : Char} : isDelimiter c = true ↔ ¬ IsBasicLetter c := by
  have heq : ∀ d : Char, c = d ↔ c.toNat = d.toNat := fun d =>
    ⟨congrArg Char.toNat, fun h => by rw [← Char.ofNat_toNat c, h, Char.ofNat_toNat]⟩
  rw [isDelimiter, Bool.not_eq_true', ← Bool.not_eq_true, isFoldedLetter_iff, IsBasicLetter,
    heq, heq]
  simp only [Char.le_def, UInt32.le_iff_toNat_le]
  rfl

/-- **The text that an occurrence stands in.** -/
def Occurrence.text (occurrence : Occurrence) : Text :=
  occurrence.before ++ occurrence.found ++ occurrence.after

/-- **The name stands in a text between certain characters**: it occurs there, up to case, and has
only such characters, or an end of the text, beside it. -/
def HoldsBetween (edge : Char → Prop) (name t : Text) : Prop :=
  ∃ occurrence : Occurrence, occurrence.text = t ∧
    occurrence.found.map fold = name.map fold ∧ ∀ c, occurrence.IsBeside c → edge c

/-- A name stands alone where it stands between characters that are no basic letters. -/
theorem standsAlone_iff : StandsAlone name t ↔
    name ≠ [] ∧ HoldsBetween (fun c => ¬ IsBasicLetter c) name t := by
  refine and_congr_right fun _ => ⟨?_, ?_⟩
  · rintro ⟨before, found, after, rfl, hfound, hopen, hclosed⟩
    refine ⟨⟨before, found, after⟩, rfl, hfound, fun c hc => ?_⟩
    rcases hc with hbefore | hafter
    · exact isDelimiter_iff.1 (hopen c hbefore)
    · exact isDelimiter_iff.1 (hclosed c hafter)
  · rintro ⟨⟨before, found, after⟩, rfl, hfound, hedges⟩
    exact ⟨before, found, after, rfl, hfound, fun c hc => isDelimiter_iff.2 (hedges c (.inl hc)),
      fun c hc => isDelimiter_iff.2 (hedges c (.inr hc))⟩

/-! ## The start of a text -/

/-- **The start of a text is as good as a delimiter**: behind a delimiter a text loses what it loses
on its own. -/
theorem removeInnerNames_cons_delimiter {d : Char} (hname : name ≠ []) (hd : isDelimiter d = true)
    (t : Text) : removeInnerNames name (d :: t) = d :: removeName name t := by
  rw [removeName, if_neg (by simpa using hname)]
  cases hs : stripClosedName? name t with
  | none => rw [removeInnerNames_of_none fun _ => hs]
  | some parts => rw [removeInnerNames_of_some hd hs, List.cons_append]

/-! ## Places behind delimiters -/

/-- **Behind a delimiter of a text** it goes on with a certain property. -/
def HasBehindDelimiter (p : Text → Prop) (t : Text) : Prop :=
  ∃ before c rest, t = before ++ c :: rest ∧ isDelimiter c = true ∧ p rest

/-- A text starts with the name, which has a delimiter or nothing behind it. -/
def StartsWithName (name t : Text) : Prop :=
  ∃ found after, t = found ++ after ∧ found.map fold = name.map fold ∧
    ∀ c ∈ after.head?, isDelimiter c = true

namespace HasBehindDelimiter

variable {p : Text → Prop} {c : Char}

theorem not_nil : ¬ HasBehindDelimiter p [] := by
  rintro ⟨before, c, rest, h, -⟩
  simp at h

theorem cons_iff :
    HasBehindDelimiter p (c :: t) ↔ isDelimiter c = true ∧ p t ∨ HasBehindDelimiter p t := by
  constructor
  · rintro ⟨before, d, rest, ht, hd, hrest⟩
    cases before with
    | nil =>
      obtain ⟨rfl, rfl⟩ := List.cons.inj ht
      exact .inl ⟨hd, hrest⟩
    | cons b before =>
      obtain ⟨rfl, rfl⟩ := List.cons.inj ht
      exact .inr ⟨before, d, rest, rfl, hd, hrest⟩
  · rintro (⟨hc, ht⟩ | ⟨before, d, rest, rfl, hd, hrest⟩)
    · exact ⟨[], c, t, rfl, hc, ht⟩
    · exact ⟨c :: before, d, rest, rfl, hd, hrest⟩

/-- With a delimiter put before a text its start is a place like any other. -/
theorem cons_delimiter_iff (hc : isDelimiter c = true) :
    HasBehindDelimiter p (c :: t) ↔
      ∃ before rest, t = before ++ rest ∧ (∀ d ∈ before.getLast?, isDelimiter d = true) ∧
        p rest := by
  rw [cons_iff]
  constructor
  · rintro (⟨-, ht⟩ | ⟨before, d, rest, rfl, hd, hrest⟩)
    · exact ⟨[], t, rfl, by simp, ht⟩
    · exact ⟨before ++ [d], rest, by simp, by simpa using hd, hrest⟩
  · rintro ⟨before, rest, rfl, hopen, hrest⟩
    rcases List.eq_nil_or_concat before with rfl | ⟨before, d, rfl⟩
    · exact .inl ⟨hc, hrest⟩
    · exact .inr ⟨before, d, rest, by simp, hopen d (by simp), hrest⟩

/-- What is put before a text leaves its places as they are. -/
theorem append (before : Text) (h : HasBehindDelimiter p t) :
    HasBehindDelimiter p (before ++ t) := by
  obtain ⟨earlier, c, rest, rfl, hrest⟩ := h
  exact ⟨before ++ earlier, c, rest, by rw [List.append_assoc], hrest⟩

/-- Letters before a text bring no place behind a delimiter. -/
theorem of_append {word : Text} (hword : ∀ x ∈ word, isDelimiter x = false)
    (h : HasBehindDelimiter p (word ++ t)) : HasBehindDelimiter p t := by
  induction word with
  | nil => exact h
  | cons c word ih =>
    rw [List.forall_mem_cons] at hword
    rcases cons_iff.1 h with ⟨hc, -⟩ | hrest
    · rw [hword.1] at hc
      cases hc
    · exact ih hword.2 hrest

end HasBehindDelimiter

/-- **A name stands alone** in a text exactly if it stands behind a delimiter of the text with a
space before it. -/
theorem standsAlone_iff_hasBehindDelimiter :
    StandsAlone name t ↔ name ≠ [] ∧ HasBehindDelimiter (StartsWithName name) (' ' :: t) := by
  rw [HasBehindDelimiter.cons_delimiter_iff (by decide)]
  refine and_congr_right fun _ => ⟨?_, ?_⟩
  · rintro ⟨before, found, after, rfl, hfound, hopen, hclosed⟩
    exact ⟨before, found ++ after, List.append_assoc .., hopen, found, after, rfl, hfound, hclosed⟩
  · rintro ⟨before, -, rfl, hopen, found, after, rfl, hfound, hclosed⟩
    exact ⟨before, found, after, (List.append_assoc ..).symm, hfound, hopen, hclosed⟩

/-- What starts with the name, closed, is what an occurrence is taken off. -/
theorem startsWithName_iff :
    StartsWithName name t ↔ ∃ close after, stripClosedName? name t = some (close, after) := by
  constructor
  · rintro ⟨found, after, rfl, hfound, hclosed⟩
    cases after with
    | nil =>
      exact ⟨[], [], stripClosedName?_eq_some_iff.2 ⟨found, rfl, hfound, .inl ⟨rfl, rfl⟩⟩⟩
    | cons d rest =>
      exact ⟨[d], rest,
        stripClosedName?_eq_some_iff.2 ⟨found, rfl, hfound, .inr ⟨d, rfl, hclosed d rfl⟩⟩⟩
  · rintro ⟨close, after, hs⟩
    obtain ⟨found, ht, hfound, hclosed⟩ := exists_closed_of_stripClosedName? hs
    exact ⟨found, close ++ after, ht, hfound, hclosed⟩

theorem not_startsWithName (h : stripClosedName? name t = none) : ¬ StartsWithName name t := by
  intro hstarts
  obtain ⟨close, after, hs⟩ := startsWithName_iff.1 hstarts
  rw [h] at hs
  cases hs

/-! ## Texts get shorter -/

/-- What is left of a text with an occurrence at its start is shorter. -/
theorem length_of_stripClosedName?_lt {close after : Text} (hname : name ≠ [])
    (h : stripClosedName? name t = some (close, after)) :
    (close ++ removeInnerNames name after).length < t.length := by
  have hafter : (removeInnerNames name after).length ≤ after.length := by
    have hcut : Cut (fun _ => true) (fun _ => true) false after (removeInnerNames name after) :=
      cut_removeInnerNames hname (fun _ _ => rfl) (fun _ _ => rfl) after
    exact hcut.sublist.length_le
  obtain ⟨found, rfl, hfound, -⟩ := stripClosedName?_eq_some_iff.1 h
  have hlength := congrArg List.length hfound
  have hpos := List.length_pos_iff.2 hname
  simp only [List.length_map, List.length_append] at hlength ⊢
  omega

/-- **A text with an occurrence inside gets shorter**: that one goes, or one that overlaps it. -/
theorem length_removeInnerNames_lt (hname : name ≠ [])
    (h : HasBehindDelimiter (StartsWithName name) t) :
    (removeInnerNames name t).length < t.length := by
  induction t using removeInnerNames_induction name with
  | nil => exact absurd h HasBehindDelimiter.not_nil
  | removed b rest close last hb hs heq ih =>
    rw [heq, List.cons_append, List.length_cons, List.length_cons]
    exact Nat.succ_lt_succ (length_of_stripClosedName?_lt hname hs)
  | kept b rest heq ih =>
    rcases HasBehindDelimiter.cons_iff.1 h with ⟨hb, hstarts⟩ | hrest
    · -- the occurrence is the first thing behind its delimiter, and so it does go
      obtain ⟨close, last, hs⟩ := startsWithName_iff.1 hstarts
      rw [removeInnerNames_of_some hb hs, List.cons_append, List.length_cons, List.length_cons]
      exact Nat.succ_lt_succ (length_of_stripClosedName?_lt hname hs)
    · rw [heq, List.length_cons, List.length_cons]
      exact Nat.succ_lt_succ (ih hrest)

/-- **A text gets shorter exactly if the name stands alone in it.** -/
theorem length_removeName_lt_iff : (removeName name t).length < t.length ↔ StandsAlone name t := by
  constructor
  · intro h
    by_contra hnot
    rw [removeName_eq_self hnot] at h
    exact Nat.lt_irrefl _ h
  · intro h
    obtain ⟨hname, hbehind⟩ := standsAlone_iff_hasBehindDelimiter.1 h
    have hlt := length_removeInnerNames_lt hname hbehind
    rw [removeInnerNames_cons_delimiter hname (by decide), List.length_cons,
      List.length_cons] at hlt
    exact Nat.lt_of_succ_lt_succ hlt

/-- A text stays as it is exactly if the name does not stand alone in it. -/
theorem removeName_eq_self_iff : removeName name t = t ↔ ¬ StandsAlone name t := by
  refine ⟨fun heq h => ?_, removeName_eq_self⟩
  have hlt := length_removeName_lt_iff.2 h
  rw [heq] at hlt
  exact Nat.lt_irrefl _ hlt

/-! ## The words "command line" -/

/-- **All parts of a text that want a hyphen**, from left to right. -/
def commandLines : Text → List Text
  | [] => []
  | c :: rest =>
    match stripCommandLine? (c :: rest) with
    | some (found, _) => found :: commandLines rest
    | none => commandLines rest

theorem commandLines_of_some {c : Char} {rest found after : Text}
    (h : stripCommandLine? (c :: rest) = some (found, after)) :
    commandLines (c :: rest) = found :: commandLines rest := by
  rw [commandLines, h]

theorem commandLines_of_none {c : Char} {rest : Text} (h : stripCommandLine? (c :: rest) = none) :
    commandLines (c :: rest) = commandLines rest := by
  rw [commandLines, h]

/-- A text has all the parts that want a hyphen which its ends have. -/
theorem commandLines_append_sublist (before after : Text) :
    (commandLines after).Sublist (commandLines (before ++ after)) := by
  induction before with
  | nil => exact List.Sublist.refl _
  | cons c before ih =>
    rw [List.cons_append]
    cases hs : stripCommandLine? (c :: (before ++ after)) with
    | none => rwa [commandLines_of_none hs]
    | some parts =>
      rw [commandLines_of_some hs]
      exact ih.cons parts.1

/-- No such part starts at a delimiter. -/
theorem stripCommandLine?_of_isDelimiter {d : Char} (hd : isDelimiter d = true) (rest : Text) :
    stripCommandLine? (d :: rest) = none := by
  rw [Option.eq_none_iff_forall_ne_some]
  rintro ⟨found, after⟩ hs
  obtain ⟨heq, hfound⟩ := stripCommandLine?_eq_some_iff.1 hs
  obtain ⟨c, tail, rfl, hc, -⟩ := hfound.eq_cons
  rw [List.cons_append, List.cons.injEq] at heq
  rw [heq.1, isDelimiter, isFoldedLetter, hc] at hd
  exact absurd hd (by decide)

theorem commandLines_cons_delimiter {d : Char} (hd : isDelimiter d = true) (rest : Text) :
    commandLines (d :: rest) = commandLines rest :=
  commandLines_of_none (stripCommandLine?_of_isDelimiter hd rest)

/-- A text is listed without the delimiter that closes an occurrence at its start. -/
theorem commandLines_close_append {close after : Text}
    (hclose : close = [] ∧ after = [] ∨ ∃ d, close = [d] ∧ isDelimiter d = true) (rest : Text) :
    commandLines (close ++ rest) = commandLines rest := by
  rcases hclose with ⟨rfl, -⟩ | ⟨d, rfl, hd⟩
  · rfl
  · exact commandLines_cons_delimiter hd rest

theorem commandLines_removeInnerNames (name t : Text) :
    (commandLines (removeInnerNames name t)).Sublist (commandLines t) := by
  induction t using removeInnerNames_induction name with
  | nil => rw [removeInnerNames_nil]
  | removed c rest close after hc hs heq ih =>
    obtain ⟨found, rfl, -, hclose⟩ := stripClosedName?_eq_some_iff.1 hs
    rw [heq, List.cons_append, commandLines_cons_delimiter hc, commandLines_cons_delimiter hc,
      commandLines_close_append hclose]
    rw [← List.append_assoc]
    exact ih.trans (commandLines_append_sublist (found ++ close) after)
  | kept c rest heq ih =>
    rw [heq]
    cases hs : stripCommandLine? (c :: removeInnerNames name rest) with
    | none =>
      rw [commandLines_of_none hs]
      exact ih.trans (commandLines_append_sublist [c] rest)
    | some parts =>
      obtain ⟨found, after⟩ := parts
      obtain ⟨happ, hfound⟩ := stripCommandLine?_eq_some_iff.1 hs
      obtain ⟨d, tail, rfl, -, -⟩ := hfound.eq_cons
      rw [List.cons_append, List.cons.injEq] at happ
      obtain ⟨rfl, happ⟩ := happ
      -- behind its letter c the part is joined, and so it was there before the removal
      obtain ⟨last, hlast⟩ := hfound.isJoined.2.prefix_of_removeInnerNames
        (show tail <+: removeInnerNames name rest from ⟨after, happ.symm⟩)
      have hbefore : stripCommandLine? (c :: rest) = some (c :: tail, last) :=
        stripCommandLine?_eq_some_iff.2 ⟨by rw [← hlast, List.cons_append], hfound⟩
      rw [commandLines_of_some hs, commandLines_of_some hbefore]
      exact ih.cons_cons (c :: tail)

/-- **Each "command line" that is left was there before**, in the same order. -/
theorem commandLines_removeName (name t : Text) :
    (commandLines (removeName name t)).Sublist (commandLines t) := by
  by_cases hname : name = []
  · rw [hname, removeName_nil_name]
  · have hspace : isDelimiter ' ' = true := by decide
    have h := commandLines_removeInnerNames name (' ' :: t)
    rwa [removeInnerNames_cons_delimiter hname hspace, commandLines_cons_delimiter hspace,
      commandLines_cons_delimiter hspace] at h

/-! ## The removal as a whole -/

/-- **What the removal of a name does to a text.** What goes are occurrences of the name that have
no basic letter beside them, and all else stays in its order. Something goes exactly if there is
such an occurrence. No new "command line" arises: the parts that want a hyphen are some of those
that were there before. -/
theorem removeName_deletes {name : Text} (hname : name ≠ []) (t : Text) :
    RemovesBetween (fun c => ¬ IsBasicLetter c) name t ∧
    (HoldsBetween (fun c => ¬ IsBasicLetter c) name t → (removeName name t).length < t.length) ∧
    (¬ HoldsBetween (fun c => ¬ IsBasicLetter c) name t → removeName name t = t) ∧
    (commandLines (removeName name t)).Sublist (commandLines t) := by
  refine ⟨?_, fun h => ?_, fun h => ?_, commandLines_removeName name t⟩
  · obtain ⟨occurrences, hdeletes, hedges⟩ := deletes_removeName name t
    exact ⟨occurrences, hdeletes, fun occurrence hmem c hc =>
      isDelimiter_iff.1 (hedges occurrence hmem c hc)⟩
  · exact length_removeName_lt_iff.2 (standsAlone_iff.2 ⟨hname, h⟩)
  · exact removeName_eq_self fun hstands => h (standsAlone_iff.1 hstands).2

/-- The characters of a name have no meaning but their own, and its last ones may be delimiters. -/
theorem removeName_deletes_plusPlus :
    "c++".toList ≠ [] ∧
    HoldsBetween (fun c => ¬ IsBasicLetter c) "c++".toList "Kit for C++.".toList ∧
    removeName "c++".toList "Kit for C++.".toList = "Kit for .".toList ∧
    (removeName "c++".toList "Kit for C++.".toList).length < "Kit for C++.".toList.length := by
  have hname : "c++".toList ≠ [] := by decide
  have hheld : HoldsBetween (fun c => ¬ IsBasicLetter c) "c++".toList "Kit for C++.".toList := by
    refine ⟨⟨"Kit for ".toList, "C++".toList, ".".toList⟩, by decide, by decide, fun c hc => ?_⟩
    rcases hc with hbefore | hafter
    · obtain rfl := Option.some.inj hbefore
      exact isDelimiter_iff.1 (by decide)
    · obtain rfl := Option.some.inj hafter
      exact isDelimiter_iff.1 (by decide)
  obtain ⟨-, hshorter, -⟩ := removeName_deletes hname "Kit for C++.".toList
  exact ⟨hname, hheld, by decide +kernel, hshorter hheld⟩

end Blurb.Phrase
