import Blurb.Proofs.KeptLetters
import Blurb.Proofs.OverlongDescriptions
import Blurb.Proofs.PathSegments
import Blurb.Proofs.WholeWords
import Mathlib.Data.List.Forall2

/-! # Stretches between backslashes

A text is cut at its backslashes into pieces; a stretch is a piece that stands behind one. No step
takes a backslash unless the name of the item has one, so what a step does to a text it does piece
by piece: cuts at the end of the text concern the last piece alone, those at its start no stretch at
all, and an occurrence of the name lies within one piece.

* `Text.stretches` — what stands behind each backslash, up to the next one.
* `Text.forall₂_splitOn_end` — the pieces of a text whose end is cut off.
* `Text.core`, `Phrase.MayStandIn` — where a name can stand, now or later.
* `Phrase.core_hyphenate` — hyphenation gives a name no new place to stand.
* `Phrase.forall₂_splitOn_removeName` — the pieces of a text that a name goes from. -/

namespace Blurb

open Text Phrase

namespace Text

/-! ## Pieces side by side -/

section Pieces

variable {separator : Char} {R : Text → Text → Prop} {t u : Text}

/-- What stands before a text, without a separator, stands before its first piece. -/
theorem exists_splitOn_append {part : Text} (hpart : separator ∉ part) (t : Text) :
    ∃ piece pieces, splitOn separator t = piece :: pieces ∧
      splitOn separator (part ++ t) = (part ++ piece) :: pieces := by
  obtain ⟨piece, pieces, hpieces⟩ := List.exists_cons_of_ne_nil (splitOn_ne_nil separator t)
  refine ⟨piece, pieces, hpieces, ?_⟩
  induction part with
  | nil => exact hpieces
  | cons c part ih =>
    rw [List.mem_cons, not_or] at hpart
    rw [List.cons_append, splitOn, if_neg (Ne.symm hpart.1), ih hpart.2]
    rfl

theorem forall₂_splitOn_append {part other : Text} (hpart : separator ∉ part)
    (hother : separator ∉ other)
    (hR : ∀ piece piece', R piece piece' → R (part ++ piece) (other ++ piece'))
    (h : List.Forall₂ R (splitOn separator t) (splitOn separator u)) :
    List.Forall₂ R (splitOn separator (part ++ t)) (splitOn separator (other ++ u)) := by
  obtain ⟨piece, pieces, ht, hpt⟩ := exists_splitOn_append hpart t
  obtain ⟨piece', pieces', hu, hpu⟩ := exists_splitOn_append hother u
  rw [ht, hu, List.forall₂_cons] at h
  rw [hpt, hpu, List.forall₂_cons]
  exact ⟨hR _ _ h.1, h.2⟩

/-- A character before both texts stands before both first pieces, or cuts them both. -/
theorem forall₂_splitOn_cons (hnil : R [] [])
    (hcons : ∀ c piece piece', R piece piece' → R (c :: piece) (c :: piece')) (c : Char)
    (h : List.Forall₂ R (splitOn separator t) (splitOn separator u)) :
    List.Forall₂ R (splitOn separator (c :: t)) (splitOn separator (c :: u)) := by
  by_cases hc : c = separator
  · rw [splitOn, splitOn, if_pos hc, if_pos hc]
    exact .cons hnil h
  · have hfree : separator ∉ [c] := by simpa using Ne.symm hc
    exact forall₂_splitOn_append hfree hfree (fun piece piece' => hcons c piece piece') h

/-- **What is cut off the end of a text** is cut off its last piece. -/
theorem forall₂_splitOn_end {part : Text} (hpart : separator ∉ part) (t : Text) :
    List.Forall₂ (fun piece piece' => piece = piece' ∨ piece = piece' ++ part)
      (splitOn separator (t ++ part)) (splitOn separator t) := by
  induction t with
  | nil =>
    rw [List.nil_append, splitOn_of_notMem hpart, splitOn]
    exact .cons (.inr rfl) .nil
  | cons c t ih =>
    refine forall₂_splitOn_cons (.inl rfl) (fun d piece piece' h => ?_) c ih
    exact h.imp (congrArg (d :: ·)) (congrArg (d :: ·))

/-- Pieces with separators between them are cut apart again. -/
theorem splitOn_append_flatMap {piece : Text} {pieces : List Text}
    (h : ∀ part ∈ piece :: pieces, separator ∉ part) :
    splitOn separator (piece ++ pieces.flatMap (separator :: ·)) = piece :: pieces := by
  induction pieces generalizing piece with
  | nil =>
    rw [List.flatMap_nil, List.append_nil]
    exact splitOn_of_notMem (h piece (List.mem_singleton_self _))
  | cons next pieces ih =>
    rw [List.forall_mem_cons] at h
    rw [List.flatMap_cons, List.cons_append, splitOn_append_cons, splitOn_of_notMem h.1, ih h.2,
      List.singleton_append]

end Pieces

/-! ## Stretches -/

/-- **The stretches of a text**: what stands behind each of its backslashes, up to the next one or
the end of the text. -/
def stretches (t : Text) : List Text := (splitOn '\\' t).tail

variable {t u : Text}

/-- What stands before a text, without a backslash, changes no stretch. -/
theorem stretches_append {part : Text} (hpart : '\\' ∉ part) (t : Text) :
    stretches (part ++ t) = stretches t := by
  obtain ⟨piece, pieces, ht, hpt⟩ := exists_splitOn_append hpart t
  rw [stretches, stretches, ht, hpt, List.tail_cons, List.tail_cons]

theorem forall₂_stretches {R : Text → Text → Prop}
    (h : List.Forall₂ R (splitOn '\\' t) (splitOn '\\' u)) :
    List.Forall₂ R (stretches t) (stretches u) := by
  obtain ⟨piece, pieces, ht⟩ := List.exists_cons_of_ne_nil (splitOn_ne_nil '\\' t)
  obtain ⟨piece', pieces', hu⟩ := List.exists_cons_of_ne_nil (splitOn_ne_nil '\\' u)
  rw [ht, hu, List.forall₂_cons] at h
  rw [stretches, stretches, ht, hu, List.tail_cons, List.tail_cons]
  exact h.2

theorem backslash_notMem_of_mem_stretches {stretch : Text} (h : stretch ∈ stretches t) :
    '\\' ∉ stretch :=
  notMem_of_mem_splitOn (List.mem_of_mem_tail h)

/-- A text is what stands before its first backslash, and its stretches behind theirs. -/
theorem exists_eq_append_stretches (t : Text) :
    ∃ first, '\\' ∉ first ∧ t = first ++ (stretches t).flatMap ('\\' :: ·) := by
  induction t with
  | nil => exact ⟨[], List.not_mem_nil, rfl⟩
  | cons c t ih =>
    obtain ⟨first, hfirst, heq⟩ := ih
    by_cases hc : c = '\\'
    · subst hc
      refine ⟨[], List.not_mem_nil, ?_⟩
      have hpieces : splitOn '\\' t = first :: stretches t := by
        have hfree : ∀ part ∈ first :: stretches t, '\\' ∉ part :=
          List.forall_mem_cons.2 ⟨hfirst, fun _ => backslash_notMem_of_mem_stretches⟩
        conv_lhs => rw [heq]
        exact splitOn_append_flatMap hfree
      rw [List.nil_append, stretches, splitOn, if_pos rfl, List.tail_cons, hpieces,
        List.flatMap_cons, List.cons_append, ← heq]
    · have hfree : '\\' ∉ [c] := by simpa using Ne.symm hc
      refine ⟨c :: first, by simp [hfirst, Ne.symm hc], ?_⟩
      have hsame : stretches (c :: t) = stretches t := stretches_append hfree t
      rw [hsame, List.cons_append, ← heq]

/-! ## The core of a text -/

/-- **The core of a text**: without blanks and hyphens, and up to case. -/
def core (t : Text) : Text := (t.map fold).filter isBare

@[simp] theorem core_append (t u : Text) : core (t ++ u) = core t ++ core u := by
  rw [core, List.map_append, List.filter_append]
  rfl

theorem core_cons (c : Char) (t : Text) : core (c :: t) = core [c] ++ core t := core_append [c] t

theorem core_eq_of_map_fold (h : t.map fold = u.map fold) : core t = core u := by
  rw [core, core, h]

theorem core_isInfix (h : t <:+: u) : core t <:+: core u := by
  obtain ⟨before, after, rfl⟩ := h
  rw [core_append, core_append]
  exact ⟨core before, core after, rfl⟩

end Text

namespace Phrase

/-! ## Hyphenation -/

/-- A part that wants a hyphen has the core of its hyphenated spelling. -/
theorem core_of_isCommandLine {c : Char} {tail : Text} (h : IsCommandLine (c :: tail)) :
    core (c :: tail) = core (c :: hyphenated) := by
  have hc : fold c = 'c' := by
    obtain ⟨d, rest, heq, hd, -⟩ := h.eq_cons
    rwa [(List.cons.inj heq).1]
  obtain ⟨first, gap, second, heq, hfirst, hgap, hsecond⟩ := h
  have hblank : core gap = [] := by
    rcases hgap with rfl | rfl
    · rfl
    · decide
  calc core (c :: tail) = core first ++ core gap ++ core second := by
        rw [heq, core_append, core_append]
    _ = command.filter isBare ++ line.filter isBare := by
        rw [hblank, List.append_nil, core, core, hfirst, hsecond]
    _ = ('c' :: hyphenated.map fold).filter isBare := by decide
    _ = core (c :: hyphenated) := by rw [core, List.map_cons, hc]

/-- **Hyphenation leaves the core as it is.** -/
theorem core_hyphenate (t : Text) : core (hyphenate t) = core t := by
  induction t using hyphenate_induction with
  | nil => rw [hyphenate_nil]
  | found c rest found after hs heq ih =>
    obtain ⟨ht, hfound⟩ := stripCommandLine?_eq_some_iff.1 hs
    obtain ⟨d, tail, rfl, -, -⟩ := hfound.eq_cons
    rw [List.cons_append, List.cons.injEq] at ht
    rw [heq, core_append, ih, ht.1, ht.2, ← core_of_isCommandLine hfound, ← core_append,
      List.cons_append]
  | other c rest hs heq ih => rw [heq, core_cons, ih, ← core_cons]

/-- Hyphenation brings nothing but letters and hyphens. -/
theorem mem_or_of_mem_hyphenate {x : Char} {t : Text} (hx : x ∈ hyphenate t) :
    x ∈ t ∨ x ∈ hyphenated := by
  induction t using hyphenate_induction with
  | nil => exact absurd hx (by simp)
  | found c rest found after hs heq ih =>
    obtain ⟨ht, -⟩ := stripCommandLine?_eq_some_iff.1 hs
    rw [heq, List.cons_append, List.mem_cons, List.mem_append] at hx
    rcases hx with rfl | hx | hx
    · exact .inl (List.mem_cons_self ..)
    · exact .inr hx
    · exact (ih hx).imp_left fun hmem => ht ▸ List.mem_append_right found hmem
  | other c rest hs heq ih =>
    rw [heq, List.mem_cons] at hx
    rcases hx with rfl | hx
    · exact .inl (List.mem_cons_self ..)
    · exact (ih hx).imp_left (List.mem_cons_of_mem c)

/-! ## Names -/

variable {name t u found : Text}

/-- **A name may stand in a text**: it does, up to case, or it would with other blanks and
hyphens. -/
def MayStandIn (name t : Text) : Prop := core name <:+: core t

instance (name t : Text) : Decidable (MayStandIn name t) :=
  inferInstanceAs (Decidable (_ <:+: _))

theorem MayStandIn.mono (h : MayStandIn name t) (hcore : core t <:+: core u) :
    MayStandIn name u :=
  h.trans hcore

/-- An occurrence stands where the name may stand. -/
theorem mayStandIn_of_found (hfound : found.map fold = name.map fold) (before after : Text) :
    MayStandIn name (before ++ (found ++ after)) := by
  rw [MayStandIn, ← core_eq_of_map_fold hfound, core_append, core_append]
  exact ⟨core before, core after, List.append_assoc _ _ _⟩

/-- An occurrence has a backslash only if the name has one. -/
theorem backslash_mem_of_map_fold (hfound : found.map fold = name.map fold) (h : '\\' ∈ found) :
    '\\' ∈ name := by
  have hmem : fold '\\' ∈ name.map fold := hfound ▸ List.mem_map_of_mem h
  obtain ⟨d, hd, hfold⟩ := List.mem_map.1 hmem
  rw [show fold '\\' = '\\' by decide] at hfold
  have hself : fold d = d := fold_eq_self_of_lt (by rw [hfold]; decide)
  rwa [hself.symm.trans hfold] at hd

/-- **A name that cannot stand in a text** does not go from it. -/
theorem removeName_of_not_mayStandIn (h : ¬ MayStandIn name t) : removeName name t = t := by
  refine removeName_eq_self ?_
  rintro ⟨-, before, found, after, rfl, hfound, -, -⟩
  rw [List.append_assoc] at h
  exact h (mayStandIn_of_found hfound before after)

/-- **The name goes from the pieces that it stands in**, as a part that starts like the name and
goes on with its characters; it leaves the other pieces alone. -/
theorem forall₂_splitOn_of_deletes {before : Text} {occurrences : List Occurrence}
    (hname : name ≠ []) (hfree : '\\' ∉ name) (h : Deletes name before t occurrences u) :
    List.Forall₂ (fun piece piece' => piece' = piece ∨
        MayStandIn name piece ∧ Cut (startsName name) (isInName name) false piece piece')
      (splitOn '\\' t) (splitOn '\\' u) := by
  induction h with
  | nil => exact .cons (.inl rfl) .nil
  | keep c _ ih =>
    refine forall₂_splitOn_cons (.inl rfl) (fun d piece piece' hpiece => ?_) c ih
    refine hpiece.imp (congrArg (d :: ·)) fun ⟨hstands, hcut⟩ => ?_
    exact ⟨hstands.mono (core_isInfix (List.suffix_cons d piece).isInfix), .keep false d hcut⟩
  | @delete before found t u occurrences isName _ ih =>
    have hfound : '\\' ∉ found := fun hmem => hfree (backslash_mem_of_map_fold isName hmem)
    refine forall₂_splitOn_append hfound List.not_mem_nil (fun piece piece' hpiece => .inr ?_) ih
    have hcut : Cut (startsName name) (isInName name) false piece piece' := by
      rcases hpiece with rfl | ⟨-, hcut⟩
      · exact Cut.refl piece'
      · exact hcut
    exact ⟨mayStandIn_of_found isName [] piece,
      cut_found hname isName (fun _ => id) (fun _ => id) hcut⟩

/-- **Removing a name without backslashes**, piece by piece. -/
theorem forall₂_splitOn_removeName (hfree : '\\' ∉ name) (t : Text) :
    List.Forall₂ (fun piece piece' => piece' = piece ∨
        MayStandIn name piece ∧ Cut (startsName name) (isInName name) false piece piece')
      (splitOn '\\' t) (splitOn '\\' (removeName name t)) := by
  by_cases hname : name = []
  · rw [hname, removeName_nil_name]
    exact List.forall₂_same.2 fun _ _ => .inl rfl
  · obtain ⟨occurrences, hdeletes, -⟩ := deletes_removeName name t
    exact forall₂_splitOn_of_deletes hname hfree hdeletes

end Phrase

end Blurb
