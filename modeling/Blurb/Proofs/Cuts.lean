import Blurb.Proofs.Convergence

/-! # What is cut out of a text

Most steps of a correction only take characters away, in parts that stand together. `Cut` relates a
text to what is left of it and says which characters a part can start with and which it can hold
behind its start, so that a character that no part takes is known to stay.

* `Cut.sublist` — what is left stood in the text in the same order.
* `Cut.head?_eq`, `Cut.mem` — what is sure to stay.
* `cut_trim`, `cut_dropFullStop`, `cut_removeName` — the parts that the steps take.
* `Step.run_sublist` — a step takes characters away, unless it puts the first character in upper
  case or hyphenates. -/

namespace Blurb

open Text Phrase

/-- **Cutting parts out of a text**: `u` is left of `t`. A part starts with a `first` character and
goes on with `more` characters; `inside` says that the text stands directly behind a character that
was cut. -/
inductive Cut (first more : Char → Bool) : Bool → Text → Text → Prop where
  /-- Nothing is left of nothing. -/
  | nil (inside : Bool) : Cut first more inside [] []
  /-- A character stays. -/
  | keep {t u : Text} (inside : Bool) (c : Char) (rest : Cut first more false t u) :
    Cut first more inside (c :: t) (c :: u)
  /-- A character goes, as the start of a part or behind another one of it. -/
  | drop {t u : Text} {inside : Bool} {c : Char}
    (goes : first c = true ∨ inside = true ∧ more c = true) (rest : Cut first more true t u) :
    Cut first more inside (c :: t) u

namespace Cut

variable {first more : Char → Bool} {inside : Bool} {t u part : Text}

theorem refl (t : Text) : Cut first more inside t t := by
  induction t generalizing inside with
  | nil => exact nil inside
  | cons c t ih => exact keep inside c ih

/-- What can be cut anywhere can be cut directly behind a part. -/
theorem of_false (h : Cut first more false t u) : Cut first more inside t u := by
  cases h with
  | nil => exact nil inside
  | keep _ c rest => exact keep inside c rest
  | drop goes rest => exact drop (Or.inl (goes.resolve_right (by simp))) rest

/-- A start of the text stays. -/
theorem append_left (before : Text) (h : Cut first more false t u) :
    Cut first more inside (before ++ t) (before ++ u) := by
  induction before generalizing inside with
  | nil => exact h.of_false
  | cons c before ih => exact keep inside c ih

/-- A part goes on. -/
theorem drop_more (hpart : ∀ x ∈ part, more x = true) (h : Cut first more false t u) :
    Cut first more true (part ++ t) u := by
  induction part with
  | nil => exact h.of_false
  | cons c part ih =>
    rw [List.forall_mem_cons] at hpart
    exact drop (Or.inr ⟨rfl, hpart.1⟩) (ih hpart.2)

/-- A run of characters that all start parts goes. -/
theorem drop_run (hpart : ∀ x ∈ part, first x = true) (h : Cut first more false t u) :
    Cut first more inside (part ++ t) u := by
  induction part generalizing inside with
  | nil => exact h.of_false
  | cons c part ih =>
    rw [List.forall_mem_cons] at hpart
    exact drop (Or.inl hpart.1) (ih hpart.2)

/-- **What is left stood in the text in the same order.** -/
theorem sublist (h : Cut first more inside t u) : u.Sublist t := by
  induction h with
  | nil => exact List.Sublist.slnil
  | keep _ c _ ih => exact ih.cons_cons c
  | @drop _ _ _ c _ _ ih => exact ih.cons c

/-- More characters can go. -/
theorem mono {first' more' : Char → Bool} (hfirst : ∀ c, first c = true → first' c = true)
    (hmore : ∀ c, more c = true → more' c = true) (h : Cut first more inside t u) :
    Cut first' more' inside t u := by
  induction h with
  | nil inside => exact nil inside
  | keep inside c _ ih => exact keep inside c ih
  | @drop _ _ _ c goes _ ih =>
    exact drop (goes.imp (hfirst c) fun ⟨hinside, hc⟩ => ⟨hinside, hmore c hc⟩) ih

/-- A first character that starts no part stays. -/
theorem head?_eq {c : Char} (hc : first c = false) (h : Cut first more false (c :: t) u) :
    u.head? = some c := by
  cases h with
  | keep => rfl
  | drop goes => simp [hc] at goes

/-- A character that belongs to no part stays. -/
theorem mem {x : Char} (hfirst : first x = false) (hmore : more x = false) (hx : x ∈ t)
    (h : Cut first more inside t u) : x ∈ u := by
  induction h with
  | nil => exact hx
  | keep _ c _ ih => exact List.mem_cons.2 ((List.mem_cons.1 hx).imp_right ih)
  | @drop _ _ _ c goes _ ih =>
    refine ih ((List.mem_cons.1 hx).resolve_left ?_)
    rintro rfl
    simp [hfirst, hmore] at goes

end Cut

variable {first more : Char → Bool} {inside : Bool} {name : Text}

/-! ## Blanks and full stops -/

/-- **Trimming takes blanks** from both ends. -/
theorem cut_trim (hblank : ∀ c, isBlank c = true → first c = true) (t : Text) :
    Cut first more inside t (trim t) := by
  have hend : Cut first more false (trimEnd (trimStart t) ++ trailingBlanks (trimStart t))
      (trimEnd (trimStart t) ++ []) := by
    refine Cut.append_left _ ?_
    rw [← List.append_nil (trailingBlanks (trimStart t))]
    exact Cut.drop_run (fun c hc => hblank c (isBlank_of_mem_trailingBlanks hc)) (Cut.nil false)
  rw [trimEnd_append_trailingBlanks, List.append_nil] at hend
  have h : Cut first more inside (leadingBlanks t ++ trimStart t) (trim t) :=
    Cut.drop_run (fun c hc => hblank c (isBlank_of_mem_leadingBlanks hc)) hend
  rwa [leadingBlanks_append_trimStart] at h

/-- **The closing full stop** is all that is taken with it. -/
theorem cut_dropFullStop (hstop : first '.' = true) (t : Text) :
    Cut first more inside t (dropFullStop t) := by
  by_cases h : endsWithFullStop t = true
  · have hcut : Cut first more inside (dropFullStop t ++ ['.']) (dropFullStop t ++ []) :=
      Cut.append_left _ (Cut.drop (Or.inl hstop) (Cut.nil true))
    rwa [← eq_append_of_endsWithFullStop h, List.append_nil] at hcut
  · rw [dropFullStop_eq_self_iff.2 (Bool.eq_false_iff.2 h)]
    exact Cut.refl t

/-! ## The name -/

namespace Phrase

/-- The name can start with the character, up to case. -/
def startsName (name : Text) (c : Char) : Bool := name.head?.any fun d => fold d == fold c

/-- The name has the character, up to case. -/
def isInName (name : Text) (c : Char) : Bool := name.any fun d => fold d == fold c

end Phrase

/-- An occurrence of the name is a part that starts like the name and goes on with its
characters. -/
theorem cut_found {found t u : Text} (hname : name ≠ []) (hfound : found.map fold = name.map fold)
    (hfirst : ∀ c, startsName name c = true → first c = true)
    (hmore : ∀ c, isInName name c = true → more c = true) (h : Cut first more false t u) :
    Cut first more inside (found ++ t) u := by
  obtain ⟨d, ds, rfl⟩ := List.exists_cons_of_ne_nil hname
  rw [List.map_cons] at hfound
  obtain ⟨c, cs, rfl, hc, hcs⟩ := List.map_eq_cons_iff.1 hfound
  refine Cut.drop (Or.inl (hfirst c (by simp [startsName, hc]))) (Cut.drop_more (fun x hx => ?_) h)
  have hmem : fold x ∈ ds.map fold := hcs ▸ List.mem_map_of_mem hx
  obtain ⟨e, he, heq⟩ := List.mem_map.1 hmem
  exact hmore x (List.any_eq_true.2 ⟨e, List.mem_cons_of_mem d he, by simp [heq]⟩)

theorem cut_removeInnerNames (hname : name ≠ [])
    (hfirst : ∀ c, startsName name c = true → first c = true)
    (hmore : ∀ c, isInName name c = true → more c = true) (t : Text) :
    Cut first more inside t (removeInnerNames name t) := by
  induction t using removeInnerNames_induction name generalizing inside with
  | nil =>
    rw [removeInnerNames_nil]
    exact Cut.nil inside
  | removed c rest close after hc hs heq ih =>
    obtain ⟨found, rfl, hfound, -⟩ := stripClosedName?_eq_some_iff.1 hs
    rw [heq]
    exact Cut.keep inside c (cut_found hname hfound hfirst hmore (Cut.append_left close ih))
  | kept c rest heq ih =>
    rw [heq]
    exact Cut.keep inside c ih

/-- **Removing the name takes occurrences of it**, each a part that starts like the name and goes on
with its characters. -/
theorem cut_removeName (hfirst : ∀ c, startsName name c = true → first c = true)
    (hmore : ∀ c, isInName name c = true → more c = true) (t : Text) :
    Cut first more inside t (removeName name t) := by
  rw [removeName]
  split
  · exact Cut.refl t
  · next hname =>
    rw [List.isEmpty_iff] at hname
    split
    · next close after hs =>
      obtain ⟨found, rfl, hfound, -⟩ := stripClosedName?_eq_some_iff.1 hs
      exact cut_found hname hfound hfirst hmore
        (Cut.append_left close (cut_removeInnerNames hname hfirst hmore after))
    · exact cut_removeInnerNames hname hfirst hmore t

theorem removeName_sublist (name t : Text) : (removeName name t).Sublist t := by
  have h : Cut (fun _ => true) (fun _ => true) false t (removeName name t) :=
    cut_removeName (fun _ _ => rfl) (fun _ _ => rfl) t
  exact h.sublist

/-! ## Steps -/

/-- **A step takes characters away**, unless it puts the first character in upper case or
hyphenates. -/
theorem Step.run_sublist (book : Rulebook) (name text : Text) {step : Step}
    (hcapital : step ≠ capitalize) (hhyphen : step ≠ hyphenateCommandLine) :
    (step.run book name text).Sublist text := by
  rw [Step.run]
  split
  · cases step with
    | stripWhitespace => exact (trim_isInfix text).sublist
    | stripArticle => exact (dropArticle_isSuffix text).sublist
    | capitalize => exact absurd rfl hcapital
    | hyphenateCommandLine => exact absurd rfl hhyphen
    | removeName => exact removeName_sublist name text
    | stripFullStop => exact (dropFullStop_isPrefix text).sublist
  · exact List.Sublist.refl text

end Blurb
