import Blurb.Proofs.Repairs
import Blurb.Proofs.Stretches
import Mathlib.Algebra.Ring.Parity

/-! # Closing quotes

A replacement goes into its host as it is, so the backslashes in front of its closing quote matter:
with an odd number of them the quote is escaped. The steps know nothing of escapes and cut what they
cut. Behind an odd number of backslashes stands what they escape; if something of it or of what
follows stays, only whole pairs of backslashes can gather at the end of the literal, and their
number stays even.

* `closingBackslashes` — the backslashes in front of the closing quote.
* `Rulebook.canCutAt`, `Rulebook.canCut` — the characters that a part that goes starts with and has.
* `Rulebook.keeps` — the stretches between backslashes of which something stays.
* `Rulebook.EscapesHold` — the literals whose escapes keep a character.
* `Rulebook.Closes` — the same, stretch by stretch; every step keeps it.
* `Rulebook.even_closingBackslashes_correction` — the closing quote of a replacement is not
  escaped. -/

namespace Blurb

open Text Phrase

namespace Text

/-! ## Backslashes at the end -/

/-- **The number of backslashes that a text ends with.** -/
def closingBackslashes (t : Text) : Nat := (t.reverse.takeWhile (· == '\\')).length

@[simp] theorem closingBackslashes_concat_backslash (t : Text) :
    closingBackslashes (t ++ ['\\']) = closingBackslashes t + 1 := by
  rw [closingBackslashes, List.reverse_concat, List.takeWhile_cons_of_pos (by decide)]
  rfl

theorem closingBackslashes_concat {c : Char} (hc : c ≠ '\\') (t : Text) :
    closingBackslashes (t ++ [c]) = 0 := by
  rw [closingBackslashes, List.reverse_concat, List.takeWhile_cons_of_neg (by simpa using hc)]
  rfl

theorem closingBackslashes_of_not_mem {t : Text} (h : '\\' ∉ t) : closingBackslashes t = 0 := by
  rcases List.eq_nil_or_concat t with rfl | ⟨before, c, rfl⟩
  · rfl
  · rw [List.concat_eq_append] at h ⊢
    exact closingBackslashes_concat (fun hc => h (by simp [hc])) before

/-- A stretch that is not empty leaves no backslash at the end. -/
theorem closingBackslashes_append_stretch {stretch : Text} (hne : stretch ≠ [])
    (hfree : '\\' ∉ stretch) (before : Text) :
    closingBackslashes (before ++ '\\' :: stretch) = 0 := by
  obtain ⟨rest, c, rfl⟩ := (List.eq_nil_or_concat stretch).resolve_left hne
  rw [List.concat_eq_append] at hfree ⊢
  rw [← List.cons_append, ← List.append_assoc]
  exact closingBackslashes_concat (fun hc => hfree (by simp [hc])) _

theorem decide_odd_add_one (n : Nat) : decide (Odd (n + 1)) = !decide (Odd n) := by
  rw [← decide_not, decide_eq_decide]
  exact Nat.odd_add_one

/-- Upper-casing brings no backslashes. -/
theorem backslash_not_mem_upper {c : Char} (hc : upper c ≠ [c]) : '\\' ∉ upper c := by
  intro h
  exact absurd ((brought_of_mem_upper h hc).2.2 (by decide)) (by decide)

end Text

namespace Rulebook

/-! ## Characters that can go -/

/-- **A part that a step cuts out can start with the character**: blanks, the full stop under its
rule, and what the name starts with under the rule on it. -/
def canCutAt (book : Rulebook) (name : Text) (c : Char) : Bool :=
  isBlank c || book.has .fullStop && c == '.' || book.has .selfReference && startsName name c

/-- **A part that a step cuts out can have the character.** -/
def canCut (book : Rulebook) (name : Text) (c : Char) : Bool :=
  isBlank c || book.has .fullStop && c == '.' || book.has .selfReference && isInName name c

/-- The name as far as it counts for a stretch: not at all where it cannot stand. -/
def nameIn (name stretch : Text) : Text := if MayStandIn name stretch then name else []

/-- **Something stays of a stretch**: its first character starts no part that goes, or one of its
characters belongs to no such part. -/
def keeps (book : Rulebook) (name stretch : Text) : Bool :=
  stretch.head?.any (fun c => !book.canCutAt (nameIn name stretch) c) ||
    !stretch.all (book.canCut (nameIn name stretch))

/-- **The escapes of a literal hold**: what an odd number of backslashes stands in front of is
another backslash, or from there on something stays of one of the stretches. -/
def EscapesHold (book : Rulebook) (name literal : Text) : Prop :=
  ∀ i, (_ : i < literal.length) → Odd (closingBackslashes (literal.take i)) →
    literal[i] = '\\' ∨ ∃ stretch ∈ splitOn '\\' (literal.drop i), book.keeps name stretch = true

instance (book : Rulebook) (name literal : Text) : Decidable (book.EscapesHold name literal) :=
  inferInstanceAs (Decidable (∀ i, (_ : i < literal.length) → _ → _))

/-- **A name with backslashes stays in a literal**: it cannot stand there, and putting a character
in upper case changes nothing but its case. -/
def NameStays (book : Rulebook) (name literal : Text) : Prop :=
  ¬ MayStandIn name literal ∧
    (book.has .capitalization = true → ∀ c ∈ literal, (upper c).map fold = [fold c])

variable {book : Rulebook} {name stretch : Text} {c : Char}

theorem canCutAt_of_isBlank (h : isBlank c = true) : book.canCutAt name c = true := by
  rw [canCutAt, h, Bool.true_or, Bool.true_or]

theorem canCutAt_fullStop (h : book.has .fullStop = true) : book.canCutAt name '.' = true := by
  simp [canCutAt, h]

theorem canCutAt_of_startsName (h : book.has .selfReference = true)
    (hc : startsName name c = true) : book.canCutAt name c = true := by
  rw [canCutAt, h, hc, Bool.true_and, Bool.or_true]

theorem canCut_of_isInName (h : book.has .selfReference = true)
    (hc : isInName name c = true) : book.canCut name c = true := by
  rw [canCut, h, hc, Bool.true_and, Bool.or_true]

theorem isInName_of_startsName (h : startsName name c = true) : isInName name c = true := by
  obtain ⟨d, hd, hfold⟩ := (Option.any_eq_true _ _).1 h
  exact List.any_eq_true.2 ⟨d, List.mem_of_mem_head? hd, hfold⟩

/-- What starts a part can be in one. -/
theorem canCut_of_canCutAt (h : book.canCutAt name c = true) : book.canCut name c = true := by
  rw [canCutAt, Bool.or_eq_true, Bool.and_eq_true] at h
  rw [canCut, Bool.or_eq_true, Bool.and_eq_true]
  exact h.imp_right fun h => ⟨h.1, isInName_of_startsName h.2⟩

/-- What goes without a name goes with any. -/
theorem canCutAt_of_nil (h : book.canCutAt [] c = true) : book.canCutAt name c = true := by
  have hnone : startsName [] c = false := rfl
  rw [canCutAt, hnone, Bool.and_false, Bool.or_false] at h
  rw [canCutAt, h, Bool.true_or]

theorem canCut_of_nil (h : book.canCut [] c = true) : book.canCut name c = true := by
  have hnone : isInName [] c = false := rfl
  rw [canCut, hnone, Bool.and_false, Bool.or_false] at h
  rw [canCut, h, Bool.true_or]

/-- Letters go and stay in either case. -/
theorem canCut_of_fold {l : Char} (hl : isFoldedLetter l = true) (h : fold c = fold l)
    (hcut : book.canCut name l = true) : book.canCut name c = true := by
  have hblank : isBlank l = false := by
    rw [Bool.eq_false_iff]
    intro hb
    rw [isFoldedLetter_of_isBlank hb] at hl
    exact absurd hl (by decide)
  have hstop : (l == '.') = false := by
    rw [beq_eq_false_iff_ne]
    rintro rfl
    exact absurd hl (by decide)
  rw [canCut, hblank, hstop, Bool.and_false, Bool.or_false, Bool.false_or, Bool.and_eq_true,
    isInName, ← h] at hcut
  exact canCut_of_isInName hcut.1 hcut.2

/-- A part that wants a hyphen can go behind its first character if the hyphenated spelling can. -/
theorem all_canCut_of_hyphenated {tail : Text} (h : IsCommandLine (c :: tail))
    (hall : hyphenated.all (book.canCut name) = true) : tail.all (book.canCut name) = true := by
  have hself : (hyphenated.all fun l => fold l == l) = true := by decide
  rw [List.all_eq_true] at hself hall ⊢
  intro x hx
  rcases h.of_mem_tail hx with rfl | ⟨hletter, hfold⟩
  · exact canCut_of_canCutAt (canCutAt_of_isBlank (by decide))
  · have hl := beq_iff_eq.1 (hself _ hfold)
    exact canCut_of_fold (by rwa [isFoldedLetter, hl]) hl.symm (hall _ hfold)

/-! ## Escapes, stretch by stretch -/

/-- **The escapes among stretches hold**: wherever a stretch follows an odd number of backslashes,
something stays of it or of one behind it, and the backslashes at the end are even in number. `odd`
tells whether the number of backslashes before that of the first stretch is odd. -/
def Closes (book : Rulebook) (name : Text) : Bool → List Text → Prop
  | odd, [] => odd = false
  | odd, [] :: later => Closes book name (!odd) later
  | odd, (c :: stretch) :: later =>
    (odd = false → ∃ kept ∈ (c :: stretch) :: later, book.keeps name kept = true) ∧
      Closes book name false later

variable {parts others : List Text}

@[simp] theorem keeps_nil : book.keeps name [] = false := rfl

/-- Where something stays later on, what stands before makes no difference. -/
theorem Closes.congr (h : ∃ kept ∈ parts, book.keeps name kept = true) (odd odd' : Bool) :
    Closes book name odd parts ↔ Closes book name odd' parts := by
  induction parts generalizing odd odd' with
  | nil =>
    obtain ⟨kept, hmem, -⟩ := h
    cases hmem
  | cons stretch parts ih =>
    cases stretch with
    | nil =>
      have hrest : ∃ kept ∈ parts, book.keeps name kept = true := by simpa using h
      exact ih hrest _ _
    | cons c stretch => exact ⟨fun h' => ⟨fun _ => h, h'.2⟩, fun h' => ⟨fun _ => h, h'.2⟩⟩

/-- **What a step may do to a stretch**: it writes nothing into an empty one, and what kept
something still does. -/
structure Spares (book : Rulebook) (name stretch stretch' : Text) : Prop where
  /-- An empty stretch stays empty. -/
  nil : stretch = [] → stretch' = []
  /-- What stays of the stretch is not lost. -/
  keeps : book.keeps name stretch = true → book.keeps name stretch' = true

theorem Spares.refl (book : Rulebook) (name stretch : Text) :
    book.Spares name stretch stretch := ⟨id, id⟩

/-- Stretches that are spared keep what stays of one of them. -/
theorem exists_keeps_of_spares (h : List.Forall₂ (book.Spares name) parts others)
    (hkept : ∃ kept ∈ parts, book.keeps name kept = true) :
    ∃ kept ∈ others, book.keeps name kept = true := by
  induction h with
  | nil => exact hkept
  | cons hspares _ ih =>
    obtain ⟨kept, hmem, hkeeps⟩ := hkept
    rcases List.mem_cons.1 hmem with rfl | hmem
    · exact ⟨_, List.mem_cons_self .., hspares.keeps hkeeps⟩
    · obtain ⟨other, hother, hkeeps⟩ := ih ⟨kept, hmem, hkeeps⟩
      exact ⟨other, List.mem_cons_of_mem _ hother, hkeeps⟩

/-- **Escapes that hold do so as long as the stretches are spared.** -/
theorem Closes.mono {odd : Bool} (h : List.Forall₂ (book.Spares name) parts others)
    (hcloses : Closes book name odd parts) : Closes book name odd others := by
  induction h generalizing odd with
  | nil => exact hcloses
  | @cons stretch stretch' parts others hspares hrest ih =>
    cases stretch with
    | nil =>
      rw [hspares.nil rfl]
      exact ih hcloses
    | cons c stretch =>
      obtain ⟨hkept, hcloses⟩ := hcloses
      cases stretch' with
      | cons d stretch' => exact ⟨fun hodd => exists_keeps_of_spares (.cons hspares hrest)
          (hkept hodd), ih hcloses⟩
      | nil =>
        -- nothing is left of the stretch, so its backslash joins those of the next one
        cases odd with
        | true => exact ih hcloses
        | false =>
          have hlater := exists_keeps_of_spares (.cons hspares hrest) (hkept rfl)
          have hothers : ∃ kept ∈ others, book.keeps name kept = true := by simpa using hlater
          exact (Closes.congr hothers false true).1 (ih hcloses)

/-- Escapes that hold behind a text leave an even number of backslashes at the end. -/
theorem Closes.even_append {before : Text}
    (h : Closes book name (decide (Odd (closingBackslashes before))) parts)
    (hfree : ∀ stretch ∈ parts, '\\' ∉ stretch) :
    Even (closingBackslashes (before ++ parts.flatMap ('\\' :: ·))) := by
  -- on the stretches that are still to come; what has come gathers in `before`
  induction parts generalizing before with
  | nil =>
    rw [List.flatMap_nil, List.append_nil]
    exact Nat.not_odd_iff_even.1 (of_decide_eq_false h)
  | cons stretch parts ih =>
    rw [List.forall_mem_cons] at hfree
    rw [List.flatMap_cons, ← List.append_assoc]
    refine ih ?_ hfree.2
    cases stretch with
    | nil =>
      rw [closingBackslashes_concat_backslash, decide_odd_add_one]
      exact h
    | cons c stretch =>
      rw [closingBackslashes_append_stretch (List.cons_ne_nil c stretch) hfree.1,
        show decide (Odd 0) = false by decide]
      exact h.2

/-- The escapes of a literal hold among the stretches behind any start of it. -/
theorem closes_of_append {before : Text} (hfree : ∀ stretch ∈ parts, '\\' ∉ stretch)
    (hescapes : book.EscapesHold name (before ++ parts.flatMap ('\\' :: ·)))
    (heven : Even (closingBackslashes (before ++ parts.flatMap ('\\' :: ·)))) :
    Closes book name (decide (Odd (closingBackslashes before))) parts := by
  induction parts generalizing before with
  | nil =>
    rw [List.flatMap_nil, List.append_nil] at heven
    exact decide_eq_false (Nat.not_odd_iff_even.2 heven)
  | cons stretch parts ih =>
    rw [List.forall_mem_cons] at hfree
    rw [List.flatMap_cons, ← List.append_assoc] at hescapes heven
    have hrest := ih hfree.2 hescapes heven
    cases stretch with
    | nil =>
      rwa [closingBackslashes_concat_backslash, decide_odd_add_one] at hrest
    | cons c stretch =>
      rw [closingBackslashes_append_stretch (List.cons_ne_nil c stretch) hfree.1,
        show decide (Odd 0) = false by decide] at hrest
      refine ⟨fun hodd => ?_, hrest⟩
      -- the character behind the backslash of the stretch is escaped
      have hopen : Odd (closingBackslashes (before ++ ['\\'])) := by
        rw [closingBackslashes_concat_backslash]
        exact (Nat.not_odd_iff_even.1 (of_decide_eq_false hodd)).add_one
      have hwhole : before ++ '\\' :: c :: stretch ++ parts.flatMap ('\\' :: ·) =
          (before ++ ['\\']) ++ (c :: stretch ++ parts.flatMap ('\\' :: ·)) := by simp
      rw [hwhole] at hescapes
      have hescaped := hescapes (before ++ ['\\']).length (by simp) (by rwa [List.take_left])
      rw [List.getElem_append_right (Nat.le_refl _), List.drop_left,
        splitOn_append_flatMap (List.forall_mem_cons.2 hfree)] at hescaped
      refine hescaped.resolve_left fun hc => hfree.1 ?_
      exact List.mem_cons.2 (.inl (by simpa using hc.symm))

/-- No backslash stands at the end of what stands before the first one. -/
theorem decide_odd_of_not_mem {first : Text} (h : '\\' ∉ first) :
    decide (Odd (closingBackslashes first)) = false := by
  rw [closingBackslashes_of_not_mem h]
  decide

/-- **Escapes that hold leave an even number** of backslashes at the end. -/
theorem Closes.even_closingBackslashes {t : Text} (h : Closes book name false (stretches t)) :
    Even (closingBackslashes t) := by
  obtain ⟨first, hfirst, heq⟩ := exists_eq_append_stretches t
  rw [← decide_odd_of_not_mem hfirst] at h
  rw [heq]
  exact h.even_append fun _ => backslash_notMem_of_mem_stretches

/-- **Escapes that hold, stretch by stretch.** -/
theorem closes_of_escapesHold {literal : Text} (hescapes : book.EscapesHold name literal)
    (heven : Even (closingBackslashes literal)) :
    Closes book name false (stretches literal) := by
  obtain ⟨first, hfirst, heq⟩ := exists_eq_append_stretches literal
  have hcloses : Closes book name (decide (Odd (closingBackslashes first))) (stretches literal) :=
    closes_of_append (fun _ => backslash_notMem_of_mem_stretches) (heq ▸ hescapes) (heq ▸ heven)
  rwa [decide_odd_of_not_mem hfirst] at hcloses

/-! ## Steps on stretches -/

/-- Where a name gets no new room, no more characters can go. -/
theorem canCutAt_nameIn {stretch' : Text}
    (hroom : MayStandIn name stretch' → MayStandIn name stretch)
    (h : book.canCutAt (nameIn name stretch') c = true) :
    book.canCutAt (nameIn name stretch) c = true := by
  rw [nameIn] at h
  split at h
  · next hstands => rwa [nameIn, if_pos (hroom hstands)]
  · exact canCutAt_of_nil h

theorem canCut_nameIn {stretch' : Text}
    (hroom : MayStandIn name stretch' → MayStandIn name stretch)
    (h : book.canCut (nameIn name stretch') c = true) :
    book.canCut (nameIn name stretch) c = true := by
  rw [nameIn] at h
  split at h
  · next hstands => rwa [nameIn, if_pos (hroom hstands)]
  · exact canCut_of_nil h

/-- **Cutting out parts that can go spares a stretch**, if the name gets no new room in what is
left. -/
theorem spares_of_cut {stretch' : Text}
    (hroom : MayStandIn name stretch' → MayStandIn name stretch)
    (hcut : Cut (book.canCutAt (nameIn name stretch)) (book.canCut (nameIn name stretch)) false
      stretch stretch') : book.Spares name stretch stretch' where
  nil := by
    rintro rfl
    exact List.sublist_nil.1 hcut.sublist
  keeps h := by
    rw [Rulebook.keeps, Bool.or_eq_true] at h ⊢
    rcases h with hhead | hsome
    · obtain ⟨c, hc, hstays⟩ := (Option.any_eq_true _ _).1 hhead
      obtain ⟨rest, rfl⟩ := List.head?_eq_some_iff.1 hc
      rw [Bool.not_eq_true'] at hstays
      refine .inl ((Option.any_eq_true _ _).2 ⟨c, hcut.head?_eq hstays, ?_⟩)
      rw [Bool.not_eq_true', Bool.eq_false_iff]
      intro hgoes
      rw [canCutAt_nameIn hroom hgoes] at hstays
      cases hstays
    · rw [List.not_all_eq_any_not, List.any_eq_true] at hsome
      obtain ⟨x, hx, hstays⟩ := hsome
      rw [Bool.not_eq_true'] at hstays
      have hat : book.canCutAt (nameIn name stretch) x = false := by
        rw [Bool.eq_false_iff]
        intro hgoes
        rw [canCut_of_canCutAt hgoes] at hstays
        cases hstays
      refine .inr ?_
      rw [List.not_all_eq_any_not, List.any_eq_true]
      refine ⟨x, hcut.mem hat hstays hx, ?_⟩
      rw [Bool.not_eq_true', Bool.eq_false_iff]
      intro hgoes
      rw [canCut_nameIn hroom hgoes] at hstays
      cases hstays

/-- **Cuts at the end of a text spare its stretches.** -/
theorem forall₂_spares_end {part : Text} (hpart : ∀ name, ∀ c ∈ part, book.canCutAt name c = true)
    (hfree : '\\' ∉ part) (name t : Text) :
    List.Forall₂ (book.Spares name) (stretches (t ++ part)) (stretches t) := by
  refine forall₂_stretches ((forall₂_splitOn_end hfree t).imp ?_)
  rintro stretch stretch' (rfl | rfl)
  · exact Spares.refl book name stretch
  · refine spares_of_cut
      (fun hstands => hstands.mono (core_isInfix (List.prefix_append stretch' part).isInfix)) ?_
    have hcut : Cut (book.canCutAt (nameIn name (stretch' ++ part)))
        (book.canCut (nameIn name (stretch' ++ part))) false (stretch' ++ (part ++ []))
        (stretch' ++ []) :=
      Cut.append_left stretch' (Cut.drop_run (hpart _) (Cut.nil false))
    rwa [List.append_nil, List.append_nil] at hcut

/-- **Trimming spares the stretches.** -/
theorem forall₂_spares_trim (book : Rulebook) (name t : Text) :
    List.Forall₂ (book.Spares name) (stretches t) (stretches (trim t)) := by
  have hstart : '\\' ∉ leadingBlanks t := fun hmem =>
    absurd (isBlank_of_mem_leadingBlanks hmem) (by decide)
  have hend : '\\' ∉ trailingBlanks (trimStart t) := fun hmem =>
    absurd (isBlank_of_mem_trailingBlanks hmem) (by decide)
  have hblank : ∀ name, ∀ c ∈ trailingBlanks (trimStart t), book.canCutAt name c = true :=
    fun _ _ hc => canCutAt_of_isBlank (isBlank_of_mem_trailingBlanks hc)
  have hspares := forall₂_spares_end hblank hend name (trimEnd (trimStart t))
  rw [trimEnd_append_trailingBlanks] at hspares
  rwa [← stretches_append hstart (trimStart t), leadingBlanks_append_trimStart] at hspares

/-- Dropping the article changes no stretch. -/
theorem stretches_dropArticle (t : Text) : stretches (dropArticle t) = stretches t := by
  rw [Phrase.dropArticle]
  split
  · next article rest hs =>
    obtain ⟨rfl, harticle, -⟩ := stripArticle?_eq_some_iff.1 hs
    have hfree : '\\' ∉ article := by
      intro hmem
      have hfold := List.mem_map_of_mem (f := fold) hmem
      rcases harticle with heq | heq <;> rw [heq] at hfold <;> exact absurd hfold (by decide)
    have hblanks : '\\' ∉ leadingBlanks rest := fun hmem =>
      absurd (isBlank_of_mem_leadingBlanks hmem) (by decide)
    rw [stretches_append hfree, ← stretches_append hblanks, leadingBlanks_append_trimStart]
  · rfl

/-- Upper-casing the first character changes no stretch. -/
theorem stretches_upper (c : Char) (t : Text) :
    stretches (Blurb.upper c ++ t) = stretches (c :: t) := by
  by_cases hself : Blurb.upper c = [c]
  · rw [hself, List.singleton_append]
  · have hc : '\\' ∉ [c] := by
      rw [List.mem_singleton]
      rintro rfl
      exact hself (by decide)
    rw [stretches_append (backslash_not_mem_upper hself), ← List.singleton_append,
      stretches_append hc]

/-! ### Hyphenation -/

/-- **A stretch in another spelling**: it starts with the same character, has the same core, and can
go only if it could before. -/
structure Respells (book : Rulebook) (stretch stretch' : Text) : Prop where
  /-- The first character stays. -/
  head : stretch'.head? = stretch.head?
  /-- So does the core. -/
  core : core stretch' = core stretch
  /-- What can go now could go before. -/
  all : ∀ name, stretch'.all (book.canCut name) = true → stretch.all (book.canCut name) = true

theorem Respells.spares {stretch' : Text} (h : book.Respells stretch stretch') :
    book.Spares name stretch stretch' where
  nil := by
    rintro rfl
    exact List.head?_eq_none_iff.1 h.head
  keeps hkeeps := by
    have hname : nameIn name stretch' = nameIn name stretch :=
      if_congr (by rw [MayStandIn, MayStandIn, h.core]) rfl rfl
    rw [Rulebook.keeps, Bool.or_eq_true] at hkeeps ⊢
    rw [hname, h.head]
    refine hkeeps.imp_right fun hsome => ?_
    rw [Bool.not_eq_true', Bool.eq_false_iff] at hsome ⊢
    exact fun hall => hsome (h.all _ hall)

/-- **Hyphenation respells the pieces of a text.** -/
theorem forall₂_respells_hyphenate (book : Rulebook) (t : Text) :
    List.Forall₂ book.Respells (splitOn '\\' t) (splitOn '\\' (hyphenate t)) := by
  induction t using hyphenate_induction with
  | nil =>
    rw [hyphenate_nil]
    exact .cons ⟨rfl, rfl, fun _ => id⟩ .nil
  | found c rest found after hs heq ih =>
    obtain ⟨ht, hfound⟩ := stripCommandLine?_eq_some_iff.1 hs
    obtain ⟨d, tail, rfl, hd, -⟩ := hfound.eq_cons
    obtain ⟨rfl, -⟩ := List.cons.inj ht
    have hc : '\\' ≠ c := by
      rintro rfl
      exact absurd hd (by decide)
    have htail : '\\' ∉ c :: tail := by
      rintro (_ | ⟨_, hmem⟩)
      · exact hc rfl
      · exact absurd (hfound.of_mem_tail hmem) (by decide)
    have hspelling : '\\' ∉ c :: hyphenated := by
      rw [List.mem_cons, not_or]
      exact ⟨hc, by decide⟩
    rw [heq, ht]
    refine forall₂_splitOn_append htail hspelling (fun piece piece' h => ⟨rfl, ?_, ?_⟩) ih
    · rw [core_append, core_append, core_of_isCommandLine hfound, h.core]
    · intro name hall
      rw [List.all_append, List.all_cons, Bool.and_eq_true, Bool.and_eq_true] at hall ⊢
      exact ⟨⟨hall.1.1, all_canCut_of_hyphenated hfound hall.1.2⟩, h.all name hall.2⟩
  | other c rest hs heq ih =>
    rw [heq]
    refine forall₂_splitOn_cons ⟨rfl, rfl, fun _ => id⟩ (fun d piece piece' h => ⟨rfl, ?_, ?_⟩) c ih
    · rw [core_cons, core_cons d piece, h.core]
    · intro name hall
      rw [List.all_cons, Bool.and_eq_true] at hall ⊢
      exact ⟨hall.1, h.all name hall.2⟩

/-! ### All steps -/

/-- **Removing the name spares the stretches**, if no backslash goes with it. -/
theorem forall₂_spares_removeName (hself : book.has .selfReference = true) (hfree : '\\' ∉ name)
    (t : Text) :
    List.Forall₂ (book.Spares name) (stretches t) (stretches (removeName name t)) := by
  refine forall₂_stretches ((forall₂_splitOn_removeName hfree t).imp ?_)
  rintro stretch stretch' (rfl | ⟨hstands, hcut⟩)
  · exact Spares.refl book name stretch'
  · refine spares_of_cut (fun _ => hstands) ?_
    rw [nameIn, if_pos hstands]
    exact hcut.mono (fun _ => canCutAt_of_startsName hself) fun _ => canCut_of_isInName hself

/-- **Every step spares the stretches** of a text, unless the name has a backslash and may stand in
the text. -/
theorem forall₂_spares_run {text : Text} (step : Step)
    (hname : book.has .selfReference = true → '\\' ∈ name → ¬ MayStandIn name text) :
    List.Forall₂ (book.Spares name) (stretches text) (stretches (step.run book name text)) := by
  have hsame : List.Forall₂ (book.Spares name) (stretches text) (stretches text) :=
    List.forall₂_same.2 fun stretch _ => Spares.refl book name stretch
  by_cases henabled : step.isEnabled book = true
  · cases step with
    | stripWhitespace =>
      rw [Step.run_of_isEnabled henabled]
      exact forall₂_spares_trim book name text
    | stripArticle =>
      rw [Step.run_of_isEnabled henabled, Step.apply, stretches_dropArticle]
      exact hsame
    | capitalize =>
      rcases Step.capitalize_run_cases book name text with heq | ⟨c, rest, rfl, heq⟩
      · rwa [heq]
      · rwa [heq, stretches_upper]
    | hyphenateCommandLine =>
      rw [Step.run_of_isEnabled henabled]
      have hrespells := forall₂_stretches (forall₂_respells_hyphenate book text)
      exact hrespells.imp fun _ _ => Respells.spares
    | removeName =>
      rw [Step.run_of_isEnabled henabled, Step.apply]
      by_cases hfree : '\\' ∈ name
      · rwa [removeName_of_not_mayStandIn (hname henabled hfree)]
      · exact forall₂_spares_removeName henabled hfree text
    | stripFullStop =>
      rw [Step.run_of_isEnabled henabled, Step.apply]
      by_cases hstop : endsWithFullStop text = true
      · have hfree : '\\' ∉ ['.'] := by decide
        have hgoes : ∀ name, ∀ c ∈ ['.'], book.canCutAt name c = true := by
          intro name c hc
          rw [List.mem_singleton.1 hc]
          exact canCutAt_fullStop henabled
        have hspares := forall₂_spares_end hgoes hfree name (dropFullStop text)
        rwa [← eq_append_of_endsWithFullStop hstop] at hspares
      · rwa [dropFullStop_eq_self_iff.2 (Bool.eq_false_iff.2 hstop)]
  · rwa [Step.run, if_neg henabled]

/-! ## Names with backslashes -/

/-- A letter of the hyphenated spelling has the upper case that it should. -/
theorem fold_upper_hyphenated (hc : c ∈ hyphenated) : (upper c).map fold = [fold c] := by
  have hall : (hyphenated.all fun c => (upper c).map fold == [fold c]) = true := by decide
  exact beq_iff_eq.1 (List.all_eq_true.1 hall c hc)

/-- A name that stays in a text stays in its parts. -/
theorem NameStays.of_isInfix {text part : Text} (h : book.NameStays name text)
    (hpart : part <:+: text) : book.NameStays name part :=
  ⟨fun hstands => h.1 (hstands.mono (core_isInfix hpart)),
    fun hbook c hc => h.2 hbook c (hpart.mem hc)⟩

/-- **A name that stays in a text does so after every step.** -/
theorem NameStays.run {text : Text} (h : book.NameStays name text) (step : Step) :
    book.NameStays name (step.run book name text) := by
  have ⟨habsent, hcase⟩ := h
  by_cases henabled : step.isEnabled book = true
  · cases step with
    | stripWhitespace =>
      rw [Step.run_of_isEnabled henabled]
      exact h.of_isInfix (trim_isInfix text)
    | stripArticle =>
      rw [Step.run_of_isEnabled henabled]
      exact h.of_isInfix (dropArticle_isSuffix text).isInfix
    | capitalize =>
      rcases Step.capitalize_run_cases book name text with heq | ⟨c, rest, rfl, heq⟩
      · rwa [heq]
      · have hc : (Blurb.upper c).map fold = [fold c] := hcase henabled c (List.mem_cons_self ..)
        have hcore : core (Blurb.upper c ++ rest) = core (c :: rest) := by
          rw [core_append, core_cons c rest]
          congr 1
          rw [core, hc]
          rfl
        rw [heq]
        refine ⟨fun h' => habsent (h'.mono (hcore ▸ List.infix_rfl)), fun hbook x hx => ?_⟩
        rcases List.mem_append.1 hx with hx | hx
        · rw [upper_of_mem_upper hx]
          rfl
        · exact hcase hbook x (List.mem_cons_of_mem c hx)
    | hyphenateCommandLine =>
      rw [Step.run_of_isEnabled henabled]
      have hcore := core_hyphenate text
      refine ⟨fun h' => habsent (h'.mono (hcore ▸ List.infix_rfl)), fun hbook c hc => ?_⟩
      exact (mem_or_of_mem_hyphenate hc).elim (hcase hbook c) fold_upper_hyphenated
    | removeName =>
      rwa [Step.run_of_isEnabled henabled, Step.apply, removeName_of_not_mayStandIn habsent]
    | stripFullStop =>
      rw [Step.run_of_isEnabled henabled]
      exact h.of_isInfix (dropFullStop_isPrefix text).isInfix
  · rwa [Step.run, if_neg henabled]

/-! ## Corrections -/

variable {literal : Text}

/-- A backslash belongs to the bare text, and nothing else brings one there. -/
theorem backslash_mem_bare_iff {t : Text} : '\\' ∈ bare t ↔ '\\' ∈ t := by
  have hbare : isBare '\\' = true := by decide
  have hupper : upper '\\' = ['\\'] := by decide
  rw [bare, List.mem_flatMap]
  constructor
  · rintro ⟨c, hc, hmem⟩
    rw [List.mem_filter] at hc
    by_cases hself : upper c = [c]
    · rw [hself, List.mem_singleton] at hmem
      exact hmem ▸ hc.1
    · exact absurd hmem (backslash_not_mem_upper hself)
  · intro h
    exact ⟨'\\', List.mem_filter.2 ⟨h, hbare⟩, by rw [hupper]; exact List.mem_singleton_self _⟩

/-- A revision brings no backslashes. -/
theorem backslash_not_mem_revise (h : '\\' ∉ literal) : '\\' ∉ book.revise name literal := by
  refine revise_induction (motive := fun text => '\\' ∉ text) h fun step text htext hmem => ?_
  rw [← backslash_mem_bare_iff] at htext hmem
  exact htext ((bare_run_sublist book name text step).subset hmem)

/-- **A revision of a literal whose escapes hold** ends in an even number of backslashes. -/
theorem even_closingBackslashes_revise
    (hname : '\\' ∈ literal → book.has .selfReference = true → '\\' ∈ name →
      book.NameStays name literal)
    (hescapes : book.EscapesHold name literal) (heven : Even (closingBackslashes literal)) :
    Even (closingBackslashes (book.revise name literal)) := by
  by_cases hmem : '\\' ∈ literal
  · have hend : Closes book name false (stretches (book.revise name literal)) ∧
        (book.has .selfReference = true → '\\' ∈ name →
          book.NameStays name (book.revise name literal)) := by
      refine revise_induction (motive := fun text => Closes book name false (stretches text) ∧
        (book.has .selfReference = true → '\\' ∈ name → book.NameStays name text))
        ⟨closes_of_escapesHold hescapes heven, hname hmem⟩ ?_
      rintro step text ⟨hcloses, hstays⟩
      exact ⟨hcloses.mono (forall₂_spares_run step fun hself hback => (hstays hself hback).1),
        fun hself hback => (hstays hself hback).run step⟩
    exact hend.1.even_closingBackslashes
  · rw [closingBackslashes_of_not_mem (backslash_not_mem_revise hmem)]
    exact Even.zero

/-- **The closing quote of a replacement is not escaped**, if the escapes of the literal hold and a
name with backslashes stays in it: the text between the quotes ends in an even number of
backslashes, as the literal does. A literal without backslashes meets all of this. -/
theorem even_closingBackslashes_correction {token : Token} {replacement : Replacement}
    {quote : Char} (hliteral : lineLiteral? token.source = some (quote, literal))
    (heven : Even (closingBackslashes literal))
    (hname : '\\' ∈ literal → book.has .selfReference = true → '\\' ∈ name →
      book.NameStays name literal)
    (hescapes : book.EscapesHold name literal)
    (hcorrect : book.correct? name token = some replacement) :
    ∃ inner, replacement.text = quote :: inner ++ [quote] ∧ Even (closingBackslashes inner) := by
  obtain ⟨other, inner, hsame, -, -, -, rfl⟩ := correct?_eq_some_iff.1 hcorrect
  rw [hliteral, Option.some.injEq, Prod.mk.injEq] at hsame
  obtain ⟨rfl, rfl⟩ := hsame
  exact ⟨_, rfl, even_closingBackslashes_revise hname hescapes heven⟩

/-- The name goes from between escaped quotes, and the full stop from the end; the last escape keeps
its character, which the name starts with. -/
theorem even_closingBackslashes_correction_quotes :
    default.EscapesHold "node".toList "Prints \\\"node\\\"\\n.".toList ∧
    default.correct? "node".toList (Token.quoted "Prints \\\"node\\\"\\n.".toList) =
      some ⟨⟨0, 20⟩, "\"Prints \\\"\\\"\\n\"".toList⟩ ∧
    ∃ inner, "\"Prints \\\"\\\"\\n\"".toList = '"' :: inner ++ ['"'] ∧
      Even (closingBackslashes inner) := by
  have hescapes : default.EscapesHold "node".toList "Prints \\\"node\\\"\\n.".toList := by decide
  have hcorrect : default.correct? "node".toList (Token.quoted "Prints \\\"node\\\"\\n.".toList) =
      some ⟨⟨0, 20⟩, "\"Prints \\\"\\\"\\n\"".toList⟩ := by decide +kernel
  exact ⟨hescapes, hcorrect, even_closingBackslashes_correction rfl (by decide)
    (fun _ _ hname => absurd hname (by decide)) hescapes hcorrect⟩

/-- **A correction keeps the closing quote**, if it was not escaped before. -/
def StaysClosed (book : Rulebook) (name literal : Text) : Prop :=
  Even (closingBackslashes literal) →
    ∀ replacement ∈ book.correct? name (Token.quoted literal),
      Even (closingBackslashes (Token.ofSource replacement.text).content)

instance (book : Rulebook) (name literal : Text) : Decidable (book.StaysClosed name literal) :=
  inferInstanceAs (Decidable (_ → _))

/-- **What escapes a closing quote**: an escaped full stop, an escaped blank or an escaped name that
goes and leaves the backslash, and a backslash that goes as the name or with it, be it that the name
stands there only in upper case. -/
theorem not_staysClosed :
    ¬ default.StaysClosed "foo".toList "Tool \\.".toList ∧
    ¬ default.StaysClosed "foo".toList "Tool \\ ".toList ∧
    ¬ default.StaysClosed "foo".toList "tool \\foo".toList ∧
    ¬ default.StaysClosed "\\".toList "tool x\\\\".toList ∧
    ¬ default.StaysClosed "ss\\".toList "ß\\\\ ".toList := by
  decide +kernel

end Rulebook

end Blurb
