import Blurb.Proofs.NameRemoval
import Blurb.Proofs.PhraseEnds

/-! # Footholds

The measure that corrections go down by. A *foothold* is a character at which a correction can still
take hold; a letter directly behind a letter is none, because a name is only removed as a word of
its own. Cutting a text shortens it by a foothold at least, and upper-casing its first character,
though it may bring up to three characters, puts at most one foothold in the place of one.

* `Shrinks` — a text stays as it is or loses footholds; what every cut does.
* `footholds_upper_append` — upper-casing the first character brings no footholds.
* `footholds_hyphenate_le` — a hyphenated text has at most as many footholds as the text had
  characters before, although hyphens were put in. -/

namespace Blurb.Phrase

open Text

/-! ## The measure -/

/-- **A character at which a correction can take hold**: a blank, a full stop, a character that is
not its own upper case, or one that the name can start with. -/
def isFoothold (name : Text) (c : Char) : Bool :=
  isBlank c || c == '.' || upper c != [c] || name.head?.any fun d => fold d == fold c

/-- **The number of footholds in a text**, which stands behind a letter or does not. -/
def footholds (name : Text) : Bool → Text → Nat
  | _, [] => 0
  | inWord, c :: rest =>
    (if !(inWord && isFoldedLetter c) && isFoothold name c then 1 else 0) +
      footholds name (isFoldedLetter c) rest

/-- What follows a text stands behind a letter. -/
def inWordAfter (inWord : Bool) (t : Text) : Bool := t.foldl (fun _ c => isFoldedLetter c) inWord

variable {name : Text}

@[simp] theorem footholds_nil (inWord : Bool) : footholds name inWord [] = 0 := rfl

theorem footholds_cons (inWord : Bool) (c : Char) (rest : Text) :
    footholds name inWord (c :: rest) =
      (if !(inWord && isFoldedLetter c) && isFoothold name c then 1 else 0) +
        footholds name (isFoldedLetter c) rest := rfl

theorem footholds_append (inWord : Bool) (t u : Text) :
    footholds name inWord (t ++ u) =
      footholds name inWord t + footholds name (inWordAfter inWord t) u := by
  induction t generalizing inWord with
  | nil => simp [inWordAfter]
  | cons c rest ih =>
    rw [List.cons_append, footholds_cons, footholds_cons, ih, Nat.add_assoc]
    rfl

variable (name) in
theorem footholds_cons_le (inWord : Bool) (c : Char) (rest : Text) :
    footholds name inWord (c :: rest) ≤ 1 + footholds name (isFoldedLetter c) rest := by
  rw [footholds_cons]
  split <;> omega

theorem footholds_le_length (inWord : Bool) (t : Text) : footholds name inWord t ≤ t.length := by
  induction t generalizing inWord with
  | nil => simp
  | cons c rest ih =>
    have h := ih (isFoldedLetter c)
    refine Nat.le_trans (footholds_cons_le name inWord c rest) ?_
    rw [List.length_cons]
    omega

/-- Behind a letter there are at most as many footholds as elsewhere. -/
theorem footholds_le_false (inWord : Bool) (t : Text) :
    footholds name inWord t ≤ footholds name false t := by
  cases t with
  | nil => simp
  | cons c rest =>
    rw [footholds_cons, footholds_cons]
    cases inWord <;> cases isFoldedLetter c <;> simp

/-- A character that is no letter ends the word. -/
theorem footholds_cons_of_not_letter {c : Char} (hc : isFoldedLetter c = false) (inWord : Bool)
    (rest : Text) :
    footholds name inWord (c :: rest) =
      (if isFoothold name c then 1 else 0) + footholds name false rest := by
  rw [footholds_cons, hc]
  simp

theorem footholds_cons_of_isBlank {c : Char} (hc : isBlank c = true) (inWord : Bool)
    (rest : Text) : footholds name inWord (c :: rest) = 1 + footholds name false rest := by
  rw [footholds_cons_of_not_letter (isFoldedLetter_of_isBlank hc), if_pos]
  simp [isFoothold, hc]

variable (name) in
/-- A text of letters behind a letter has no foothold. -/
theorem footholds_true_append {word : Text} (hword : ∀ x ∈ word, isFoldedLetter x = true)
    (rest : Text) : footholds name true (word ++ rest) = footholds name true rest := by
  induction word with
  | nil => rfl
  | cons c word ih =>
    rw [List.cons_append, footholds_cons, hword c (by simp),
      ih fun x hx => hword x (List.mem_cons_of_mem _ hx)]
    simp

theorem footholds_eq_zero {inWord : Bool} {t : Text} (h : ∀ x ∈ t, isFoothold name x = false) :
    footholds name inWord t = 0 := by
  induction t generalizing inWord with
  | nil => rfl
  | cons c rest ih =>
    rw [footholds_cons, h c (by simp), ih fun x hx => h x (List.mem_cons_of_mem c hx)]
    simp

/-! ## Cuts -/

/-- **A text shrinks to another one**: it stays as it is, or it loses footholds. -/
def Shrinks (name t u : Text) : Prop :=
  u = t ∨ footholds name false u < footholds name false t

theorem Shrinks.refl (t : Text) : Shrinks name t t := Or.inl rfl

theorem Shrinks.le {t u : Text} (h : Shrinks name t u) :
    footholds name false u ≤ footholds name false t := by
  rcases h with rfl | h
  · exact Nat.le_refl _
  · exact Nat.le_of_lt h

theorem Shrinks.trans {t u v : Text} (h₁ : Shrinks name t u) (h₂ : Shrinks name u v) :
    Shrinks name t v := by
  rcases h₁ with rfl | h₁
  · exact h₂
  · exact Or.inr (Nat.lt_of_le_of_lt h₂.le h₁)

theorem shrinks_trimStart (t : Text) : Shrinks name t (trimStart t) := by
  induction t with
  | nil => exact Shrinks.refl _
  | cons c rest ih =>
    by_cases hc : isBlank c = true
    · right
      rw [trimStart, List.dropWhile_cons_of_pos hc, footholds_cons_of_isBlank hc]
      have : footholds name false (trimStart rest) ≤ footholds name false rest := ih.le
      rw [trimStart] at this
      omega
    · left
      rw [trimStart, List.dropWhile_cons_of_neg hc]

theorem shrinks_trimEnd (t : Text) : Shrinks name t (trimEnd t) := by
  have happ := trimEnd_append_trailingBlanks t
  cases hblanks : trailingBlanks t with
  | nil =>
    left
    rw [hblanks, List.append_nil] at happ
    exact happ
  | cons c blanks =>
    right
    have hc : isBlank c = true := isBlank_of_mem_trailingBlanks (t := t) (by simp [hblanks])
    rw [hblanks] at happ
    calc footholds name false (trimEnd t)
        < footholds name false (trimEnd t ++ c :: blanks) := by
          rw [footholds_append, footholds_cons_of_isBlank hc]
          omega
      _ = footholds name false t := by rw [happ]

theorem shrinks_trim (t : Text) : Shrinks name t (trim t) :=
  (shrinks_trimStart t).trans (shrinks_trimEnd _)

theorem shrinks_dropArticle (t : Text) : Shrinks name t (dropArticle t) := by
  cases h : stripArticle? t with
  | none => exact Or.inl (dropArticle_eq_self_iff.2 h)
  | some parts =>
    right
    obtain ⟨b, after, ht, hb, hdrop⟩ := dropArticle_of_some h
    have hle : footholds name false (trimStart after) ≤ footholds name false after :=
      (shrinks_trimStart after).le
    rw [hdrop, ht, footholds_append, footholds_cons_of_isBlank hb]
    omega

theorem shrinks_dropFullStop (t : Text) : Shrinks name t (dropFullStop t) := by
  by_cases h : endsWithFullStop t = true
  · right
    have ht := eq_append_of_endsWithFullStop h
    calc footholds name false (dropFullStop t)
        < footholds name false (dropFullStop t ++ ['.']) := by
          rw [footholds_append,
            footholds_cons_of_not_letter (show isFoldedLetter '.' = false by decide)]
          simp [isFoothold]
      _ = footholds name false t := by rw [← ht]
  · exact Or.inl (dropFullStop_eq_self_iff.2 (Bool.eq_false_iff.2 h))

/-! ## Removing the name -/

/-- An occurrence of the name starts with a foothold. -/
theorem footholds_found_pos {found : Text} (hname : name ≠ [])
    (hfound : found.map fold = name.map fold) : 0 < footholds name false found := by
  obtain ⟨d, name, rfl⟩ := List.exists_cons_of_ne_nil hname
  rw [List.map_cons, List.map_eq_cons_iff] at hfound
  obtain ⟨c, rest, rfl, hc, -⟩ := hfound
  have hfoothold : isFoothold (d :: name) c = true := by simp [isFoothold, hc]
  rw [footholds_cons, hfoothold]
  exact Nat.lt_of_lt_of_le Nat.zero_lt_one (Nat.le_add_right _ _)

/-- With an occurrence goes a foothold, whatever becomes of the rest. -/
theorem footholds_stripClosedName? {t close after u : Text} (hname : name ≠ [])
    (h : stripClosedName? name t = some (close, after))
    (hu : footholds name false u ≤ footholds name false after) :
    footholds name false (close ++ u) < footholds name false t := by
  obtain ⟨found, rfl, hfound, hclose⟩ := stripClosedName?_eq_some_iff.1 h
  have hpos := footholds_found_pos hname hfound
  rw [footholds_append false found]
  rcases hclose with ⟨rfl, rfl⟩ | ⟨d, rfl, hd⟩
  · rw [footholds_nil, Nat.le_zero] at hu
    rw [List.nil_append, hu]
    omega
  · have hletter : isFoldedLetter d = false := by simpa [isDelimiter] using hd
    rw [List.singleton_append, List.singleton_append, footholds_cons_of_not_letter hletter,
      footholds_cons_of_not_letter hletter]
    omega

/-- Removal inside a text leaves it as it is or takes footholds away, also behind a letter. -/
theorem removeInnerNames_eq_or_lt (hname : name ≠ []) (t : Text) :
    removeInnerNames name t = t ∨ ∀ inWord,
      footholds name inWord (removeInnerNames name t) < footholds name inWord t := by
  induction t using removeInnerNames_induction name with
  | nil => exact Or.inl (removeInnerNames_nil name)
  | removed c rest close after hc hs heq ih =>
    right
    intro inWord
    have hletter : isFoldedLetter c = false := by simpa [isDelimiter] using hc
    have hle : footholds name false (removeInnerNames name after) ≤
        footholds name false after := by
      rcases ih with ih | ih
      · rw [ih]
      · exact Nat.le_of_lt (ih false)
    have hlt := footholds_stripClosedName? hname hs hle
    rw [heq, List.cons_append, footholds_cons_of_not_letter hletter,
      footholds_cons_of_not_letter hletter]
    omega
  | kept c rest heq ih =>
    rcases ih with ih | ih
    · exact Or.inl (by rw [heq, ih])
    · right
      intro inWord
      have hlt := ih (isFoldedLetter c)
      rw [heq, footholds_cons, footholds_cons]
      omega

theorem shrinks_removeInnerNames (hname : name ≠ []) (t : Text) :
    Shrinks name t (removeInnerNames name t) := by
  rcases removeInnerNames_eq_or_lt hname t with h | h
  · exact Or.inl h
  · exact Or.inr (h false)

/-- An occurrence at the start of the text takes footholds with it. -/
theorem footholds_removeName_lt {t close after : Text} (hname : name ≠ [])
    (h : stripClosedName? name t = some (close, after)) :
    footholds name false (removeName name t) < footholds name false t := by
  have hle := (shrinks_removeInnerNames hname after).le
  rw [removeName, if_neg (by simpa using hname), h]
  exact footholds_stripClosedName? hname h hle

theorem shrinks_removeName (t : Text) : Shrinks name t (removeName name t) := by
  by_cases hname : name = []
  · rw [hname]
    exact Shrinks.refl t
  · cases h : stripClosedName? name t with
    | none =>
      rw [removeName, if_neg (by simpa using hname), h]
      exact shrinks_removeInnerNames hname t
    | some parts => exact Or.inr (footholds_removeName_lt hname h)

/-! ## Upper-casing the first character -/

/-- A character that is not its own upper case is a foothold. -/
theorem isFoothold_of_upper_ne {c : Char} (hc : upper c ≠ [c]) : isFoothold name c = true := by
  simp [isFoothold, hc]

/-- What upper-casing brings is a foothold only if the name can start with it. -/
theorem isFoothold_of_mem_upper {x c : Char} (hx : x ∈ upper c) (hc : upper c ≠ [c])
    (h : isFoothold name x = true) : name.head?.map fold = some (fold x) := by
  obtain ⟨hself, hblank, hascii⟩ := brought_of_mem_upper hx hc
  have hstop : x ≠ '.' := by
    rintro rfl
    exact absurd (hascii (by decide)) (by decide)
  simp only [isFoothold, hblank, hself, Bool.false_or, bne_self_eq_false, Bool.or_false,
    Bool.or_eq_true, beq_iff_eq, hstop, false_or] at h
  cases hd : name.head? with
  | none => simp [hd] at h
  | some d => simpa [hd] using h

/-- A text of letters has a foothold at its start only. -/
theorem footholds_le_one_of_letters {word : Text} (hword : ∀ x ∈ word, isFoldedLetter x = true) :
    footholds name false word ≤ 1 := by
  cases word with
  | nil => simp
  | cons c word =>
    have htail := footholds_true_append name
      (fun x hx => hword x (List.mem_cons_of_mem c hx)) []
    have hle := footholds_cons_le name false c word
    rw [List.append_nil, footholds_nil] at htail
    rw [hword c (by simp), htail] at hle
    exact hle

/-- Of characters that are pairwise distinct up to case, the name can start with one only. -/
theorem footholds_le_one_of_nodup {t : Text} (inWord : Bool) (hnodup : (t.map fold).Nodup)
    (ht : ∀ x ∈ t, isFoothold name x = true → name.head?.map fold = some (fold x)) :
    footholds name inWord t ≤ 1 := by
  induction t generalizing inWord with
  | nil => simp
  | cons c rest ih =>
    rw [List.map_cons, List.nodup_cons] at hnodup
    have hrest : ∀ x ∈ rest, isFoothold name x = true → name.head?.map fold = some (fold x) :=
      fun x hx => ht x (List.mem_cons_of_mem c hx)
    by_cases hc : isFoothold name c = true
    · -- no other character is one the name can start with
      have hzero : ∀ x ∈ rest, isFoothold name x = false := by
        intro x hx
        rw [Bool.eq_false_iff]
        intro hfoothold
        have heq := (ht c (by simp) hc).symm.trans (hrest x hx hfoothold)
        rw [Option.some.injEq] at heq
        exact hnodup.1 (heq ▸ List.mem_map_of_mem hx)
      rw [footholds_cons, footholds_eq_zero hzero]
      split <;> omega
    · rw [footholds_cons, Bool.eq_false_iff.2 hc, Bool.and_false]
      simpa using ih (isFoldedLetter c) hnodup.2 hrest

variable (name) in
/-- **What upper-casing brings has at most one foothold.** -/
theorem footholds_upper_le_one (c : Char) : footholds name false (upper c) ≤ 1 := by
  by_cases hc : upper c = [c]
  · rw [hc]
    exact footholds_le_length false [c]
  · rcases upper_letters_or_nodup c with hletters | hnodup
    · exact footholds_le_one_of_letters hletters
    · exact footholds_le_one_of_nodup false hnodup fun x hx => isFoothold_of_mem_upper hx hc

/-- Behind the upper case of a letter stands what stood behind a letter. -/
theorem inWordAfter_upper {c : Char} (hc : isFoldedLetter c = true) :
    inWordAfter false (upper c) = true := by
  have hletters := fun x hx => isFoldedLetter_of_mem_upper (x := x) hx hc
  obtain ⟨x, rest, hu⟩ := List.exists_cons_of_ne_nil (upper_ne_nil c)
  rw [hu] at hletters ⊢
  clear hu
  induction rest generalizing x with
  | nil => exact hletters x (by simp)
  | cons y rest ih => exact ih y fun z hz => hletters z (List.mem_cons_of_mem x hz)

/-- **Upper-casing the first character brings no footholds.** -/
theorem footholds_upper_append (c : Char) (rest : Text) :
    footholds name false (upper c ++ rest) ≤ footholds name false (c :: rest) := by
  by_cases hc : upper c = [c]
  · rw [hc, List.singleton_append]
  · have hone := footholds_upper_le_one name c
    have hrest : footholds name (inWordAfter false (upper c)) rest ≤
        footholds name (isFoldedLetter c) rest := by
      cases hletter : isFoldedLetter c with
      | true => rw [inWordAfter_upper hletter]
      | false => exact footholds_le_false _ rest
    rw [footholds_append, footholds_cons, isFoothold_of_upper_ne hc]
    simp only [Bool.false_and, Bool.not_false, Bool.and_true, if_true]
    omega

/-! ## Hyphenation -/

variable (name) in
/-- The hyphenated spelling has three places for footholds: its two words and the hyphen. -/
theorem footholds_hyphenated_le (inWord : Bool) {c : Char} (hc : isFoldedLetter c = true)
    (rest : Text) :
    footholds name inWord (c :: hyphenated ++ rest) ≤ 3 + footholds name true rest := by
  have hfirst : ∀ x ∈ ['o', 'm', 'm', 'a', 'n', 'd'], isFoldedLetter x = true :=
    List.all_eq_true.1 (by decide)
  have hsecond : ∀ x ∈ ['i', 'n', 'e'], isFoldedLetter x = true := List.all_eq_true.1 (by decide)
  have h₁ := footholds_cons_le name inWord c
    (['o', 'm', 'm', 'a', 'n', 'd'] ++ '-' :: 'l' :: (['i', 'n', 'e'] ++ rest))
  have h₂ := footholds_cons_le name true '-' ('l' :: (['i', 'n', 'e'] ++ rest))
  have h₃ := footholds_cons_le name (isFoldedLetter '-') 'l' (['i', 'n', 'e'] ++ rest)
  rw [hc, footholds_true_append name hfirst] at h₁
  rw [show isFoldedLetter 'l' = true by decide, footholds_true_append name hsecond] at h₃
  exact Nat.le_trans h₁ (by omega)

variable (name) in
/-- **A hyphenated text has at most as many footholds as the text had characters.** -/
theorem footholds_hyphenate_le (inWord : Bool) (t : Text) :
    footholds name inWord (hyphenate t) ≤ t.length := by
  induction t using hyphenate_induction generalizing inWord with
  | nil => simp
  | found c rest found after hs heq ih =>
    obtain ⟨ht, hfound⟩ := stripCommandLine?_eq_some_iff.1 hs
    have hlength := hfound.length_ge
    obtain ⟨d, tail, rfl, hd, -⟩ := hfound.eq_cons
    rw [List.cons_append, List.cons.injEq] at ht
    have hletter : isFoldedLetter c = true := by
      rw [ht.1, isFoldedLetter, hd]
      decide
    have hle := footholds_hyphenated_le name inWord hletter (hyphenate after)
    have hafter := ih true
    rw [heq, ht.2, List.length_cons, List.length_append]
    rw [List.length_cons] at hlength
    omega
  | other c rest hs heq ih =>
    have hle := footholds_cons_le name inWord c (hyphenate rest)
    have hrest := ih (isFoldedLetter c)
    rw [heq, List.length_cons]
    omega

/-- **Upper-casing before the hyphenation does not change that**, though it may bring characters. -/
theorem footholds_hyphenate_upper_le (c : Char) (rest : Text) :
    footholds name false (hyphenate (upper c ++ rest)) ≤ 1 + rest.length := by
  by_cases hc : ∃ x ∈ upper c, fold x = 'c'
  · obtain ⟨x, hx, hxc⟩ := hc
    rw [(of_mem_upper_of_fold_c hx hxc).1, Nat.add_comm, ← List.length_cons (a := x)]
    exact footholds_hyphenate_le name false (x :: rest)
  · push Not at hc
    rw [hyphenate_append hc, footholds_append]
    have hone := footholds_upper_le_one name c
    have hrest := footholds_hyphenate_le name (inWordAfter false (upper c)) rest
    omega

end Blurb.Phrase
