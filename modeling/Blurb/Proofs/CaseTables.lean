import Blurb.Text.Blank
import Blurb.Text.Case

/-! # What the case tables bring

Facts about upper-casing and case folding that hold of every character. Each is read off the tables
by a check of the ranges against each other, and lifted from the ranges to the characters.

* `upper_of_mem_upper` — what upper-casing brings is in upper case itself.
* `brought_of_mem_upper` — it brings no blanks, and of the ASCII characters only capital letters.
* `upper_letters_or_nodup` — where it brings several characters, they are all letters, or no two of
  them are the same up to case.
* `isFoldedLetter_iff` — the letters up to case, as code points. -/

namespace Blurb

/-! ## Ranges -/

namespace CaseRange

/-- A code point that is found lies in one of the ranges, which gives its image. -/
theorem exists_of_lookup {n m : Nat} {ranges : List CaseRange} (h : lookup n ranges = some m) :
    ∃ r ∈ ranges, r.Holds n ∧ m = r.image + (n - r.first) := by
  induction ranges with
  | nil => simp at h
  | cons r rest ih =>
    rw [lookup] at h
    split at h
    · simp at h
    · split at h
      · next hr => exact ⟨r, by simp, hr, by simpa using h.symm⟩
      · obtain ⟨s, hs, hn, hm⟩ := ih h
        exact ⟨s, List.mem_cons_of_mem _ hs, hn, hm⟩

/-- A code point outside all ranges is not found. -/
theorem lookup_eq_none {n : Nat} {ranges : List CaseRange} (h : ∀ r ∈ ranges, ¬ r.Holds n) :
    lookup n ranges = none := by
  cases hl : lookup n ranges with
  | none => rfl
  | some m =>
    obtain ⟨r, hr, hn, -⟩ := exists_of_lookup hl
    exact absurd hn (h r hr)

/-- The image of the highest code point of the run. -/
def top (r : CaseRange) : Nat := r.image + (r.last - r.first)

/-- The run of a single code point that stays where it is. -/
def point (n : Nat) : CaseRange := ⟨n, n, 1, n⟩

/-- **The images of a run miss another run**: one of them ends before the other starts, or both go
in steps of two and the parities differ. -/
def misses (r s : CaseRange) : Bool :=
  r.top.blt s.first || s.last.blt r.image ||
    ((s.stride % 2).beq 0 && (r.first.beq r.last || (r.stride % 2).beq 0) &&
      ((r.image + s.first) % 2).beq 1)

theorem image_le_top {r : CaseRange} {n : Nat} (h : r.Holds n) :
    r.image + (n - r.first) ≤ r.top := by
  have := h.2.1
  unfold top
  omega

theorem not_holds_of_misses {r s : CaseRange} {n : Nat} (hm : r.misses s = true)
    (hr : r.Holds n) : ¬ s.Holds (r.image + (n - r.first)) := by
  intro hs
  have htop := image_le_top hr
  obtain ⟨hn₁, hn₂, hn₃⟩ := hr
  obtain ⟨hs₁, hs₂, hs₃⟩ := hs
  simp only [misses, Bool.or_eq_true, Bool.and_eq_true, Nat.blt_eq, Nat.beq_eq] at hm
  rcases hm with (h | h) | ⟨⟨heven, hr⟩, hparity⟩
  · omega
  · omega
  · -- the distances to the starts of both runs are even
    have hs₂ : (r.image + (n - r.first) - s.first) % 2 = 0 := by
      rw [← Nat.mod_mod_of_dvd _ (Nat.dvd_of_mod_eq_zero heven), hs₃]
    have hn₂ : (n - r.first) % 2 = 0 := by
      rcases hr with h | h
      · omega
      · rw [← Nat.mod_mod_of_dvd _ (Nat.dvd_of_mod_eq_zero h), hn₃]
    omega

end CaseRange

/-- A code point of a character, taken from the character again. -/
theorem toNat_ofNat {n : Nat} (h : n.isValidChar) : (Char.ofNat n).toNat = n := by
  rw [Char.ofNat, dif_pos h]
  rfl

/-! ## Upper case -/

open CaseRange

/-- A character that neither table of upper-case images knows is its own upper case. -/
theorem upper_eq_self {c : Char} (hr : ∀ r ∈ upperRanges, ¬ r.Holds c.toNat)
    (he : ∀ p ∈ upperExpansions, p.1 ≠ c.toNat) : upper c = [c] := by
  have hnone : upperExpansions.lookup c.toNat = none := by
    rw [List.lookup_eq_none_iff]
    intro p hp
    simpa using (he p hp).symm
  rw [upper, hnone]
  simp only [lookup_eq_none hr, Option.getD_none, Char.ofNat_toNat]

/-- **Where the upper case of a character comes from**: the character itself, a range, or an
expansion. -/
theorem upper_cases (c : Char) :
    upper c = [c] ∨
      (∃ r ∈ upperRanges, r.Holds c.toNat ∧
        upper c = [Char.ofNat (r.image + (c.toNat - r.first))]) ∨
      ∃ p ∈ upperExpansions, c.toNat = p.1 ∧ upper c = p.2.map Char.ofNat := by
  cases he : upperExpansions.lookup c.toNat with
  | some expansion =>
    refine Or.inr (Or.inr ⟨(c.toNat, expansion), ?_, rfl, by rw [upper, he]⟩)
    obtain ⟨before, after, h, -⟩ := List.lookup_eq_some_iff.1 he
    rw [h]
    simp
  | none =>
    cases hr : CaseRange.lookup c.toNat upperRanges with
    | some m =>
      obtain ⟨r, hmem, hn, rfl⟩ := exists_of_lookup hr
      exact Or.inr (Or.inl ⟨r, hmem, hn, by rw [upper, he]; simp [hr]⟩)
    | none => exact Or.inl (by rw [upper, he]; simp [hr])

/-- The code points that a range can bring, checked against the surrogates, ASCII, the blanks and
both tables. The first capital letters are brought by the range of the small letters alone. -/
theorem upperRanges_checked : ∀ r ∈ upperRanges,
    (r.top < 0xD800 ∨ 0xE000 ≤ r.image ∧ r.top < 0x110000) ∧
    (0x41 ≤ r.image ∧ r.top ≤ 0x5A ∨ 0x80 ≤ r.image) ∧
    (∀ b ∈ [(0x85, 0x85), (0xA0, 0xA0), (0x1680, 0x1680), (0x2000, 0x200A), (0x2028, 0x2029),
      (0x202F, 0x202F), (0x205F, 0x205F), (0x3000, 0x3000)], r.top < b.1 ∨ b.2 < r.image) ∧
    upperRanges.all r.misses = true ∧
    (upperExpansions.all fun p => r.misses (point p.1)) = true ∧
    (0x48 < r.image ∨ r = ⟨0x61, 0x7A, 1, 0x41⟩) := by
  decide +kernel

/-- The same checks for the code points of the expansions. The characters of an expansion are all
letters, or no two of them are the same up to case; none is a C, and only the expansion of U+1E9A
starts with an A. -/
theorem upperExpansions_checked : ∀ p ∈ upperExpansions,
    p.2 ≠ [] ∧
    (∀ x ∈ p.2,
      (x < 0xD800 ∨ 0xE000 ≤ x ∧ x < 0x110000) ∧ (0x41 ≤ x ∧ x ≤ 0x5A ∨ 0x80 ≤ x) ∧
      isBlank (Char.ofNat x) = false ∧ upper (Char.ofNat x) = [Char.ofNat x] ∧ x ≠ 0x43) ∧
    ((p.2.map Char.ofNat).all isFoldedLetter = true ∨ ((p.2.map Char.ofNat).map fold).Nodup) ∧
    (p.2.head? = some 0x41 → p.2 = [0x41, 0x2BE]) := by
  decide +kernel

theorem upper_ne_nil (c : Char) : upper c ≠ [] := by
  rcases upper_cases c with h | ⟨r, -, -, h⟩ | ⟨p, hp, -, h⟩
  · rw [h]
    simp
  · rw [h]
    simp
  · rw [h]
    simpa using (upperExpansions_checked p hp).1

/-- The image that a range brings is a character, its own upper case, no blank, and a capital letter
if it is ASCII. -/
theorem image_of_upperRanges {r : CaseRange} {n : Nat} (hr : r ∈ upperRanges) (hn : r.Holds n) :
    let x := Char.ofNat (r.image + (n - r.first))
    x.toNat = r.image + (n - r.first) ∧ upper x = [x] ∧ isBlank x = false ∧
      (x.toNat < 0x80 → 0x41 ≤ x.toNat ∧ x.toNat ≤ 0x5A) := by
  intro x
  obtain ⟨hvalid, hascii, hblank, hranges, hexpansions, -⟩ := upperRanges_checked r hr
  have htop := image_le_top hn
  have hx : x.toNat = r.image + (n - r.first) := toNat_ofNat (by unfold Nat.isValidChar; omega)
  refine ⟨hx, upper_eq_self ?_ ?_, ?_, ?_⟩
  · intro s hs
    rw [hx]
    exact not_holds_of_misses (List.all_eq_true.1 hranges s hs) hn
  · intro p hp heq
    refine not_holds_of_misses (List.all_eq_true.1 hexpansions p hp) hn ?_
    rw [← hx, ← heq]
    simp [point, Holds]
  · simp only [List.mem_cons, List.not_mem_nil, or_false, forall_eq_or_imp, forall_eq] at hblank
    rw [isBlank, hx]
    simp only [Bool.or_eq_false_iff, Bool.and_eq_false_iff, decide_eq_false_iff_not,
      beq_eq_false_iff_ne]
    omega
  · omega

/-- The same for what an expansion brings. -/
theorem image_of_upperExpansions {p : Nat × List Nat} {n : Nat} (hp : p ∈ upperExpansions)
    (hn : n ∈ p.2) :
    let x := Char.ofNat n
    x.toNat = n ∧ upper x = [x] ∧ isBlank x = false ∧
      (x.toNat < 0x80 → 0x41 ≤ x.toNat ∧ x.toNat ≤ 0x5A) := by
  intro x
  obtain ⟨hvalid, hascii, hblank, hupper, -⟩ := (upperExpansions_checked p hp).2.1 n hn
  have hx : x.toNat = n := toNat_ofNat (by unfold Nat.isValidChar; omega)
  exact ⟨hx, hupper, hblank, by omega⟩

/-- **What upper-casing brings**: characters that are their own upper case, no blanks, and of the
ASCII characters only capital letters. -/
theorem brought_of_mem_upper {x c : Char} (hx : x ∈ upper c) (hc : upper c ≠ [c]) :
    upper x = [x] ∧ isBlank x = false ∧ (x.toNat < 0x80 → 0x41 ≤ x.toNat ∧ x.toNat ≤ 0x5A) := by
  rcases upper_cases c with h | ⟨r, hr, hn, h⟩ | ⟨p, hp, -, h⟩
  · exact absurd h hc
  · rw [h, List.mem_singleton] at hx
    rw [hx]
    exact (image_of_upperRanges hr hn).2
  · rw [h, List.mem_map] at hx
    obtain ⟨n, hn, rfl⟩ := hx
    exact (image_of_upperExpansions hp hn).2

/-- **Upper-casing settles in one step.** -/
theorem upper_of_mem_upper {x c : Char} (hx : x ∈ upper c) : upper x = [x] := by
  by_cases hc : upper c = [c]
  · rw [hc, List.mem_singleton] at hx
    rw [hx, hc]
  · exact (brought_of_mem_upper hx hc).1

/-! ## Letters up to case -/

theorem isSmallLetter_iff {c : Char} :
    isSmallLetter c = true ↔ 0x61 ≤ c.toNat ∧ c.toNat ≤ 0x7A := by
  simp only [isSmallLetter, Bool.and_eq_true, decide_eq_true_eq, Char.le_def,
    UInt32.le_iff_toNat_le]
  rfl

/-- No range folds to anything before the small letters, and those that fold to small letters are
the capital letters, the long s and the Kelvin sign. -/
theorem foldRanges_checked : ∀ r ∈ foldRanges,
    (r.top < 0xD800 ∨ 0xE000 ≤ r.image ∧ r.top < 0x110000) ∧ 0x61 ≤ r.image ∧
    (r.top < 0x61 ∨ 0x7A < r.image ∨ 0x41 ≤ r.first ∧ r.last ≤ 0x5A ∨
      r.first = r.last ∧ (r.first = 0x17F ∨ r.first = 0x212A)) := by
  decide +kernel

/-- A character that folds to one before the small letters folds to itself. -/
theorem fold_eq_self_of_lt {c : Char} (h : (fold c).toNat < 0x61) : fold c = c := by
  rw [fold] at h ⊢
  split at h
  · next m hm =>
    obtain ⟨r, hr, hn, rfl⟩ := exists_of_lookup hm
    obtain ⟨hvalid, himage, -⟩ := foldRanges_checked r hr
    have htop := image_le_top hn
    rw [toNat_ofNat (by unfold Nat.isValidChar; omega)] at h
    omega
  · rfl

theorem isFoldedLetter_ascii : ∀ n < 0x7B, 0x41 ≤ n ∧ n ≤ 0x5A ∨ 0x61 ≤ n →
    isFoldedLetter (Char.ofNat n) = true := by
  decide

/-- **The letters up to case**: A to Z, a to z, the long s and the Kelvin sign. -/
theorem isFoldedLetter_iff {c : Char} : isFoldedLetter c = true ↔
    0x41 ≤ c.toNat ∧ c.toNat ≤ 0x5A ∨ 0x61 ≤ c.toNat ∧ c.toNat ≤ 0x7A ∨
      c.toNat = 0x17F ∨ c.toNat = 0x212A := by
  constructor
  · intro h
    rw [isFoldedLetter, isSmallLetter_iff, fold] at h
    split at h
    · next m hm =>
      obtain ⟨r, hr, hn, rfl⟩ := exists_of_lookup hm
      obtain ⟨hvalid, -, hletter⟩ := foldRanges_checked r hr
      have htop := image_le_top hn
      rw [toNat_ofNat (by unfold Nat.isValidChar; omega)] at h
      have hlow := hn.1
      have hhigh := hn.2.1
      omega
    · omega
  · intro h
    rcases h with h | h | h | h
    · rw [← Char.ofNat_toNat c]
      exact isFoldedLetter_ascii _ (by omega) (Or.inl h)
    · rw [← Char.ofNat_toNat c]
      exact isFoldedLetter_ascii _ (by omega) (Or.inr h.1)
    · rw [← Char.ofNat_toNat c, h]
      decide
    · rw [← Char.ofNat_toNat c, h]
      decide

/-- No blank is a letter. -/
theorem isFoldedLetter_of_isBlank {c : Char} (h : isBlank c = true) : isFoldedLetter c = false := by
  rw [Bool.eq_false_iff, ne_eq, isFoldedLetter_iff]
  simp only [isBlank, Bool.or_eq_true, Bool.and_eq_true, decide_eq_true_eq, beq_iff_eq] at h
  omega

theorem upper_letter_ascii : ∀ n < 0x7B, 0x41 ≤ n ∧ n ≤ 0x5A ∨ 0x61 ≤ n →
    (upper (Char.ofNat n)).all isFoldedLetter = true := by
  decide

theorem upper_small_ascii : ∀ n < 0x7B, 0x61 ≤ n → upper (Char.ofNat n) ≠ [Char.ofNat n] := by
  decide

/-- A small letter is not its own upper case. -/
theorem upper_ne_of_isSmallLetter {c : Char} (hc : isSmallLetter c = true) : upper c ≠ [c] := by
  obtain ⟨hlow, hhigh⟩ := isSmallLetter_iff.1 hc
  have h := upper_small_ascii c.toNat (by omega) hlow
  rwa [Char.ofNat_toNat] at h

-- the Kelvin sign is looked up behind most ranges of both tables
set_option maxRecDepth 4000 in
/-- The upper case of a letter consists of letters. -/
theorem isFoldedLetter_of_mem_upper {x c : Char} (hx : x ∈ upper c)
    (hc : isFoldedLetter c = true) : isFoldedLetter x = true := by
  suffices h : (upper c).all isFoldedLetter = true from List.all_eq_true.1 h x hx
  rw [← Char.ofNat_toNat c]
  rcases isFoldedLetter_iff.1 hc with h | h | h | h
  · exact upper_letter_ascii _ (by omega) (Or.inl h)
  · exact upper_letter_ascii _ (by omega) (Or.inr h.1)
  · rw [h]
    decide
  · rw [h]
    decide

/-- **Several characters brought at once** are all letters, or no two of them are the same up to
case. -/
theorem upper_letters_or_nodup (c : Char) :
    (∀ x ∈ upper c, isFoldedLetter x = true) ∨ ((upper c).map fold).Nodup := by
  rcases upper_cases c with h | ⟨r, -, -, h⟩ | ⟨p, hp, -, h⟩
  · rw [h]
    simp
  · rw [h]
    simp
  · rw [h, ← List.all_eq_true]
    exact (upperExpansions_checked p hp).2.2.1

/-! ## Where the letters a and c come from -/

/-- Outside the long s and the Kelvin sign, only ASCII folds to small letters. -/
theorem toNat_lt_of_fold {c l : Char} (h : fold c = l) (hl : isSmallLetter l = true)
    (hs : l ≠ 's') (hk : l ≠ 'k') : c.toNat < 0x7B := by
  have hc : isFoldedLetter c = true := by rw [isFoldedLetter, h, hl]
  rcases isFoldedLetter_iff.1 hc with hn | hn | hn | hn
  · omega
  · omega
  · refine absurd ?_ hs
    rw [← h, ← Char.ofNat_toNat c, hn]
    decide
  · refine absurd ?_ hk
    rw [← h, ← Char.ofNat_toNat c, hn]
    decide

theorem fold_ascii : ∀ n < 0x7B,
    (fold (Char.ofNat n) = 'a' → n = 0x41 ∨ n = 0x61) ∧
      (fold (Char.ofNat n) = 'c' → n = 0x43 ∨ n = 0x63) := by
  decide

theorem toNat_of_fold_a {c : Char} (h : fold c = 'a') : c.toNat = 0x41 ∨ c.toNat = 0x61 :=
  (fold_ascii _ (toNat_lt_of_fold h (by decide) (by decide) (by decide))).1
    (by rwa [Char.ofNat_toNat])

theorem toNat_of_fold_c {c : Char} (h : fold c = 'c') : c.toNat = 0x43 ∨ c.toNat = 0x63 :=
  (fold_ascii _ (toNat_lt_of_fold h (by decide) (by decide) (by decide))).2
    (by rwa [Char.ofNat_toNat])

/-- A small letter whose upper case is one of the first capital letters, from the range. -/
theorem toNat_of_capital {r : CaseRange} {n : Nat} (hr : r ∈ upperRanges) (hn : r.Holds n)
    (hcap : r.image + (n - r.first) ≤ 0x48) : n = r.image + (n - r.first) + 0x20 := by
  rcases (upperRanges_checked r hr).2.2.2.2.2 with h | rfl
  · omega
  · have := hn.1
    simp only at this ⊢
    omega

/-- A letter c in the upper case of a character is all of it, and the character is a letter c. -/
theorem of_mem_upper_of_fold_c {x c : Char} (hx : x ∈ upper c) (h : fold x = 'c') :
    upper c = [x] ∧ fold c = 'c' := by
  by_cases hself : upper c = [c]
  · rw [hself, List.mem_singleton] at hx
    rw [← hx]
    exact ⟨hx ▸ hself, h⟩
  · have hcode := toNat_of_fold_c h
    have hcapital := (brought_of_mem_upper hx hself).2.2 (by omega)
    rcases upper_cases c with hu | ⟨r, hr, hn, hu⟩ | ⟨p, hp, -, hu⟩
    · exact absurd hu hself
    · rw [hu, List.mem_singleton] at hx
      have himage := (image_of_upperRanges hr hn).1
      rw [← hx] at himage
      have hc := toNat_of_capital hr hn (by omega)
      refine ⟨by rw [hu, hx], ?_⟩
      rw [← Char.ofNat_toNat c, hc, ← himage, show x.toNat = 0x43 by omega]
      decide
    · rw [hu, List.mem_map] at hx
      obtain ⟨n, hn, rfl⟩ := hx
      have himage := (image_of_upperExpansions hp hn).1
      exact absurd (by omega) ((upperExpansions_checked p hp).2.1 n hn).2.2.2.2

/-- A letter a at the start of the upper case of a character: the character is a letter a, or a
modifier follows that is neither blank nor a letter. -/
theorem of_upper_eq_cons_of_fold_a {x c : Char} {rest : Text} (hu : upper c = x :: rest)
    (h : fold x = 'a') : rest = [] ∧ fold c = 'a' ∨ rest = [Char.ofNat 0x2BE] := by
  have hx : x ∈ upper c := by simp [hu]
  by_cases hself : upper c = [c]
  · rw [hself, List.cons.injEq] at hu
    exact Or.inl ⟨hu.2.symm, hu.1 ▸ h⟩
  · have hcode := toNat_of_fold_a h
    have hcapital := (brought_of_mem_upper hx hself).2.2 (by omega)
    rcases upper_cases c with hu' | ⟨r, hr, hn, hu'⟩ | ⟨p, hp, -, hu'⟩
    · exact absurd hu' hself
    · rw [hu', List.cons.injEq] at hu
      have himage := (image_of_upperRanges hr hn).1
      rw [hu.1] at himage
      have hc := toNat_of_capital hr hn (by omega)
      refine Or.inl ⟨hu.2.symm, ?_⟩
      rw [← Char.ofNat_toNat c, hc, ← himage, show x.toNat = 0x41 by omega]
      decide
    · rw [hu', List.map_eq_cons_iff] at hu
      obtain ⟨n, tail, hp2, hn, htail⟩ := hu
      have himage := (image_of_upperExpansions hp (n := n) (by simp [hp2])).1
      rw [hn] at himage
      have hexp := (upperExpansions_checked p hp).2.2.2 (by rw [hp2, List.head?_cons]; congr; omega)
      rw [hp2, List.cons.injEq] at hexp
      exact Or.inr (by rw [← htail, hexp.2]; rfl)

end Blurb
